import WorkspaceLink.Proofs.Scanning
import WorkspaceLink.Yaml.Token.Lexer

/-!
# How tokens stop short

Where tokens stop short with a fault, its cause is in the text, or the text was cut off there. The
end of a text that was cut off is not among its tokens.
-/

namespace WorkspaceLink.Yaml

variable {s : Source} {cs : List Char} {c : Cursor}

/-! ## The reader of tokens -/

namespace Lexer

variable {l : Lexer} {t : Token}

/-- A reader of the tokens of a text; the end of a text that was cut off is not read. -/
structure On (s : Source) (l : Lexer) : Prop where
  cut_eq : l.cut = s.cut
  place : l.cursor.In s.chars
  whole : .streamEnd ∈ l.tokens → s.cut = none

theorem closeBlocks_cursor (column : Option Nat) : (l.closeBlocks column).cursor = l.cursor := by
  unfold closeBlocks
  split <;> rfl

theorem in_skipBlanks (n : Nat) (ended : Bool) (h : c.In cs) : (skipBlanks n ended c).2.In cs := by
  induction n generalizing ended c with
  | zero => exact h
  | succ n ih =>
      have comment := (h.dropWhile (· == ' ')).skipComment
      unfold skipBlanks
      dsimp only
      split
      · exact ih _ comment.next
      · exact comment

namespace On

theorem emit (h : On s l) (ht : t ≠ .streamEnd) : On s (l.emit t) :=
  ⟨h.cut_eq, h.place, fun hm => h.whole ((List.mem_cons.mp hm).resolve_left ht.symm)⟩

theorem emitAt (h : On s l) (number : Nat) (ht : t ≠ .streamEnd) : On s (l.emitAt number t) := by
  refine ⟨h.cut_eq, h.place, fun hm => ?_⟩
  rcases List.mem_append.mp hm with hm | hm
  · exact h.whole (List.mem_of_mem_take hm)
  · exact h.whole (List.mem_of_mem_drop ((List.mem_cons.mp hm).resolve_left ht.symm))

theorem openBlock (h : On s l) (column : Nat) : On s (l.openBlock column).2 := by
  unfold Lexer.openBlock
  split
  · exact ⟨h.cut_eq, h.place, h.whole⟩
  · exact h

theorem closeBlocks (h : On s l) (column : Option Nat) : On s (l.closeBlocks column) := by
  unfold Lexer.closeBlocks
  split
  · refine ⟨h.cut_eq, h.place, fun hm => ?_⟩
    rcases List.mem_append.mp hm with hm | hm
    · exact nomatch List.eq_of_mem_replicate hm
    · exact h.whole hm
  · exact h

theorem dropKey (h : On s l) : On s l.dropKey := ⟨h.cut_eq, h.place, h.whole⟩

theorem toNextToken (h : On s l) : On s l.toNextToken := by
  have start : (if l.cursor.index = 0 ∧ l.cursor.peek = some '\ufeff' then l.cursor.next
      else l.cursor).In s.chars := by
    split
    · exact h.place.next
    · exact h.place
  unfold Lexer.toNextToken
  generalize (if l.cursor.index = 0 ∧ l.cursor.peek = some '\ufeff' then l.cursor.next
    else l.cursor) = c at start
  exact ⟨h.cut_eq, in_skipBlanks (c.left + 1) false start, h.whole⟩

theorem settled (h : On s l) (hm : .streamEnd ∈ l.settled) : s.cut = none :=
  h.whole (List.mem_reverse.mp (List.mem_of_mem_take hm))

/-- The fault that counts is the one of the token, or what cut the text off. -/
theorem faultOf (h : On s l) {f : Fault} (hf : Token.Cause s f) : Token.Cause s (l.faultOf f) := by
  unfold Lexer.faultOf
  split
  · rw [h.cut_eq]
    cases hcut : s.cut with
    | none => exact .truncated
    | some g => exact .cut hcut
  · exact hf

theorem giveUpKey (h : On s l) : Yields (Token.Cause s) (On s) l.giveUpKey := by
  unfold Lexer.giveUpKey
  split
  · split
    · exact .error .malformed
    · exact .ok h.dropKey
  · exact .ok h

theorem giveUpStale (h : On s l) :
    Yields (Token.Cause s) (fun m => On s m ∧ m.cursor = l.cursor) l.giveUpStale :=
  .ite (.error .malformed) (.ok ⟨⟨h.cut_eq, h.place, h.whole⟩, rfl⟩)

theorem noteKey (h : On s l) : Yields (Token.Cause s) (On s) l.noteKey := by
  unfold Lexer.noteKey
  split
  · exact h.giveUpKey.bind fun _ h => .pure ⟨h.cut_eq, h.place, h.whole⟩
  · exact .ok h

theorem openAtSign (h : On s l) (ht : t ≠ .streamEnd) :
    Yields (Token.Cause s) (On s) (l.openAtSign t) := by
  unfold Lexer.openAtSign
  split
  · split
    · refine .ok ?_
      split
      · exact (h.openBlock _).emit ht
      · exact h.openBlock _
    · exact .error .malformed
  · exact .ok h

/-- Before the cut there are characters left, so a text that is cut off does not end here. -/
theorem beforeCut (h : On s l) :
    Yields (Token.Cause s) (fun l => On s l ∧ (l.cursor.rest = [] → s.cut = none)) l.beforeCut := by
  unfold Lexer.beforeCut
  split
  · rename_i f hf
    split
    · exact .error (.cut (h.cut_eq.symm.trans hf))
    · rename_i hrest
      exact .ok ⟨h, fun he => absurd (List.isEmpty_iff.mpr he) hrest⟩
  · exact .ok ⟨h, fun _ => h.cut_eq.symm.trans ‹_›⟩

/-! ### Tokens one by one -/

theorem fetchEnd (h : On s l) (hcut : s.cut = none) : Yields (Token.Cause s) (On s) l.fetchEnd :=
  (h.closeBlocks none).giveUpKey.bind fun _ h => .pure ⟨h.cut_eq, h.place, fun _ => hcut⟩

theorem fetchDirective (h : On s l) : Yields (Token.Cause s) (On s) l.fetchDirective :=
  (h.closeBlocks none).giveUpKey.bind fun _ h =>
    (TagName.readsToken_directive h.place).bind fun _ ht =>
      .pure ⟨h.cut_eq, ht.2, (h.emit ht.1).whole⟩

theorem fetchMark (h : On s l) (ht : t ≠ .streamEnd) :
    Yields (Token.Cause s) (On s) (l.fetchMark t) :=
  (h.closeBlocks none).giveUpKey.bind fun _ h =>
    .pure ⟨h.cut_eq, h.place.skip 3, (h.emit ht).whole⟩

theorem fetchOpen (h : On s l) (ht : t ≠ .streamEnd) :
    Yields (Token.Cause s) (On s) (l.fetchOpen t) :=
  h.noteKey.bind fun _ h => .pure ⟨h.cut_eq, h.place.skip 1, (h.emit ht).whole⟩

theorem fetchClose (h : On s l) (ht : t ≠ .streamEnd) :
    Yields (Token.Cause s) (On s) (l.fetchClose t) :=
  h.giveUpKey.bind fun _ h => .pure ⟨h.cut_eq, h.place.skip 1, (h.emit ht).whole⟩

theorem fetchFlowEntry (h : On s l) : Yields (Token.Cause s) (On s) l.fetchFlowEntry :=
  h.giveUpKey.bind fun _ h => .pure ⟨h.cut_eq, h.place.skip 1, (h.emit (by nofun)).whole⟩

theorem fetchBlockEntry (h : On s l) : Yields (Token.Cause s) (On s) l.fetchBlockEntry :=
  (h.openAtSign (by nofun)).bind fun _ h => h.giveUpKey.bind fun _ h =>
    .pure ⟨h.cut_eq, h.place.skip 1, (h.emit (by nofun)).whole⟩

theorem fetchKey (h : On s l) : Yields (Token.Cause s) (On s) l.fetchKey :=
  (h.openAtSign (by nofun)).bind fun _ h => h.giveUpKey.bind fun _ h =>
    .pure ⟨h.cut_eq, h.place.skip 1, (h.emit (by nofun)).whole⟩

theorem fetchValue (h : On s l) : Yields (Token.Cause s) (On s) l.fetchValue := by
  unfold Lexer.fetchValue
  split
  · rename_i k _
    have hkey : On s (l.dropKey.emitAt k.number .key) := h.dropKey.emitAt _ (by nofun)
    dsimp only
    generalize l.dropKey.emitAt k.number .key = l at hkey
    have hopen : On s (if l.inBlock then l.openBlock k.column else (false, l)).2 := by
      split
      · exact hkey.openBlock _
      · exact hkey
    generalize (if l.inBlock then l.openBlock k.column else (false, l)) = r at hopen
    have hput : On s (if r.1 then r.2.emitAt k.number .blockMappingStart else r.2) := by
      split
      · exact hopen.emitAt _ (by nofun)
      · exact hopen
    exact .pure ⟨hput.cut_eq, hput.place.skip 1, (hput.emit (by nofun)).whole⟩
  · exact (h.openAtSign (by nofun)).bind fun _ h =>
      .pure ⟨h.cut_eq, h.place.skip 1, (h.emit (by nofun)).whole⟩

theorem fetchAnchor (h : On s l) {token : String → Token} (ht : ∀ s, token s ≠ .streamEnd) :
    Yields (Token.Cause s) (On s) (l.fetchAnchor token) :=
  h.noteKey.bind fun _ h => (TagName.reads_anchorName h.place.next).bind fun _ hc =>
    .pure ⟨h.cut_eq, hc, (h.emit (ht _)).whole⟩

theorem fetchTag (h : On s l) : Yields (Token.Cause s) (On s) l.fetchTag :=
  h.noteKey.bind fun _ h => (TagName.readsToken_scan h.place).bind fun _ ht =>
    .pure ⟨h.cut_eq, ht.2, (h.emit ht.1).whole⟩

theorem fetchBlockText (h : On s l) (folded : Bool) :
    Yields (Token.Cause s) (On s) (l.fetchBlockText folded) :=
  h.giveUpKey.bind fun _ h => (Block.reads_scan _ _ h.place).bind fun _ hc =>
    .pure ⟨h.cut_eq, hc, (h.emit (by nofun)).whole⟩

theorem fetchQuoted (h : On s l) : Yields (Token.Cause s) (On s) l.fetchQuoted :=
  h.noteKey.bind fun _ h => (Quoted.reads_scan h.place).bind fun _ hc =>
    .pure ⟨h.cut_eq, hc, (h.emit (by nofun)).whole⟩

theorem fetchPlain (h : On s l) : Yields (Token.Cause s) (On s) l.fetchPlain :=
  h.noteKey.bind fun _ h =>
    .pure ⟨h.cut_eq, Plain.in_scan _ _ h.place, (h.emit (by nofun)).whole⟩

theorem fetchAt (h : On s l) (ch : Char) : Yields (Token.Cause s) (On s) (l.fetchAt ch) := by
  unfold Lexer.fetchAt
  exact .ite h.fetchDirective <| .ite (h.fetchMark (by nofun)) <| .ite (h.fetchMark (by nofun)) <|
    .ite (h.fetchOpen (by nofun)) <| .ite (h.fetchOpen (by nofun)) <|
    .ite (h.fetchClose (by nofun)) <| .ite (h.fetchClose (by nofun)) <| .ite h.fetchFlowEntry <|
    .ite h.fetchBlockEntry <| .ite h.fetchKey <| .ite h.fetchValue <|
    .ite (h.fetchAnchor fun _ => by nofun) <| .ite (h.fetchAnchor fun _ => by nofun) <|
    .ite h.fetchTag <| .ite (h.fetchBlockText _) <| .ite (h.fetchBlockText _) <|
    .ite h.fetchQuoted <| .ite h.fetchPlain <| .error .malformed

theorem fetch (h : On s l) : Yields (Token.Cause s) (On s) l.fetch := by
  refine h.toNextToken.beforeCut.bind fun l ⟨h, hrest⟩ => ?_
  refine h.giveUpStale.bind fun m ⟨h, hm⟩ => ?_
  dsimp only
  split
  · rename_i hpeek
    rw [Cursor.peek, closeBlocks_cursor, hm, List.head?_eq_none_iff] at hpeek
    exact (h.closeBlocks _).fetchEnd (hrest hpeek)
  · exact (h.closeBlocks _).fetchAt _

end On

theorem run_caused (n : Nat) (h : On s l) :
    (.streamEnd ∈ (l.run n).1 → s.cut = none) ∧ ∀ f, (l.run n).2 = some f → Token.Cause s f := by
  -- by induction on the tokens that may still be fetched; each keeps the reader on the text
  induction n generalizing l with
  | zero =>
      refine ⟨h.settled, fun f hf => ?_⟩
      cases hf
      exact .malformed
  | succ n ih =>
      have hnext : Yields (Token.Cause s) (On s) (l.fetch.bind Lexer.beforeCut) :=
        h.fetch.bind fun _ h => h.beforeCut.mono fun _ => And.left
      unfold run
      cases hl : l.fetch.bind Lexer.beforeCut with
      | error f =>
          rw [hl] at hnext
          refine ⟨h.settled, fun g hg => ?_⟩
          cases hg
          exact h.faultOf hnext
      | ok next =>
          rw [hl] at hnext
          dsimp only
          split
          · exact ⟨fun hm => hnext.whole (List.mem_reverse.mp hm), nofun⟩
          · exact ih hnext

end Lexer

/-- The end of a text that was cut off is not among its tokens, and the fault that they stop short
with has its cause in the text. -/
theorem Token.ofSource_caused (s : Source) :
    (.streamEnd ∈ (ofSource s).1 → s.cut = none) ∧ ∀ f, (ofSource s).2 = some f → Cause s f :=
  Lexer.run_caused _ ⟨rfl, List.suffix_rfl, nofun⟩

end WorkspaceLink.Yaml
