import WorkspaceLink.Yaml.Source
import WorkspaceLink.Yaml.Token.Block
import WorkspaceLink.Yaml.Token.Quoted
import WorkspaceLink.Yaml.Token.TagName

/-!
# How words of a text are read

Blocks, quoted and plain texts, tags and instructions are read from a place in a text to a later
one, and where one cannot be read, the cause is in the text: it does not follow the grammar, or it
holds an escape by a code point that is none or a version with too many digits.
-/

namespace WorkspaceLink.Yaml

variable {α β : Type} {E : Fault → Prop} {P : α → Prop} {Q : β → Prop}

/-! ## Results and faults -/

/-- What a computation results in has a property, and the fault that it ends with has another. -/
def Yields (E : Fault → Prop) (P : α → Prop) : Except Fault α → Prop
  | .ok a => P a
  | .error e => E e

namespace Yields

theorem ok {a : α} (h : P a) : Yields E P (.ok a) := h

theorem pure {a : α} (h : P a) : Yields E P (Pure.pure a) := h

theorem error {e : Fault} (h : E e) : Yields E P (.error e) := h

theorem throw {e : Fault} (h : E e) : Yields E P (MonadExcept.throw e : Except Fault α) := h

theorem mono {P' : α → Prop} {x : Except Fault α} (hx : Yields E P x) (h : ∀ a, P a → P' a) :
    Yields E P' x := by
  cases x with
  | ok a => exact h a hx
  | error e => exact hx

theorem bind {x : Except Fault α} {f : α → Except Fault β} (hx : Yields E P x)
    (hf : ∀ a, P a → Yields E Q (f a)) : Yields E Q (x >>= f) := by
  cases x with
  | ok a => exact hf a hx
  | error e => exact hx

theorem map {x : Except Fault α} {f : α → β} (hx : Yields E P x) (hf : ∀ a, P a → Q (f a)) :
    Yields E Q (f <$> x) := by
  cases x with
  | ok a => exact hf a hx
  | error e => exact hx

theorem ite {c : Prop} [Decidable c] {x y : Except Fault α} (hx : Yields E P x)
    (hy : Yields E P y) : Yields E P (if c then x else y) := by
  split
  · exact hx
  · exact hy

theorem throw_bind {e : Fault} {f : α → Except Fault β} (h : E e) :
    Yields E Q ((MonadExcept.throw e : Except Fault α) >>= f) := h

end Yields

/-! ## Places in a text -/

namespace Cursor

variable {cs : List Char} {c : Cursor}

theorem rest_next (c : Cursor) : c.next.rest = c.rest.tail := by
  unfold next
  split
  · rename_i h
    rw [h]
    rfl
  · rename_i h
    rw [h]
    split <;> rfl

theorem rest_skip (c : Cursor) (n : Nat) : (c.skip n).rest = c.rest.drop n := by
  induction n generalizing c with
  | zero => rfl
  | succ n ih => rw [skip, ih, rest_next, List.drop_tail]

/-- What is left to be read is the end of a text. -/
def In (cs : List Char) (c : Cursor) : Prop := c.rest <:+ cs

namespace In

theorem skip (h : c.In cs) (n : Nat) : (c.skip n).In cs := by
  rw [In, rest_skip]
  exact (List.drop_suffix n c.rest).trans h

theorem next (h : c.In cs) : c.next.In cs := h.skip 1

theorem takeWhile (h : c.In cs) (p : Char → Bool) : (c.takeWhile p).2.In cs := h.skip _

theorem dropWhile (h : c.In cs) (p : Char → Bool) : (c.dropWhile p).In cs := h.takeWhile p

theorem skipComment (h : c.In cs) : c.skipComment.In cs := by
  unfold Cursor.skipComment
  split
  · exact h.dropWhile _
  · exact h

theorem infix_takeWhile (h : c.In cs) (p : Char → Bool) : (c.takeWhile p).1 <:+: cs :=
  (List.takeWhile_prefix p).isInfix.trans h.isInfix

end In

end Cursor

/-! ## Causes of faults -/

/-- Where a text spells no value of a kind that tokens announce: an escape by a code point that is
none, or a number with too many digits where an instruction names a version. -/
inductive Token.Misspelt (s : Source) : ScalarFault → Prop where
  | escape {letter : Char} {digits : List Char} {e : ScalarFault}
      (written : '\\' :: letter :: digits <:+: s.chars)
      (width : Quoted.escapeDigits? letter = some digits.length)
      (hex : ∀ d ∈ digits, isHexDigit d)
      (h : Quoted.codePoint ((Decimal.natOfDigits? 16 digits).getD 0) = .error (.scalar e)) :
      Misspelt s e
  | version {digits : List Char} (written : digits <:+: s.chars) (decimal : ∀ d ∈ digits, d.isDigit)
      (long : Decimal.maxWholeDigits < digits.length) : Misspelt s (.tooManyDigits digits.length)

/-- Why the tokens of a text stop short. -/
inductive Token.Cause (s : Source) : Fault → Prop where
  | malformed : Cause s .malformed
  | truncated : Cause s .truncated
  | cut {f : Fault} (h : s.cut = some f) : Cause s f
  | misspelt {e : ScalarFault} (h : Misspelt s e) : Cause s (.scalar e)

theorem Token.Cause.unexpected {s : Source} (c : Cursor) : Cause s c.unexpected := by
  unfold Cursor.unexpected
  split
  · exact truncated
  · exact malformed

/-- A reader goes on in its text, and has a cause to stop. -/
abbrev Reads (s : Source) (x : Except Fault (α × Cursor)) : Prop :=
  Yields (Token.Cause s) (fun r => r.2.In s.chars) x

variable {s : Source} {cs : List Char} {c : Cursor}

/-! ## Block texts -/

namespace Block

theorem yields_increment? (ch : Option Char) :
    Yields (Token.Cause s) (fun _ => True) (increment? ch) := by
  unfold increment?
  split
  · split
    · exact .error .malformed
    · split <;> exact .ok trivial
  · exact .ok trivial

theorem in_after (found : Option α) (h : c.In cs) : (after found c).In cs := by
  unfold after
  split
  · exact h.next
  · exact h

theorem reads_signs (h : c.In s.chars) : Reads s (signs c) := by
  unfold signs
  split
  · exact (yields_increment? _).bind fun _ _ => .pure (in_after _ h.next)
  · exact (yields_increment? _).bind fun _ _ => .pure (in_after _ (in_after _ h))

theorem yields_restOfLine (h : c.In s.chars) :
    Yields (Token.Cause s) (·.In s.chars) (restOfLine c) := by
  unfold restOfLine
  dsimp only
  split
  · exact .ok (h.dropWhile _).skipComment.next
  · exact .error .malformed

theorem in_leadingBreaks (n widest : Nat) (h : c.In cs) :
    (leadingBreaks n widest c).2.2.In cs := by
  induction n generalizing widest c with
  | zero => exact h
  | succ n ih =>
      unfold leadingBreaks
      split
      · split
        · exact ih _ h.next
        · split
          · exact ih _ h.next
          · exact h
      · exact h

theorem in_skipIndent (indent : Nat) (h : c.In cs) : (skipIndent indent c).In cs := h.skip _

theorem in_breaks (indent n : Nat) (h : c.In cs) : (breaks indent n c).2.In cs := by
  induction n generalizing c with
  | zero => exact h
  | succ n ih =>
      have skipped := in_skipIndent indent h
      unfold breaks
      dsimp only
      split
      · split
        · exact ih skipped.next
        · exact skipped
      · exact skipped

theorem in_lines (folded : Bool) (indent n : Nat) (before : List Char) (h : c.In cs) :
    (lines folded indent n before c).2.2.2.In cs := by
  induction n generalizing before c with
  | zero => exact h
  | succ n ih =>
      have line (n : Nat) := in_breaks indent n (h.takeWhile fun ch => !isBreak ch).next
      unfold lines
      split
      · dsimp only
        split
        · exact ih _ (line _)
        · exact line _
      · exact h

theorem reads_scan (folded : Bool) (parent : Option Nat) (h : c.In s.chars) :
    Reads s (scan folded parent c) := by
  refine (reads_signs h.next).bind fun header hc => ?_
  dsimp only
  split
  · exact .throw_bind .malformed
  · refine (yields_restOfLine hc).bind fun c hc => ?_
    split
    · exact .pure (in_lines _ _ _ _ (in_leadingBreaks _ _ hc))
    · exact .pure (in_lines _ _ _ _ (in_breaks _ _ hc))

end Block

/-! ## Quoted texts -/

namespace Quoted

theorem reads_breaks (n : Nat) (h : c.In s.chars) : Reads s (breaks n c) := by
  induction n generalizing c with
  | zero => exact .ok h
  | succ n ih =>
      have gap := h.dropWhile isGap
      unfold breaks
      split
      · exact .error .malformed
      · dsimp only
        split
        · split
          · exact (ih gap.next).bind fun _ h => .pure h
          · exact .ok gap
        · exact .ok gap

theorem reads_gap (h : c.In s.chars) : Reads s (gap c) := by
  have spaces := h.takeWhile isGap
  unfold gap
  dsimp only
  split
  · exact .error .truncated
  · split
    · exact (reads_breaks _ spaces.next).bind fun _ h => .pure h
    · exact .ok spaces

theorem codePoint_eq_error {n : Nat} {f : Fault} (h : codePoint n = .error f) :
    ∃ e, f = .scalar e := by
  unfold codePoint at h
  split at h
  · exact ⟨_, (Except.error.inj h).symm⟩
  · split at h
    · exact ⟨_, (Except.error.inj h).symm⟩
    · split at h <;> nomatch h

theorem reads_escaped (h : '\\' :: c.rest <:+ s.chars) : Reads s (escaped c) := by
  have here : c.In s.chars := (List.suffix_cons _ _).trans h
  unfold escaped
  split
  · exact .error .truncated
  · rename_i ch hch
    split
    · exact .ok here.next
    · rename_i width _ hwidth
      dsimp only
      split
      · rename_i length
        have rest : c.rest = ch :: c.next.rest := by
          rw [c.rest_next]
          exact (List.head?_eq_some_iff.mp hch).elim fun _ h => by rw [h]; rfl
        have digits : (c.next.rest.take width).takeWhile isHexDigit <+: c.next.rest :=
          (List.takeWhile_prefix _).trans (List.take_prefix _ _)
        have hex : ∀ d ∈ (c.next.rest.take width).takeWhile isHexDigit, isHexDigit d :=
          List.all_eq_true.mp List.all_takeWhile
        generalize (c.next.rest.take width).takeWhile isHexDigit = read at length digits hex ⊢
        have written : '\\' :: ch :: read <:+: s.chars := by
          refine List.IsInfix.trans (List.IsPrefix.isInfix ?_) h.isInfix
          rw [rest]
          exact (List.prefix_cons_inj _).mpr ((List.prefix_cons_inj _).mpr digits)
        cases code : codePoint _ with
        | ok e => exact .ok (here.next.skip _)
        | error f =>
            obtain ⟨e, rfl⟩ := codePoint_eq_error code
            have width : escapeDigits? ch = some read.length := by rw [hwidth, length]
            exact .error (.misspelt (.escape written width hex code))
      · exact .error (.unexpected _)
    · split
      · exact reads_breaks _ here.next
      · exact .error .malformed

theorem reads_solid (double : Bool) (n : Nat) (h : c.In s.chars) : Reads s (solid double n c) := by
  induction n generalizing c with
  | zero => exact .ok h
  | succ n ih =>
      have run := h.takeWhile fun ch => !endsRun ch
      unfold solid
      dsimp only
      split
      · exact (ih (run.skip 2)).bind fun _ h => .pure h
      · exact (ih run.next).bind fun _ h => .pure h
      · exact (ih run.next).bind fun _ h => .pure h
      · exact (ih run.next).bind fun _ h => .pure h
      · rename_i hrest
        have escape : Reads s (escaped (c.takeWhile fun ch => !endsRun ch).2.next) := by
          refine reads_escaped ?_
          rw [Cursor.rest_next, hrest]
          exact hrest ▸ run
        have piece : Yields (Token.Cause s) (fun r => ∀ piece ∈ r, piece.2.In s.chars)
            (some <$> escaped (c.takeWhile fun ch => !endsRun ch).2.next) := by
          refine escape.map fun r hr piece hp => ?_
          cases hp
          exact hr
        refine piece.bind fun piece hpiece => ?_
        split
        · exact .pure run
        · exact (ih (hpiece _ rfl)).bind fun _ h => .pure h
      · exact .pure run

theorem reads_read (double : Bool) (quote : Char) (n : Nat) (h : c.In s.chars) :
    Reads s (read double quote n c) := by
  induction n generalizing c with
  | zero => exact .error .malformed
  | succ n ih =>
      unfold read
      split
      · exact .ok h.next
      · refine (reads_gap h).bind fun _ h => ?_
        refine (reads_solid _ _ h).bind fun _ h => ?_
        exact (ih h).bind fun _ h => .pure h

theorem reads_scan (h : c.In s.chars) : Reads s (scan c) :=
  (reads_solid _ _ h.next).bind fun _ h => (reads_read _ _ _ h).bind fun _ h => .pure h

end Quoted

/-! ## Names -/

namespace TagName

theorem reads_escapedBytes (n : Nat) (h : c.In s.chars) : Reads s (escapedBytes n c) := by
  induction n generalizing c with
  | zero => exact .ok h
  | succ n ih =>
      unfold escapedBytes
      split
      · split
        · exact (ih (h.skip 3)).bind fun _ h => .pure h
        · exact .error .malformed
      · split
        · exact .error .truncated
        · exact .error .malformed
      · exact .ok h

theorem reads_uriChars (n : Nat) (h : c.In s.chars) : Reads s (uriChars n c) := by
  induction n generalizing c with
  | zero => exact .ok h
  | succ n ih =>
      have run := h.takeWhile fun ch => isUriChar ch && ch != '%'
      unfold uriChars
      dsimp only
      split
      · refine (reads_escapedBytes _ run).bind fun _ h => ?_
        split
        · exact .throw .malformed
        · exact (ih h).bind fun _ h => .pure h
      · exact .pure run

theorem reads_uri (h : c.In s.chars) : Reads s (uri c) := by
  refine (reads_uriChars _ h).bind fun _ h => ?_
  dsimp only
  split
  · exact .throw_bind (.unexpected _)
  · exact .pure h

theorem reads_handle (h : c.In s.chars) : Reads s (handle c) := by
  unfold handle
  split
  · exact .error (.unexpected _)
  · split
    · exact .ok h.next
    · dsimp only
      split
      · exact .ok (h.next.takeWhile _).next
      · exact .error (.unexpected _)

theorem reads_anchorName (h : c.In s.chars) : Reads s (anchorName c) := by
  unfold anchorName
  dsimp only
  split
  · exact .error (.unexpected _)
  · exact .ok (h.takeWhile _)

theorem reads_number (h : c.In s.chars) : Reads s (number c) := by
  unfold number
  dsimp only
  split
  · rename_i long
    have decimal : ∀ d ∈ (c.takeWhile Char.isDigit).1, d.isDigit :=
      List.all_eq_true.mp List.all_takeWhile
    exact .error (.misspelt (.version (h.infix_takeWhile _) decimal long))
  · split
    · exact .ok (h.takeWhile _)
    · exact .error (.unexpected _)

theorem in_skipSpaces (h : c.In cs) : (skipSpaces c).In cs := h.dropWhile _

theorem reads_version (h : c.In s.chars) : Reads s (version c) := by
  refine (reads_number (in_skipSpaces h)).bind fun _ h => ?_
  dsimp only
  split
  · exact .throw_bind (.unexpected _)
  · refine (reads_number h.next).bind fun _ h => ?_
    split
    · exact .pure h
    · exact .throw .malformed

theorem reads_tagPrefix (h : c.In s.chars) : Reads s (tagPrefix c) := by
  refine (reads_handle (in_skipSpaces h)).bind fun _ h => ?_
  dsimp only
  split
  · exact .throw_bind (.unexpected _)
  · refine (reads_uri (in_skipSpaces h)).bind fun _ h => ?_
    split
    · exact .pure h
    · exact .throw .malformed

/-- What is read is not the end of the text. -/
abbrev ReadsToken (s : Source) (x : Except Fault (Token × Cursor)) : Prop :=
  Yields (Token.Cause s) (fun r => r.1 ≠ .streamEnd ∧ r.2.In s.chars) x

theorem readsToken_scan (h : c.In s.chars) : ReadsToken s (scan c) := by
  have ended {t : Token} {c : Cursor} (ht : t ≠ .streamEnd) (h : c.In s.chars) :
      ReadsToken s (if endsField c.peek then return (t, c) else throw .malformed) := by
    split
    · exact .pure ⟨ht, h⟩
    · exact .throw .malformed
  unfold scan
  split
  · refine (reads_uri (h.skip 2)).bind fun _ h => ?_
    dsimp only
    split
    · exact .throw_bind (.unexpected _)
    · exact ended nofun h.next
  · split
    · exact ended nofun h.next
    · split
      · exact (reads_handle h).bind fun _ h => (reads_uri h).bind fun _ h => ended (by nofun) h
      · exact (reads_uri h.next).bind fun _ h => ended (by nofun) h

theorem readsToken_directive (h : c.In s.chars) : ReadsToken s (directive c) := by
  have name := h.next.takeWhile isNameChar
  have ended {d : Directive} {c : Cursor} (h : c.In s.chars) :
      ReadsToken s (if endsLine c.peek then return (.directive d, c.next)
        else throw .malformed) := by
    split
    · exact .pure ⟨nofun, h.next⟩
    · exact .throw .malformed
  unfold directive
  dsimp only
  split
  · exact .throw_bind (.unexpected _)
  · split
    · exact (reads_version name).bind fun _ h => ended (in_skipSpaces h).skipComment
    · exact (reads_tagPrefix name).bind fun _ h => ended (in_skipSpaces h).skipComment
    · exact ended (in_skipSpaces (name.dropWhile _)).skipComment

end TagName

/-! ## Plain texts -/

namespace Plain

theorem in_breaks (n : Nat) (h : c.In cs) : (breaks n c).2.In cs := by
  induction n generalizing c with
  | zero => exact h
  | succ n ih =>
      unfold breaks
      split
      · exact h
      · split
        · exact ih h.next
        · split
          · split
            · exact h.next
            · exact ih h.next
          · exact h

theorem in_gap (h : c.In cs) : (gap c).2.1.In cs := by
  have spaces := h.takeWhile (· == ' ')
  unfold gap
  dsimp only
  split
  · split
    · split
      · exact spaces.next
      · have ended := in_breaks (c.takeWhile (· == ' ')).2.left spaces.next
        split
        · rename_i hread
          rwa [hread] at ended
        · rename_i hread
          rwa [hread] at ended
    · exact spaces
  · exact spaces

theorem in_read (inFlow : Bool) (indent n : Nat) (before : List Char) (lineEnded : Bool)
    (h : c.In cs) : (read inFlow indent n before lineEnded c).cursor.In cs := by
  induction n generalizing before lineEnded c with
  | zero => exact h
  | succ n ih =>
      unfold read
      dsimp only
      split
      · exact h
      · have after := in_gap (h.skip (run inFlow c.rest).length)
        split
        · exact after
        · exact ih _ _ after

theorem in_scan (inFlow : Bool) (indent : Nat) (h : c.In cs) :
    (scan inFlow indent c).cursor.In cs :=
  in_read _ _ _ _ _ h

end Plain

end WorkspaceLink.Yaml
