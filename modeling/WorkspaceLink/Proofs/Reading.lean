import WorkspaceLink.Proofs.Tokens
import WorkspaceLink.Yaml.Node.Parser

/-!
# How a document cannot be read

A document is read to the end of its text, so a text that was cut off has none. Reading ends with a
fault of the tokens, or with collections that are nested too deeply: then the brackets and blocks
that are open somewhere in the text are half as many as may be read inside one another. A sequence
that is not indented and a mapping of one entry open none, but they do not stand inside one another
without brackets or blocks between.
-/

namespace WorkspaceLink.Yaml

variable {σ α β : Type} {E : Fault → Prop} {I : σ → Prop} {P : α → σ → Prop} {Q : β → σ → Prop}

/-! ## Steps -/

/-- From a state with a property, a step leads to a result and a state with another, or ends with a
fault that has a cause. -/
def Leads (E : Fault → Prop) (I : σ → Prop) (P : α → σ → Prop) (m : StateT σ (Except Fault) α) :
    Prop :=
  ∀ s, I s → Yields E (fun r => P r.1 r.2) (m s)

namespace Leads

theorem pure {a : α} (h : ∀ s, I s → P a s) : Leads E I P (Pure.pure a) := fun s hs => h s hs

theorem throw {e : Fault} (h : ∀ s, I s → E e) :
    Leads E I P (MonadExcept.throw e : StateT σ (Except Fault) α) := fun s hs => .error (h s hs)

theorem bind {m : StateT σ (Except Fault) α} {f : α → StateT σ (Except Fault) β}
    (hm : Leads E I P m) (hf : ∀ a, Leads E (P a) Q (f a)) : Leads E I Q (m >>= f) :=
  fun s hs => Yields.bind (hm s hs) fun r hr => hf r.1 r.2 hr

/-- The same, with the state in between at hand. -/
theorem bind_at {m : StateT σ (Except Fault) α} {f : α → StateT σ (Except Fault) β}
    (hm : Leads E I P m) (hf : ∀ a s, P a s → Leads E (· = s) Q (f a)) : Leads E I Q (m >>= f) :=
  hm.bind fun a s hs => hf a s hs s rfl

theorem pre {J : σ → Prop} {m : StateT σ (Except Fault) α} (hm : Leads E I P m)
    (h : ∀ s, J s → I s) : Leads E J P m := fun s hs => hm s (h s hs)

theorem map {m : StateT σ (Except Fault) α} {f : α → β} (hm : Leads E I P m)
    (hf : ∀ a s, P a s → Q (f a) s) : Leads E I Q (f <$> m) :=
  hm.bind fun a => .pure (hf a)

theorem throw_bind {e : Fault} {f : α → StateT σ (Except Fault) β} (h : ∀ s, I s → E e) :
    Leads E I Q ((MonadExcept.throw e : StateT σ (Except Fault) α) >>= f) :=
  fun s hs => .error (h s hs)

theorem ite {c : Prop} [Decidable c] {m m' : StateT σ (Except Fault) α} (hm : Leads E I P m)
    (hm' : Leads E I P m') : Leads E I P (if c then m else m') := by
  split
  · exact hm
  · exact hm'

/-- A step that is made in one case only, before what comes after it in both. -/
theorem when_bind {c : Prop} [Decidable c] {m : StateT σ (Except Fault) Unit}
    {f : Unit → StateT σ (Except Fault) β} (hm : Leads E I (fun _ => I) m)
    (hf : ∀ u, Leads E I Q (f u)) : Leads E I Q (if c then m >>= f else f ()) :=
  .ite (hm.bind hf) (hf ())

/-- A test decides between two ways, and what holds of the state on each. -/
theorem branch {J K : σ → Prop} {m : StateT σ (Except Fault) Bool}
    {f g : StateT σ (Except Fault) β} (hm : Leads E I (fun b => cond b J K) m)
    (hf : Leads E J Q f) (hg : Leads E K Q g) :
    Leads E I Q (m >>= fun b => if b = true then f else g) := by
  refine hm.bind fun b => ?_
  cases b
  · exact hg
  · exact hf

theorem run {m : StateT σ (Except Fault) α} {s : σ} (hm : Leads E I P m) (hs : I s) :
    Yields E (fun r => P r.1 r.2) (m.run s) := hm s hs

theorem get_bind {f : σ → StateT σ (Except Fault) β}
    (hf : ∀ s, I s → Leads E (fun t => t = s) Q (f s)) :
    Leads E I Q (MonadState.get >>= f) := fun s hs => hf s hs s rfl

theorem modify {J : σ → Prop} {f : σ → σ} (h : ∀ s, I s → J (f s)) :
    Leads E I (fun _ => J) (modify f : StateT σ (Except Fault) Unit) := fun s hs => h s hs

end Leads

/-! ## Levels -/

/-- How much deeper a token leads. -/
def Token.rise : Token → Int
  | .blockSequenceStart | .blockMappingStart | .flowSequenceStart | .flowMappingStart => 1
  | .blockEnd | .flowSequenceEnd | .flowMappingEnd => -1
  | _ => 0

/-- How many brackets and blocks are open after some tokens. -/
def Token.level : List Token → Int
  | [] => 0
  | t :: ts => t.rise + level ts

theorem Token.level_append (ts us : List Token) : level (ts ++ us) = level ts + level us := by
  induction ts with
  | nil => exact (Int.zero_add _).symm
  | cons t ts ih =>
      change t.rise + level (ts ++ us) = t.rise + level ts + level us
      rw [ih, Int.add_assoc]

/-- After some of the tokens of a text, half as many brackets and blocks are open as collections may
be read inside one another, or more. -/
def Token.Nested [Host] (s : Source) : Prop :=
  ∃ before, before <+: (ofSource s).1 ∧ Host.nesting ≤ 2 * level before

/-- Why a document cannot be read. -/
inductive Graph.Cause [Host] (s : Source) : Fault → Prop where
  | token {f : Fault} (h : Token.Cause s f) : Cause s f
  | nested (h : Token.Nested s) : Cause s .tooDeep

theorem Graph.Cause.malformed [Host] {s : Source} : Cause s .malformed := token .malformed

/-! ## Nodes -/

namespace Parser

variable {s : Source} {L L' : Int} {d : Nat} {p : Parser} {t : Token}

/-- A reader of the tokens of a text, where so many brackets and blocks are open and so many
collections are being read. -/
structure At (s : Source) (level : Int) (depth : Nat) (p : Parser) : Prop where
  fault : Token.Cause s p.fault
  passed : ∃ before, before ++ p.tokens = (Token.ofSource s).1 ∧ Token.level before = level
  depth_eq : p.depth = depth

/-- A reader before a token. -/
structure Before (s : Source) (level : Int) (depth : Nat) (t : Token) (p : Parser) : Prop
    extends At s level depth p where
  head : p.tokens.head? = some t

/-- The end of the text is left to be read only if the text was not cut off. -/
theorem At.whole (h : At s L d p) (hm : .streamEnd ∈ p.tokens) : s.cut = none := by
  obtain ⟨before, tokens, -⟩ := h.passed
  exact (Token.ofSource_caused s).1 (tokens ▸ List.mem_append_right before hm)

theorem Before.whole (h : Before s L d .streamEnd p) : s.cut = none :=
  h.toAt.whole (List.mem_of_mem_head? h.head)

theorem Before.tail (h : Before s L d t p) (hL : L + t.rise = L') :
    At s L' d { p with tokens := p.tokens.tail } := by
  obtain ⟨before, tokens, level⟩ := h.passed
  obtain ⟨rest, hrest⟩ := List.head?_eq_some_iff.mp h.head
  rw [hrest] at tokens
  refine ⟨h.fault, ⟨before ++ [t], ?_, ?_⟩, h.depth_eq⟩
  · rw [hrest, List.tail_cons, List.append_assoc, List.singleton_append, tokens]
  · rw [Token.level_append, level, ← hL, Token.level, Token.level, Int.add_zero]

section

variable [Host]

/-- A step that leaves as much open as it finds. -/
abbrev Stays (s : Source) (L : Int) (d : Nat) (m : Parse α) : Prop :=
  Leads (Graph.Cause s) (At s L d) (fun _ => At s L d) m

/-- A step that closes one of the brackets or blocks that it finds open. -/
abbrev Closes (s : Source) (L : Int) (d : Nat) (m : Parse α) : Prop :=
  Leads (Graph.Cause s) (At s (L + 1) d) (fun _ => At s L d) m

theorem leads_peek : Leads (Graph.Cause s) (At s L d) (Before s L d) peek := by
  refine .get_bind fun p h => ?_
  split
  · exact .throw fun _ _ => .token h.fault
  · rename_i t ts hts
    refine .pure ?_
    rintro _ rfl
    exact ⟨h, by rw [hts]; rfl⟩

theorem leads_advance (hL : L + t.rise = L') :
    Leads (Graph.Cause s) (Before s L d t) (fun _ => At s L' d) advance :=
  .modify fun _ h => h.tail hL

/-- If a token comes next it is passed, or else nothing happens. -/
theorem leads_accept (t : Token) (hL : L + t.rise = L') :
    Leads (Graph.Cause s) (At s L d) (fun b => cond b (At s L' d) (At s L d)) (accept t) := by
  refine leads_peek.bind fun u => ?_
  split
  · rename_i hu
    subst hu
    exact (leads_advance hL).bind fun _ => .pure fun _ h => h
  · exact .pure fun _ h => h.toAt

theorem leads_expect (t : Token) (hL : L + t.rise = L') :
    Leads (Graph.Cause s) (At s L d) (fun _ => At s L' d) (expect t) := by
  refine (leads_accept t hL).bind fun b => ?_
  cases b
  · exact .throw fun _ _ => .malformed
  · exact .pure fun _ h => h

theorem leads_accept_level (t : Token) (ht : t.rise = 0) :
    Leads (Graph.Cause s) (At s L d) (fun b => cond b (At s L d) (At s L d)) (accept t) :=
  leads_accept t (by omega)

theorem leads_accept_end (t : Token) (ht : t.rise = -1) :
    Leads (Graph.Cause s) (At s (L + 1) d) (fun b => cond b (At s L d) (At s (L + 1) d))
      (accept t) :=
  leads_accept t (by omega)

theorem leads_expect_level (t : Token) (ht : t.rise = 0) : Stays s L d (expect t) :=
  leads_expect t (by omega)

theorem leads_expect_end (t : Token) (ht : t.rise = -1) : Closes s L d (expect t) :=
  leads_expect t (by omega)

theorem leads_uriOf (handle : Option String) (suffix : String) :
    Stays s L d (uriOf handle suffix) := by
  cases handle with
  | none => exact .pure fun _ h => h
  | some name =>
      refine .get_bind fun p h => ?_
      cases p.handles.lookup name with
      | none => exact .throw fun _ _ => .malformed
      | some start => exact .pure fun _ hp => hp ▸ h

theorem leads_anchor? : Stays s L d anchor? := by
  refine leads_peek.bind fun t => ?_
  split
  · exact (leads_advance (by simp [Token.rise])).bind fun _ => .pure fun _ h => h
  · exact .pure fun _ h => h.toAt

theorem leads_tag? : Stays s L d tag? := by
  refine leads_peek.bind fun t => ?_
  split
  · exact (leads_advance (by simp [Token.rise])).bind fun _ => .pure fun _ h => h
  · exact .pure fun _ h => h.toAt

theorem leads_properties : Stays s L d properties := by
  have finish (before after : Option String) (tag : Option (Option String × String)) :
      Stays s L d (do
        let uri ← tag.mapM fun t => uriOf t.1 t.2
        return (⟨before <|> after, uri⟩ : Properties)) := by
    cases tag with
    | none => exact .pure fun _ h => h
    | some t =>
        exact ((leads_uriOf t.1 t.2).map (f := some) fun _ _ h => h).bind fun _ =>
          .pure fun _ h => h
  refine leads_anchor?.bind fun before => leads_tag?.bind fun tag => ?_
  dsimp only
  split
  · exact leads_anchor?.bind fun after => finish before after tag
  · exact finish before none tag

theorem leads_resolve (name : String) : Stays s L d (resolve name) := by
  refine .get_bind fun p h => ?_
  split
  · exact .pure fun _ hp => hp ▸ h
  · exact .throw fun _ _ => .malformed

theorem leads_add (anchor : Option String) (node : Node) :
    Stays s L d (add anchor node) := by
  refine .get_bind fun p h => ?_
  dsimp only
  split
  · exact .throw_bind fun _ _ => .malformed
  · refine Leads.bind (P := fun _ => At s L d) (.modify ?_) fun _ => .pure fun _ h => h
    rintro _ rfl
    exact ⟨h.fault, h.passed, h.depth_eq⟩

theorem leads_addEmpty : Stays s L d addEmpty :=
  leads_add _ _

/-- A collection is too deep only where too many brackets and blocks are open. -/
theorem leads_collection (p : Properties) (tag : Tag) {read : Parse Content}
    (bound : (d : Int) ≤ 2 * L)
    (h : Leads (Graph.Cause s) (At s L (d + 1)) (fun _ => At s L' (d + 1)) read) :
    Leads (Graph.Cause s) (At s L d) (fun _ => At s L' d) (collection p tag read) := by
  refine .get_bind fun q hq => ?_
  dsimp only
  split
  · rename_i deep
    refine .throw_bind fun _ _ => ?_
    obtain ⟨before, tokens, level⟩ := hq.passed
    rw [hq.depth_eq] at deep
    exact .nested ⟨before, tokens ▸ List.prefix_append before q.tokens, by omega⟩
  · refine Leads.bind (P := fun _ => At s L d) ((leads_add _ _).pre ?_) fun id => ?_
    · rintro _ rfl
      exact hq
    · refine Leads.bind (P := fun _ => At s L (d + 1)) (.modify fun _ h => ?_) fun _ => ?_
      · exact ⟨h.fault, h.passed, congrArg (· + 1) h.depth_eq⟩
      · refine h.bind fun content => ?_
        refine Leads.bind (P := fun _ => At s L' d) (.modify fun _ h => ?_) fun _ =>
          .pure fun _ h => h
        exact ⟨h.fault, h.passed, congrArg (· - 1) h.depth_eq⟩

theorem leads_sequence (p : Properties) {items : Parse (List NodeId)} (bound : (d : Int) ≤ 2 * L)
    (h : Leads (Graph.Cause s) (At s L (d + 1)) (fun _ => At s L' (d + 1)) items) :
    Leads (Graph.Cause s) (At s L d) (fun _ => At s L' d) (sequence p items) :=
  leads_collection _ _ bound (h.map fun _ _ h => h)

theorem leads_mapping (p : Properties) {entries : Parse (List (NodeId × NodeId))}
    (bound : (d : Int) ≤ 2 * L)
    (h : Leads (Graph.Cause s) (At s L (d + 1)) (fun _ => At s L' (d + 1)) entries) :
    Leads (Graph.Cause s) (At s L d) (fun _ => At s L' d) (mapping p entries) :=
  leads_collection _ _ bound (h.map fun _ _ h => h)

theorem leads_scalar (p : Properties) (text : List Char) (plain : Bool) :
    Stays s L d (scalar p text plain) := leads_add _ _

theorem leads_unlessAt (stops : List Token) {read : Parse NodeId} (h : Stays s L d read) :
    Stays s L d (unlessAt stops read) :=
  leads_peek.bind fun _ =>
    .ite (leads_addEmpty.pre fun _ h => h.toAt) (h.pre fun _ h => h.toAt)

theorem leads_valueUnlessAt (stops : List Token) {read : Parse NodeId} (h : Stays s L d read) :
    Stays s L d (valueUnlessAt stops read) :=
  (leads_accept_level .value rfl).branch (leads_unlessAt stops h) leads_addEmpty

-- Every reader takes one step of its bound before it calls another, so the induction is on the
-- bound for all seven at once. Inside brackets or a block there is room for one collection without
-- any of its own.
mutual
theorem leads_node (block indentless : Bool) : (n : Nat) → {L : Int} → {d : Nat} →
    ((d + indentless.toNat : Nat) : Int) ≤ 2 * L → Stays s L d (node block indentless n)
  | 0, _, _, _ => .throw fun _ _ => .malformed
  | n + 1, _, _, bound => by
      unfold node
      refine leads_peek.bind fun t => ?_
      split
      · exact (leads_advance (by simp [Token.rise])).bind fun _ => leads_resolve _
      · exact (leads_properties.pre fun _ h => h.toAt).bind fun p =>
          leads_content block indentless n p bound
termination_by structural n => n

theorem leads_content (block indentless : Bool) : (n : Nat) → (p : Properties) → {L : Int} →
    {d : Nat} → ((d + indentless.toNat : Nat) : Int) ≤ 2 * L →
    Stays s L d (content block indentless n p)
  | 0, _, _, _, _ => .throw fun _ _ => .malformed
  | n + 1, p, L, d, bound => by
      have inside : (d : Int) ≤ 2 * (L + 1) := by omega
      have deeper : ((d + 1 + 1 : Nat) : Int) ≤ 2 * (L + 1) := by omega
      unfold content
      refine leads_peek.bind fun t => ?_
      split
      · exact (leads_advance (by simp [Token.rise])).bind fun _ => leads_scalar _ _ _
      · exact (leads_advance rfl).bind fun _ =>
          leads_sequence _ inside (leads_flowItems true n deeper)
      · exact (leads_advance rfl).bind fun _ =>
          leads_mapping _ inside (leads_flowEntries true n (by omega))
      · exact (leads_advance rfl).bind fun _ =>
          leads_sequence _ inside (leads_blockItems n (by omega))
      · exact (leads_advance rfl).bind fun _ =>
          leads_mapping _ inside (leads_blockEntries n deeper)
      · split
        · rename_i unindented
          have one : indentless.toNat = 1 := by
            cases indentless
            · simp at unindented
            · rfl
          exact (leads_sequence _ (by omega) (leads_indentlessItems n (by omega))).pre
            fun _ h => h.toAt
        · exact .ite ((leads_scalar _ _ _).pre fun _ h => h.toAt) (.throw fun _ _ => .malformed)
termination_by structural n => n

theorem leads_blockItems : (n : Nat) → {L : Int} → {d : Nat} → (d : Int) ≤ 2 * (L + 1) →
    Closes s L d (blockItems n)
  | 0, _, _, _ => .throw fun _ _ => .malformed
  | n + 1, _, _, bound => by
      unfold blockItems
      refine (leads_accept_level .blockEntry rfl).branch ?_ ?_
      · exact (leads_unlessAt _ (leads_node true false n bound)).bind fun _ =>
          (leads_blockItems n bound).bind fun _ => .pure fun _ h => h
      · exact (leads_expect_end .blockEnd rfl).bind fun _ => .pure fun _ h => h
termination_by structural n => n

theorem leads_indentlessItems : (n : Nat) → {L : Int} → {d : Nat} → (d : Int) ≤ 2 * L →
    Stays s L d (indentlessItems n)
  | 0, _, _, _ => .throw fun _ _ => .malformed
  | n + 1, _, _, bound => by
      unfold indentlessItems
      refine (leads_accept_level .blockEntry rfl).branch ?_ (.pure fun _ h => h)
      exact (leads_unlessAt _ (leads_node true false n bound)).bind fun _ =>
        (leads_indentlessItems n bound).bind fun _ => .pure fun _ h => h
termination_by structural n => n

theorem leads_blockEntries : (n : Nat) → {L : Int} → {d : Nat} →
    ((d + 1 : Nat) : Int) ≤ 2 * (L + 1) → Closes s L d (blockEntries n)
  | 0, _, _, _ => .throw fun _ _ => .malformed
  | n + 1, _, _, bound => by
      unfold blockEntries
      refine (leads_accept_level .key rfl).branch ?_ ?_
      · exact (leads_unlessAt _ (leads_node true true n bound)).bind fun _ =>
          (leads_valueUnlessAt _ (leads_node true true n bound)).bind fun _ =>
            (leads_blockEntries n bound).bind fun _ => .pure fun _ h => h
      · exact (leads_expect_end .blockEnd rfl).bind fun _ => .pure fun _ h => h
termination_by structural n => n

theorem leads_flowItems (first : Bool) : (n : Nat) → {L : Int} → {d : Nat} →
    ((d + 1 : Nat) : Int) ≤ 2 * (L + 1) → Closes s L d (flowItems first n)
  | 0, _, _, _ => .throw fun _ _ => .malformed
  | n + 1, L, d, bound => by
      have inside : (d : Int) ≤ 2 * (L + 1) := by omega
      unfold flowItems
      refine (leads_accept_end .flowSequenceEnd rfl).branch (.pure fun _ h => h) ?_
      refine .when_bind (leads_expect_level .flowEntry rfl) fun _ => ?_
      refine (leads_accept_level .key rfl).branch ?_ ?_
      · refine (leads_mapping _ inside ?_).bind fun _ =>
          (leads_flowItems false n bound).bind fun _ => .pure fun _ h => h
        exact (leads_unlessAt _ (leads_node false false n bound)).bind fun _ =>
          (leads_valueUnlessAt _ (leads_node false false n bound)).bind fun _ => .pure fun _ h => h
      · refine (leads_accept_end .flowSequenceEnd rfl).branch (.pure fun _ h => h) ?_
        exact (leads_node false false n inside).bind fun _ =>
          (leads_flowItems false n bound).bind fun _ => .pure fun _ h => h
termination_by structural n => n

theorem leads_flowEntries (first : Bool) : (n : Nat) → {L : Int} → {d : Nat} →
    (d : Int) ≤ 2 * (L + 1) → Closes s L d (flowEntries first n)
  | 0, _, _, _ => .throw fun _ _ => .malformed
  | n + 1, _, _, bound => by
      unfold flowEntries
      refine (leads_accept_end .flowMappingEnd rfl).branch (.pure fun _ h => h) ?_
      refine .when_bind (leads_expect_level .flowEntry rfl) fun _ => ?_
      refine (leads_accept_level .key rfl).branch ?_ ?_
      · exact (leads_unlessAt _ (leads_node false false n bound)).bind fun _ =>
          (leads_valueUnlessAt _ (leads_node false false n bound)).bind fun _ =>
            (leads_flowEntries false n bound).bind fun _ => .pure fun _ h => h
      · refine (leads_accept_end .flowMappingEnd rfl).branch (.pure fun _ h => h) ?_
        exact (leads_node false false n bound).bind fun _ => leads_addEmpty.bind fun _ =>
          (leads_flowEntries false n bound).bind fun _ => .pure fun _ h => h
termination_by structural n => n
end

end

end Parser

end WorkspaceLink.Yaml
