import WorkspaceLink.Text.Split
import WorkspaceLink.Unicode.Lower

/-!
# Lower case, part by part

The final form of sigma looks at what stands around it, but never past a slash. So a text that is
joined by slashes is lower-cased part by part, and no slash appears or disappears.
-/

namespace WorkspaceLink.Unicode

/-! ## Marks -/

/-- A character that case rules do not look past, that is its own lower case and nobody else's. -/
structure IsMark (mark : Char) : Prop where
  uncased : isCased mark = false
  seen : isCaseIgnorable mark = false
  fixed : lowerChars mark = [mark]
  alone : ∀ c, mark ∈ lowerChars c → c = mark
  notSigma : mark ≠ 'Σ' ∧ mark ≠ 'ς' ∧ mark ≠ 'σ'

/-- The shifts never lead from beyond ASCII to below the letter k. -/
theorem lowerShift_ge {n : Nat} (h : 0x80 ≤ n) : (0x6b : Int) ≤ n + lowerShift n := by
  have table : ∀ r ∈ caseRuns, (0x6b : Int) ≤ r.first + r.shift := by decide +kernel
  unfold lowerShift
  split
  · rename_i r hr
    have first : r.first ≤ n := by
      have := List.find?_some hr
      simp only [Bool.and_eq_true, decide_eq_true_eq] at this
      exact this.1.1
    have := table r (List.mem_of_find?_eq_some hr)
    omega
  · omega

theorem toNat_ofNat_eq_or (n : Nat) : (Char.ofNat n).toNat = n ∨ (Char.ofNat n).toNat = 0 := by
  by_cases h : n.isValidChar
  · left
    have valid : Char.ofNat n = Char.ofNatAux n h := dif_pos h
    rw [valid]
    rfl
  · right
    simp [Char.ofNat, h]

/-- An ASCII letter is moved by 32, and everything else in ASCII stays. -/
theorem toNat_toLower (c : Char) : c.toLower = c ∨ 0x61 ≤ c.toLower.toNat := by
  by_cases h : c.val ≥ 'A'.val ∧ c.val ≤ 'Z'.val
  · right
    have low : 0x41 ≤ c.val.toNat := h.1
    have high : c.val.toNat ≤ 0x5a := h.2
    have moved : c.toLower.val = c.val + ('a'.val - 'A'.val) := congrArg Char.val (dif_pos h)
    have distance : ('a'.val - 'A'.val).toNat = 32 := by decide
    rw [Char.toNat, moved, UInt32.toNat_add, distance]
    omega
  · left
    exact dif_neg h

/-- Nothing but a character itself is lower-cased to it, below the letters. -/
theorem eq_of_lowerChar {c mark : Char} (hpos : 0 < mark.toNat) (hlt : mark.toNat < 0x41)
    (h : lowerChar c = mark) : c = mark := by
  unfold lowerChar at h
  split at h
  · rcases toNat_toLower c with e | e
    · exact e.symm.trans h
    · rw [h] at e
      omega
  · rename_i beyond
    have shifted := lowerShift_ge (Nat.le_of_not_lt beyond)
    have := toNat_ofNat_eq_or (c.toNat + lowerShift c.toNat).toNat
    rw [h] at this
    omega

theorem eq_of_mem_lowerChars {c mark : Char} (hpos : 0 < mark.toNat) (hlt : mark.toNat < 0x41)
    (h : mark ∈ lowerChars c) : c = mark := by
  unfold lowerChars at h
  split at h
  · simp only [List.mem_cons, List.not_mem_nil, or_false] at h
    rcases h with rfl | rfl <;> exact absurd hlt (by decide)
  · exact eq_of_lowerChar hpos hlt (List.mem_singleton.mp h).symm

theorem isMark_slash : IsMark '/' :=
  ⟨by decide, by decide, by decide, fun _ => eq_of_mem_lowerChars (by decide) (by decide),
    by decide⟩

theorem isMark_newline : IsMark '\n' :=
  ⟨by decide, by decide, by decide, fun _ => eq_of_mem_lowerChars (by decide) (by decide),
    by decide⟩

/-! ## Texts with a mark in them -/

theorem reachesCased_append_mark {mark : Char} (hm : IsMark mark) (as bs : List Char) :
    reachesCased (as ++ mark :: bs) = reachesCased as := by
  induction as with
  | nil => simp [reachesCased, hm.seen, hm.uncased]
  | cons a as ih =>
      unfold reachesCased at ih ⊢
      cases h : isCaseIgnorable a <;> simp_all

/-- What stands before a mark does not matter after it. -/
theorem lowerAfter_append_mark {mark : Char} (hm : IsMark mark) (as bs cs : List Char) :
    lowerAfter (as ++ mark :: bs) cs = lowerAfter as cs := by
  induction cs generalizing as with
  | nil => rfl
  | cons c cs ih =>
      rw [lowerAfter, lowerAfter, reachesCased_append_mark hm, ← List.cons_append, ih]

theorem lower_append_mark {mark : Char} (hm : IsMark mark) (as bs : List Char) :
    lower (as ++ mark :: bs) = lower as ++ mark :: lower bs := by
  have step (before : List Char) :
      lowerAfter before (as ++ mark :: bs) = lowerAfter before as ++ mark :: lower bs := by
    induction as generalizing before with
    | nil =>
        have after : lowerAfter (mark :: before) bs = lower bs :=
          lowerAfter_append_mark hm [] before bs
        simp [lowerAfter, hm.notSigma.1, hm.fixed, after]
    | cons a as ih =>
        simp only [List.cons_append, lowerAfter, reachesCased_append_mark hm, ih,
          List.append_assoc]
  exact step []

theorem mem_lower_iff {mark : Char} (hm : IsMark mark) {cs : List Char} :
    mark ∈ lower cs ↔ mark ∈ cs := by
  have step (before : List Char) : mark ∈ lowerAfter before cs ↔ mark ∈ cs := by
    induction cs generalizing before with
    | nil => rfl
    | cons c cs ih =>
        rw [lowerAfter, List.mem_append, ih, List.mem_cons]
        refine or_congr_left ?_
        split
        · rename_i h
          split <;> simp [h, hm.notSigma]
        · exact ⟨fun h => (hm.alone c h).symm, fun h => by simp [← h, hm.fixed]⟩
  exact step []

theorem lower_eq_nil_iff {cs : List Char} : lower cs = [] ↔ cs = [] := by
  cases cs with
  | nil => simp [lower, lowerAfter]
  | cons c cs =>
      simp only [lower, lowerAfter, lowerChars, List.append_eq_nil_iff, reduceCtorEq, iff_false]
      rintro ⟨h, -⟩
      split at h
      · simp at h
      · split at h <;> simp at h

/-- Whether two strings are the same but for the case of their letters. -/
def SameUpToCase (a b : String) : Prop := lowerString a = lowerString b

instance (a b : String) : Decidable (SameUpToCase a b) :=
  inferInstanceAs (Decidable (lowerString a = lowerString b))

theorem sameUpToCase_iff {a b : String} : SameUpToCase a b ↔ lower a.toList = lower b.toList := by
  simp [SameUpToCase, lowerString, String.ofList_inj]

theorem SameUpToCase.mem_iff {mark : Char} (hm : IsMark mark) {a b : String}
    (h : SameUpToCase a b) : mark ∈ a.toList ↔ mark ∈ b.toList := by
  rw [← mem_lower_iff hm, sameUpToCase_iff.mp h, mem_lower_iff hm]

theorem SameUpToCase.eq_empty_iff {a b : String} (h : SameUpToCase a b) : a = "" ↔ b = "" := by
  rw [← String.toList_eq_nil_iff, ← lower_eq_nil_iff, sameUpToCase_iff.mp h, lower_eq_nil_iff,
    String.toList_eq_nil_iff]

/-! ## Joined texts -/

theorem lower_join (ps : List (List Char)) :
    lower (Text.join '/' ps) = Text.join '/' (ps.map lower) := by
  induction ps with
  | nil => rfl
  | cons p ps ih =>
      cases ps with
      | nil => rfl
      | cons q qs => simpa [Text.join, lower_append_mark isMark_slash] using ih

theorem lower_split (cs : List Char) :
    Text.split '/' (lower cs) = (Text.split '/' cs).map lower := by
  have noSlash : ∀ p ∈ (Text.split '/' cs).map lower, '/' ∉ p := by
    intro p hp
    obtain ⟨q, hq, rfl⟩ := List.mem_map.mp hp
    rw [mem_lower_iff isMark_slash]
    exact Text.not_mem_of_mem_split hq
  calc Text.split '/' (lower cs)
      = Text.split '/' (Text.join '/' ((Text.split '/' cs).map lower)) := by
        rw [← lower_join, Text.join_split]
    _ = (Text.split '/' cs).map lower :=
        Text.split_join (by simpa using Text.split_ne_nil '/' cs) noSlash

/-- Texts are the same up to case if their parts between slashes are, one by one. -/
theorem lower_eq_iff_split {cs ds : List Char} :
    lower cs = lower ds ↔ (Text.split '/' cs).map lower = (Text.split '/' ds).map lower := by
  constructor
  · intro h
    rw [← lower_split, ← lower_split, h]
  · intro h
    calc lower cs
        = Text.join '/' ((Text.split '/' cs).map lower) := by rw [← lower_join, Text.join_split]
      _ = lower ds := by rw [h, ← lower_join, Text.join_split]

end WorkspaceLink.Unicode
