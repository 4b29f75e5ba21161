/-!
# Parts of texts

A text split at every occurrence of a mark, and parts joined by a mark. Joining undoes splitting,
and splitting undoes joining where no part holds the mark.
-/

namespace WorkspaceLink.Text

/-- The parts of a text between the occurrences of a mark; there is always one. -/
def split (mark : Char) : List Char → List (List Char)
  | [] => [[]]
  | c :: cs =>
    if c = mark then [] :: split mark cs
    else
      match split mark cs with
      | p :: ps => (c :: p) :: ps
      | [] => [[c]]

def join (mark : Char) : List (List Char) → List Char
  | [] => []
  | [p] => p
  | p :: q :: ps => p ++ mark :: join mark (q :: ps)

theorem split_ne_nil (mark : Char) (cs : List Char) : split mark cs ≠ [] := by
  cases cs with
  | nil => simp [split]
  | cons c cs =>
    by_cases h : c = mark
    · simp [split, h]
    · simp only [split, h, if_false]
      split <;> simp

theorem split_of_not_mem {mark : Char} {cs : List Char} (h : mark ∉ cs) : split mark cs = [cs] := by
  induction cs with
  | nil => rfl
  | cons c cs ih =>
    simp only [List.mem_cons, not_or] at h
    simp [split, Ne.symm h.1, ih h.2]

theorem split_append_mark {mark : Char} {cs : List Char} (rest : List Char) (h : mark ∉ cs) :
    split mark (cs ++ mark :: rest) = cs :: split mark rest := by
  induction cs with
  | nil => simp [split]
  | cons c cs ih =>
    simp only [List.mem_cons, not_or] at h
    simp [split, Ne.symm h.1, ih h.2]

theorem not_mem_of_mem_split {mark : Char} {cs p : List Char} (h : p ∈ split mark cs) :
    mark ∉ p := by
  induction cs generalizing p with
  | nil => simp_all [split]
  | cons c cs ih =>
    by_cases hc : c = mark
    · rcases List.mem_cons.1 (by simpa [split, hc] using h) with rfl | hp
      · simp
      · exact ih hp
    · cases hs : split mark cs with
      | nil => exact absurd hs (split_ne_nil mark cs)
      | cons q qs =>
        rw [hs] at ih
        rcases List.mem_cons.1 (by simpa [split, hc, hs] using h) with rfl | hp
        · simp [Ne.symm hc, ih List.mem_cons_self]
        · exact ih (List.mem_cons_of_mem q hp)

theorem join_split (mark : Char) (cs : List Char) : join mark (split mark cs) = cs := by
  induction cs with
  | nil => rfl
  | cons c cs ih =>
    cases hs : split mark cs with
    | nil => exact absurd hs (split_ne_nil mark cs)
    | cons p ps =>
      rw [hs] at ih
      by_cases h : c = mark
      · subst h
        simp [split, hs, join, ih]
      · cases ps with
        | nil => simpa [split, h, hs, join] using ih
        | cons q qs => simpa [split, h, hs, join] using ih

theorem infix_join {mark : Char} {p : List Char} {ps : List (List Char)} (h : p ∈ ps) :
    p <:+: join mark ps := by
  induction ps with
  | nil => cases h
  | cons q ps ih =>
    cases ps with
    | nil =>
      obtain rfl := List.mem_singleton.mp h
      exact List.infix_rfl
    | cons r ps =>
      rw [join]
      rcases List.mem_cons.mp h with rfl | h
      · exact (List.prefix_append p _).isInfix
      · exact ((ih h).trans (List.suffix_cons mark _).isInfix).trans
          (List.suffix_append q _).isInfix

/-- The parts are literally in the text. -/
theorem infix_of_mem_split {mark : Char} {cs p : List Char} (h : p ∈ split mark cs) : p <:+: cs := by
  have inside : p <:+: join mark (split mark cs) := infix_join h
  rwa [join_split] at inside

theorem split_join {mark : Char} {ps : List (List Char)} (hne : ps ≠ []) (h : ∀ p ∈ ps, mark ∉ p) :
    split mark (join mark ps) = ps := by
  induction ps with
  | nil => exact absurd rfl hne
  | cons p ps ih =>
    cases ps with
    | nil => simpa [join] using split_of_not_mem (h p List.mem_cons_self)
    | cons q qs =>
      rw [join, split_append_mark _ (h p List.mem_cons_self),
        ih (by simp) fun r hr => h r (List.mem_cons_of_mem p hr)]

end WorkspaceLink.Text
