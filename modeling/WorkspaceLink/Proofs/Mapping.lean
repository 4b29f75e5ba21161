import WorkspaceLink.Value

/-!
# Mappings with other values

Two mappings with the same keys are the same if their values are, key by key. A key is met again in
the mapping it is from, unless an equal key stands before it or it is not a number.
-/

namespace WorkspaceLink

theorem Scalar.same_self_iff {k : Scalar} : k.same k = true ↔ k ≠ .float .nan := by
  cases k with
  | float x =>
      cases x with
      | nan => simp [same, number?, Binary64.toDyadic?]
      | infinite s => simp [same]
      | finite s m e => simp [same, number?, Binary64.toDyadic?, Dyadic.same_refl]
  | bool b => simp [same, number?, Dyadic.same_refl]
  | int n => simp [same, number?, Dyadic.same_refl]
  | dateTime t =>
      have kept : t.same t = true := by
        unfold DateTime.same
        cases t.offset <;> simp
      simp [same, kept]
  | _ => simp [same]

namespace Fields

/-- Every key of a mapping finds its own value: no two keys are equal, and none is not a number. -/
structure Proper (fs : Fields) : Prop where
  distinct : fs.keys.Pairwise fun a b => a.same b = false
  numbers : ∀ k ∈ fs.keys, k ≠ .float .nan

theorem proper_of_texts {fs : Fields} (distinct : fs.keys.Nodup)
    (texts : ∀ k ∈ fs.keys, ∃ s, k = .str s) : fs.Proper := by
  constructor
  · refine distinct.imp_of_mem fun {j k} _ hk hne => ?_
    obtain ⟨s, rfl⟩ := texts k hk
    rw [Bool.eq_false_iff, ne_eq, Scalar.same_str_iff]
    exact hne
  · rintro k hk rfl
    obtain ⟨s, hs⟩ := texts _ hk
    cases hs

/-- The mapping with other values. -/
def mapValues (g : Value → Value) (fs : Fields) : Fields := fs.map fun f => (f.1, g f.2)

variable {fs : Fields} {g : Value → Value}

theorem mapValues_cons (g : Value → Value) (f : Scalar × Value) (rest : Fields) :
    mapValues g (f :: rest) = (f.1, g f.2) :: rest.mapValues g := rfl

theorem get?_cons_same {j k : Scalar} {v : Value} (h : j.same k = true) :
    get? ((j, v) :: fs) k = some v := by
  simp [get?, h]

theorem get?_cons_other {j k : Scalar} {v : Value} (h : j.same k = false) :
    get? ((j, v) :: fs) k = fs.get? k := by
  simp [get?, h]

theorem Proper.get?_mapValues (h : fs.Proper) {f : Scalar × Value} (hf : f ∈ fs) :
    (fs.mapValues g).get? f.1 = some (g f.2) := by
  induction fs with
  | nil => cases hf
  | cons e rest ih =>
      obtain ⟨distinct, numbers⟩ := h
      obtain ⟨first, distinct⟩ := List.pairwise_cons.mp distinct
      rw [mapValues_cons]
      rcases List.mem_cons.mp hf with rfl | hmem
      · exact get?_cons_same (Scalar.same_self_iff.mpr (numbers f.1 (by simp [keys])))
      · have other : e.1.same f.1 = false := first f.1 (List.mem_map_of_mem hmem)
        rw [get?_cons_other other]
        exact ih ⟨distinct, fun k hk => numbers k (List.mem_cons_of_mem _ hk)⟩ hmem

end Fields

namespace Value

variable {fs gs : Fields}

theorem sameFields_iff : sameFields fs gs = true ↔
    ∀ f ∈ fs, ∃ w, gs.get? f.1 = some w ∧ f.2.same w = true := by
  induction fs with
  | nil => simp [sameFields]
  | cons f rest ih =>
      obtain ⟨k, v⟩ := f
      rw [sameFields, Bool.and_eq_true, ih, List.forall_mem_cons]
      refine and_congr_left fun _ => ?_
      cases gs.get? k <;> simp

/-- A mapping is the same with other values if each value is the same as the other. -/
theorem same_mapValues_iff {g : Value → Value} (h : fs.Proper) :
    (map fs).same (.map (fs.mapValues g)) = true ↔ ∀ f ∈ fs, f.2.same (g f.2) = true := by
  have length : (fs.length == (fs.mapValues g).length) = true := by simp [Fields.mapValues]
  rw [same, length, Bool.true_and, sameFields_iff]
  refine forall₂_congr fun f hf => ?_
  rw [h.get?_mapValues hf]
  simp

theorem same_map_self (h : fs.Proper) (kept : ∀ f ∈ fs, f.2.same f.2 = true) :
    (map fs).same (.map fs) = true := by
  have own : fs.mapValues id = fs := List.map_id fs
  have same := (same_mapValues_iff (g := id) h).mpr kept
  rwa [own] at same

end Value

end WorkspaceLink
