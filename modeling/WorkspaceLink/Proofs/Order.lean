import WorkspaceLink.Proofs.Store

/-!
# Stores in the order of their keys

Keys are in a strict order: by group, then workspace, then name. Stores that keep their items in
this order are the same if they hold the same under every key.
-/

namespace WorkspaceLink.Store

/-! ## The order of keys -/

namespace Key

variable {k l m : Key}

theorem before_iff : k.before l = true ↔ k.group < l.group ∨ (k.group = l.group ∧
    (k.workspace < l.workspace ∨ (k.workspace = l.workspace ∧ k.name < l.name))) := by
  have group := String.lt_irrefl k.group
  have workspace := String.lt_irrefl k.workspace
  unfold before
  grind

theorem not_before_self (k : Key) : k.before k = false := by
  rw [before, if_neg (fun h => h rfl), if_neg (fun h => h rfl)]
  exact decide_eq_false (String.lt_irrefl _)

theorem before_trans (h : k.before l = true) (h' : l.before m = true) : k.before m = true := by
  rw [before_iff] at h h' ⊢
  rcases h with h | ⟨hg, h | ⟨hw, h⟩⟩ <;> rcases h' with h' | ⟨hg', h' | ⟨hw', h'⟩⟩ <;>
    grind [String.lt_trans]

theorem before_or_before (h : k ≠ l) : k.before l = true ∨ l.before k = true := by
  obtain ⟨g, w, n⟩ := k
  obtain ⟨g', w', n'⟩ := l
  have group := Std.lt_trichotomy g g'
  have workspace := Std.lt_trichotomy w w'
  have name := Std.lt_trichotomy n n'
  simp only [before_iff]
  grind

end Key

/-! ## Items in order -/

namespace Items

variable {items others : Items} {k : Key} {i : Item}

/-- Every item comes before all that follow it. -/
def Sorted (items : Items) : Prop := items.Pairwise fun d e => d.1.before e.1 = true

theorem sorted_cons_iff : Sorted ((k, i) :: items) ↔
    (∀ e ∈ items, k.before e.1 = true) ∧ items.Sorted :=
  List.pairwise_cons

theorem Sorted.erase (h : items.Sorted) (k : Key) : (items.erase k).Sorted :=
  List.Pairwise.filter _ h

theorem Sorted.insert (h : items.Sorted) (k : Key) (i : Item) : (items.insert k i).Sorted := by
  induction items with
  | nil => exact List.pairwise_singleton _ _
  | cons e items ih =>
      obtain ⟨l, j⟩ := e
      obtain ⟨first, rest⟩ := sorted_cons_iff.mp h
      rw [Items.insert]
      split
      · rename_i he
        exact sorted_cons_iff.mpr ⟨he ▸ first, rest⟩
      · rename_i hne
        split
        · rename_i hb
          refine sorted_cons_iff.mpr ⟨fun e he => ?_, h⟩
          rcases List.mem_cons.mp he with rfl | he
          · exact hb
          · exact Key.before_trans hb (first e he)
        · rename_i hb
          have later : l.before k = true := (Key.before_or_before hne).resolve_left hb
          refine sorted_cons_iff.mpr ⟨fun e he => ?_, ih rest⟩
          rcases mem_insert he with rfl | he
          · exact later
          · exact first e he

/-- Nothing is found under a key that comes before all others. -/
theorem find?_eq_none_of_before (h : ∀ e ∈ items, k.before e.1 = true) : items.find? k = none := by
  cases hi : items.find? k with
  | none => rfl
  | some i =>
      have self := h _ (mem_of_find? hi)
      rw [Key.not_before_self] at self
      cases self

theorem Sorted.find?_eq_none {l : Key} (h : Sorted ((l, i) :: items)) (hb : k.before l = true) :
    find? ((l, i) :: items) k = none := by
  refine find?_eq_none_of_before fun e he => ?_
  rcases List.mem_cons.mp he with rfl | he
  · exact hb
  · exact Key.before_trans hb ((sorted_cons_iff.mp h).1 e he)

/-- Of two heads with different keys, the earlier one would be found on its own side only. -/
theorem key_eq_of_find?_eq {l : Key} {j : Item} (h : Sorted ((k, i) :: items))
    (h' : Sorted ((l, j) :: others))
    (same : ∀ m, find? ((k, i) :: items) m = find? ((l, j) :: others) m) : k = l := by
  by_cases hne : k = l
  · exact hne
  · rcases Key.before_or_before hne with hb | hb
    · have found := same k
      rw [h'.find?_eq_none hb, find?_cons, if_pos rfl] at found
      cases found
    · have found := same l
      rw [h.find?_eq_none hb, find?_cons, if_pos rfl] at found
      cases found

/-- Sorted items in which the same is found under every key are the same. -/
theorem Sorted.ext (h : items.Sorted) (h' : others.Sorted)
    (same : ∀ k, items.find? k = others.find? k) : items = others := by
  induction items generalizing others with
  | nil =>
      cases others with
      | nil => rfl
      | cons e others => simpa [find?_cons, find?] using same e.1
  | cons d items ih =>
      obtain ⟨k, i⟩ := d
      cases others with
      | nil => simpa [find?_cons, find?] using same k
      | cons e others =>
          obtain ⟨l, j⟩ := e
          obtain rfl := key_eq_of_find?_eq h h' same
          obtain ⟨first, rest⟩ := sorted_cons_iff.mp h
          obtain ⟨first', rest'⟩ := sorted_cons_iff.mp h'
          have item : i = j := by simpa [find?_cons] using same k
          have tails : items = others := ih rest rest' fun m => by
            by_cases hm : k = m
            · rw [← hm, find?_eq_none_of_before first, find?_eq_none_of_before first']
            · simpa [find?_cons, hm] using same m
          rw [item, tails]

end Items

/-! ## Stores in order -/

/-- Every item is held under its own key, in the order of keys. -/
structure InOrder (s : Store) : Prop where
  keyed : s.Keyed
  sorted : s.items.Sorted

namespace InOrder

variable {s t : Store}

theorem put (h : s.InOrder) (i : Item) : (s.put i).InOrder :=
  ⟨h.keyed.put i, h.sorted.insert i.key i⟩

theorem remove (h : s.InOrder) (k : Key) : (s.remove k).InOrder :=
  ⟨h.keyed.remove k, h.sorted.erase k⟩

theorem ext (h : s.InOrder) (h' : t.InOrder) (hs : s.subscription = t.subscription)
    (same : ∀ k, s.items.find? k = t.items.find? k) : s = t := by
  have items := h.sorted.ext h'.sorted same
  cases s
  cases t
  cases hs
  cases items
  rfl

theorem put_put (h : s.InOrder) (i : Item) : (s.put i).put i = s.put i := by
  refine ext ((h.put i).put i) (h.put i) rfl fun k => ?_
  simp only [Store.put, Items.find?_insert]
  split <;> rfl

/-- What was written before a removal does not matter if it is written again. -/
theorem put_remove_put (h : s.InOrder) (i : Item) (k : Key) :
    ((s.put i).remove k).put i = (s.remove k).put i := by
  refine ext (((h.put i).remove k).put i) ((h.remove k).put i) rfl fun l => ?_
  simp only [Store.put, Store.remove, Items.find?_insert, Items.find?_erase]
  split <;> rfl

end InOrder

theorem inOrder_ofItems (subscription : String) (items : List Item) :
    (ofItems subscription items).InOrder :=
  ofItems_induction ⟨fun e he => (by cases he), List.Pairwise.nil⟩ fun _ _ i _ h => h.put i

end WorkspaceLink.Store
