import WorkspaceLink.Proofs.LinkId
import WorkspaceLink.Store

/-!
# Stores as maps

What a store answers depends on the item of a key only. Writing and removing change one key and
leave every other as it is.
-/

namespace WorkspaceLink

/-! ## Keys -/

/-- The key under which a store holds the linked service of an id. -/
def LinkId.key (id : LinkId) : Store.Key := .of id.group id.workspace id.name

namespace Store

theorem Key.of_eq_of_iff {g w n g' w' n' : String} :
    Key.of g w n = Key.of g' w' n' ↔ Unicode.SameUpToCase g g' ∧ Unicode.SameUpToCase w w' ∧
      Unicode.SameUpToCase n n' := by
  simp [Key.of, Unicode.SameUpToCase]

@[simp] theorem ofAddress?_address (id : LinkId) : Key.ofAddress? id.address = some id.key := rfl

@[simp] theorem key_idOf (s : Store) (i : Item) : (s.idOf i).key = i.key := rfl

/-- The id of an item whose key an id has is spelled like that id, but for the subscription, which
is that of the store. -/
theorem sameUpToCase_idOf {s : Store} {i : Item} {id : LinkId} (h : i.key = id.key) :
    (s.idOf i).SameUpToCase { id with subscription := s.subscription } := by
  obtain ⟨group, workspace, name⟩ := Key.of_eq_of_iff.mp h
  exact ⟨rfl, group, workspace, name⟩

/-! ## Items -/

namespace Items

theorem find?_cons (k l : Key) (i : Item) (items : Items) :
    find? ((l, i) :: items) k = if l = k then some i else find? items k := by
  by_cases h : l = k <;> simp [find?, h]

theorem mem_of_find? {items : Items} {k : Key} {i : Item} (h : items.find? k = some i) :
    (k, i) ∈ items := by
  induction items with
  | nil => cases h
  | cons e items ih =>
      obtain ⟨l, j⟩ := e
      rw [find?_cons] at h
      split at h
      · rename_i hk
        obtain rfl := Option.some.inj h
        simp [hk]
      · exact List.mem_cons_of_mem _ (ih h)

theorem find?_insert (k l : Key) (i : Item) (items : Items) :
    (items.insert k i).find? l = if k = l then some i else items.find? l := by
  induction items with
  | nil => rw [insert, find?_cons]
  | cons e items ih =>
      obtain ⟨m, j⟩ := e
      rw [insert]
      split
      · rename_i h
        subst h
        simp only [find?_cons]
        split <;> rfl
      · split
        · rw [find?_cons]
        · rename_i hne _
          rw [find?_cons, ih, find?_cons]
          split
          · rename_i h
            rw [if_neg (h ▸ hne)]
          · rfl

theorem erase_cons (k l : Key) (i : Item) (items : Items) :
    erase ((l, i) :: items) k = if l = k then erase items k else (l, i) :: erase items k := by
  by_cases h : l = k <;> simp [erase, h]

theorem find?_erase (k l : Key) (items : Items) :
    (items.erase k).find? l = if k = l then none else items.find? l := by
  induction items with
  | nil => simp [erase, find?]
  | cons e items ih =>
      obtain ⟨m, j⟩ := e
      rw [erase_cons]
      split
      · rename_i h
        subst h
        rw [ih, find?_cons]
        split <;> rfl
      · rename_i hne
        rw [find?_cons, ih, find?_cons]
        split
        · rename_i h
          rw [if_neg (h ▸ Ne.symm hne)]
        · rfl

theorem mem_insert {k : Key} {i : Item} {items : Items} {e : Key × Item}
    (h : e ∈ items.insert k i) : e = (k, i) ∨ e ∈ items := by
  induction items with
  | nil => exact Or.inl (List.mem_singleton.mp h)
  | cons d items ih =>
      obtain ⟨l, j⟩ := d
      rw [insert] at h
      split at h
      · grind
      · split at h <;> grind

end Items

/-! ## Stores whose items are where they belong -/

/-- Every item is held under its own key. -/
def Keyed (s : Store) : Prop := ∀ e ∈ s.items, e.1 = e.2.key

theorem Keyed.key_of_find? {s : Store} (h : s.Keyed) {k : Key} {i : Item}
    (hi : s.items.find? k = some i) : i.key = k :=
  (h _ (Items.mem_of_find? hi)).symm

theorem Keyed.put {s : Store} (h : s.Keyed) (i : Item) : (s.put i).Keyed := by
  intro e he
  rcases Items.mem_insert he with rfl | he
  · rfl
  · exact h e he

theorem Keyed.remove {s : Store} (h : s.Keyed) (k : Key) : (s.remove k).Keyed :=
  fun e he => h e (List.mem_filter.mp he).1

/-- What holds of the empty store and is kept by writing each of some items holds of the store made
of them. Writing keeps the subscription, from which the ids of the items are made. -/
theorem ofItems_induction {P : Store → Prop} {subscription : String} {items : List Item}
    (empty : P ⟨subscription, []⟩)
    (put : ∀ s, s.subscription = subscription → ∀ i ∈ items, P s → P (s.put i)) :
    P (ofItems subscription items) := by
  have step (s : Store) (same : s.subscription = subscription) (h : P s) :
      P (items.foldl Store.put s) := by
    induction items generalizing s with
    | nil => exact h
    | cons i items ih =>
        have first : P (s.put i) := put s same i List.mem_cons_self h
        exact ih (fun s same j hj => put s same j (List.mem_cons_of_mem _ hj)) _ same first
  exact step _ rfl empty

theorem keyed_ofItems (subscription : String) (items : List Item) :
    (ofItems subscription items).Keyed :=
  ofItems_induction (fun e he => by cases he) fun _ _ i _ h => h.put i

end Store

end WorkspaceLink
