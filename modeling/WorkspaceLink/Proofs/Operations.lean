import WorkspaceLink.Proofs.Manager

/-!
# Operations over a store

Reading finds the item of a key, deleting removes it and creating puts it there; every other item
stays as it is.
-/

namespace WorkspaceLink

/-! ## Configurations as they are written -/

namespace Config

/-- The item that a configuration is written as. -/
def item (c : Config) : Store.Item :=
  ⟨c.group.display, c.workspace.display, c.name.display, c.resourceId, c.tags.toValue⟩

/-- The snapshot of a configuration that was written under a subscription. -/
def snapshot (subscription : String) (c : Config) : Snapshot :=
  .present (.str (c.linkId subscription).print)
    (Remote.data (c.linkId subscription) c.name c.resourceId c.tags.toFields)

@[simp] theorem key_item (c : Config) (subscription : String) :
    (c.linkId subscription).key = c.item.key := rfl

end Config

theorem Tags.flatten_map (fs : Fields) : flatten (.map fs) = .ok fs := by
  cases fs <;> rfl

namespace Store

variable {s : Store} {link : LinkId} {i : Item} {c : Config}

/-- The manager of a store. -/
def manager (requireImport : Bool) : Manager Store := ⟨client, requireImport⟩

/-! ## Answers of the client -/

theorem get_found (h : s.items.find? link.key = some i) :
    client.get link.address s = (.ok (some (s.remoteOf i)), s) := by
  simp [client, get, h]

theorem get_missing (h : s.items.find? link.key = none) :
    client.get link.address s = (.error absence, s) := by
  simp [client, get, h]

theorem remove_of_missing {k : Key} (h : s.items.find? k = none) : s.remove k = s := by
  have kept : s.items.erase k = s.items := by
    apply List.filter_eq_self.mpr
    intro e he
    simpa using List.find?_eq_none.mp (Option.map_eq_none_iff.mp h) e he
  rw [remove, kept]

theorem remove_remove (s : Store) (k : Key) : (s.remove k).remove k = s.remove k :=
  remove_of_missing (by rw [remove, Items.find?_erase, if_pos rfl])

theorem write_config (hc : c.Addressable) : client.write c.address (.ofConfig c) s =
    (.ok (), s.put c.item) := by
  have resource : Value.ofString? (Payload.ofConfig c).resourceId = c.resourceId := by
    obtain ⟨r, hr⟩ : ∃ r, c.resourceId = .str r := ⟨_, hc.resource⟩
    simp [Payload.ofConfig, Payload.of, LinkId.part?, hr, Value.isNull, Value.ofString?]
  rw [hc.address s.subscription]
  simp only [client, write, itemOf?, LinkId.address, resource]
  rfl

theorem get_config_found (hc : c.Addressable) (hi : s.items.find? c.item.key = some i) :
    client.get c.address s = (.ok (some (s.remoteOf i)), s) := by
  rw [hc.address s.subscription]
  exact get_found hi

theorem get_config_missing (hc : c.Addressable) (hi : s.items.find? c.item.key = none) :
    client.get c.address s = (.error absence, s) := by
  rw [hc.address s.subscription]
  exact get_missing hi

/-! ## Reading -/

theorem truthy_id (s : Store) (i : Item) : (s.remoteOf i).id.truthy = true := by
  simp [remoteOf, Value.truthy, Scalar.truthy, LinkId.print_ne_empty]

/-- The snapshot of an item shows its id, and its names as they were asked for. -/
theorem snapshotOf_remoteOf (s : Store) (i : Item) (link : LinkId) :
    Manager.snapshotOf link (some (s.remoteOf i)) =
      Fault.ofMisfit ((Tags.flatten i.tags).map fun tags =>
        .present (.str (s.idOf i).print) (Remote.data link (.str i.name) i.resourceId tags)) := by
  rw [Manager.snapshotOf, if_pos (truthy_id s i)]
  cases h : Tags.flatten i.tags <;>
    simp [remoteOf, Remote.toSnapshot, h, Except.map, bind, Except.bind, pure, Except.pure]

theorem read_found {b : Bool} {id : Value} (h : LinkId.parse id = .ok link)
    (hi : s.items.find? link.key = some i) : (manager b).read id s =
      ⟨Manager.snapshotOf link (some (s.remoteOf i)), s, [.get link.address], []⟩ :=
  Manager.read_of_answer h (get_found hi)

theorem service_read (b : Bool) (id : Value) : ((manager b).read id s).service = s := by
  cases h : LinkId.parse id with
  | error e => rw [Manager.read_of_parse_error h]
  | ok link =>
      cases hi : s.items.find? link.key with
      | some i => rw [read_found h hi]
      | none => exact (Manager.read_of_not_found h (get_missing hi) rfl).2

/-- What reading finds is the item under the key that the id names. -/
theorem read_eq_present {b : Bool} {id id' : Value} {data : Fields}
    (h : ((manager b).read id s).result = .ok (.present id' data)) :
    ∃ link i tags, LinkId.parse id = .ok link ∧ s.items.find? link.key = some i ∧
      Tags.flatten i.tags = .ok tags ∧ id' = .str (s.idOf i).print ∧
      data = Remote.data link (.str i.name) i.resourceId tags := by
  obtain ⟨link, r, hp, answer, -, made⟩ := Manager.read_eq_present_iff.mp h
  cases hi : s.items.find? link.key with
  | none =>
      simp only [manager, get_missing hi] at answer
      cases answer
  | some i =>
      simp only [manager, get_found hi] at answer
      obtain rfl := Option.some.inj (Except.ok.inj answer)
      obtain ⟨tags, flat, made⟩ := bind_eq_ok.mp made
      obtain ⟨rfl, rfl⟩ := Snapshot.present.inj (Except.ok.inj made)
      exact ⟨link, i, tags, hp, hi, flat, rfl, rfl⟩

/-! ## Items whose tags can be read -/

/-- The tags of an item are a mapping, or nothing. -/
def Item.Plain (i : Item) : Prop := i.tags = .null ∨ ∃ tags, i.tags = .map tags

/-- The tags of an item, none where they cannot be read. -/
def Item.flatTags (i : Item) : Fields := (Tags.flatten i.tags).toOption.getD []

theorem Item.Plain.flatten_tags (h : i.Plain) : Tags.flatten i.tags = .ok i.flatTags := by
  rw [Item.flatTags]
  rcases h with h | ⟨tags, h⟩
  · rw [h]
    rfl
  · rw [h, Tags.flatten_map]
    rfl

theorem read_plain {b : Bool} {id : Value} (h : LinkId.parse id = .ok link)
    (hi : s.items.find? link.key = some i) (hp : i.Plain) : (manager b).read id s =
      ⟨.ok (.present (.str (s.idOf i).print)
        (Remote.data link (.str i.name) i.resourceId i.flatTags)), s, [.get link.address], []⟩ := by
  rw [read_found h hi, snapshotOf_remoteOf, hp.flatten_tags]
  rfl

/-- Every item of a store has tags that can be read. -/
def Plain (s : Store) : Prop := ∀ e ∈ s.items, e.2.Plain

theorem Plain.of_find? (h : s.Plain) {k : Key} (hi : s.items.find? k = some i) : i.Plain :=
  h _ (Items.mem_of_find? hi)

theorem Plain.put (h : s.Plain) (hi : i.Plain) : (s.put i).Plain := by
  intro e he
  rcases Items.mem_insert he with rfl | he
  · exact hi
  · exact h e he

theorem Plain.remove (h : s.Plain) (k : Key) : (s.remove k).Plain :=
  fun e he => h e (List.mem_filter.mp he).1

theorem plain_ofItems {subscription : String} {items : List Item} (h : ∀ i ∈ items, i.Plain) :
    (ofItems subscription items).Plain :=
  ofItems_induction (fun e he => by cases he) fun _ _ i hi hs => hs.put (h i hi)

/-! ## Deleting -/

/-- Deleting removes the item under the key that the id names, and is fine without one. -/
theorem delete_of_parse {b : Bool} {id : Value} (h : LinkId.parse id = .ok link) (s : Store) :
    (manager b).delete id s = ⟨.ok (), s.remove link.key, [.delete link.address], []⟩ := by
  rw [Manager.delete, h, Action.ofExcept_ok_bind,
    Action.bind_ok (x := (manager b).client.deleting link.address) rfl]
  cases hi : s.items.find? link.key with
  | some i => simp [manager, client, delete, hi]
  | none => simp [manager, client, delete, hi, remove_of_missing hi, absence, Failure.isNotFound]

/-! ## Creating -/

theorem find?_put (s : Store) (i : Item) : (s.put i).items.find? i.key = some i := by
  rw [put, Items.find?_insert, if_pos rfl]

theorem read_written {b : Bool} (hc : c.Addressable) (hs : '/' ∉ s.subscription.toList) :
    (manager b).read (.str (c.linkId s.subscription).print) (s.put c.item) =
      ⟨.ok (c.snapshot s.subscription), s.put c.item, [.get c.address], []⟩ := by
  have name : (.str c.item.name : Value) = c.name := by
    have := hc.address s.subscription
    simp only [Config.address, LinkId.address, Address.mk.injEq] at this
    exact this.2.2.symm
  rw [read_found (LinkId.parse_print (hc.readable _ hs)) (find?_put s c.item), snapshotOf_remoteOf,
    ← hc.address, name]
  simp only [Config.item, Tags.toValue, Tags.flatten_map]
  rfl

/-- What is written is found again under the id of the configuration. -/
theorem settle_course {b : Bool} (hc : c.Addressable) (hs : '/' ∉ s.subscription.toList) :
    (manager b).settle c s = ⟨.ok (c.snapshot s.subscription), s.put c.item,
      [.write c.address (.ofConfig c), .get c.address, .get c.address], []⟩ := by
  have write : (manager b).write c s =
      ⟨.ok (), s.put c.item, [.write c.address (.ofConfig c)], []⟩ := by
    rw [Manager.write, Action.bind_ok (x := (manager b).client.writing _ _) rfl]
    simp [manager, write_config hc]
  have verify : (manager b).verify c.address (s.put c.item) =
      ⟨.ok (.str (c.linkId s.subscription).print), s.put c.item, [.get c.address], []⟩ :=
    Manager.verify_of_answer (r := some ((s.put c.item).remoteOf c.item))
      (get_config_found hc (find?_put s c.item)) (truthy_id _ _)
  rw [Manager.settle, Action.bind_ok write, Action.bind_ok verify, read_written hc hs]
  rfl

def preparing : LogEntry :=
  ⟨.info, "preparing arguments for Log Analytics Linked Service creation."⟩

/-- Without a check, a configuration takes its place whatever stood there. -/
theorem createOrUpdate_unchecked {b : Bool} {t : Snapshot} (hc : c.Addressable)
    (hs : '/' ∉ s.subscription.toList) (ht : (b && !t.isPresent) = false) :
    (manager b).createOrUpdate c t s = ⟨.ok (c.snapshot s.subscription), s.put c.item,
      [.write c.address (.ofConfig c), .get c.address, .get c.address], [preparing]⟩ := by
  have unchecked : ¬ ((manager b).requireImport && !t.isPresent) = true := by
    simp [manager, ht]
  rw [Manager.createOrUpdate_eq, Action.bind_ok (Action.log_apply _ _ s), if_neg unchecked,
    settle_course hc hs]
  rfl

/-! ## Creating with a check -/

theorem createOrUpdate_of_found (hc : c.Addressable) (hi : s.items.find? c.item.key = some i) :
    (manager true).createOrUpdate c .absent s =
      ⟨.error (.alreadyExists (.str resourceTypeName) (.str (s.idOf i).print)), s,
        [.get c.address], [preparing]⟩ := by
  have check : (manager true).checkAbsent c.address s =
      ⟨.error (.alreadyExists (.str resourceTypeName) (.str (s.idOf i).print)), s,
        [.get c.address], []⟩ := by
    have id : (Remote.idOf (some (s.remoteOf i))).truthy = true := truthy_id s i
    rw [Manager.checkAbsent, manager,
      Action.bind_ok (Action.getting_apply (get_config_found hc hi))]
    simp only [id, if_true]
    rfl
  rw [Manager.createOrUpdate_eq, Action.bind_ok (Action.log_apply _ _ s),
    if_pos (by simp [manager, Snapshot.isPresent]), Action.bind_error check]
  rfl

/-- The check lets through what is not there. -/
theorem createOrUpdate_of_missing (hc : c.Addressable) (hs : '/' ∉ s.subscription.toList)
    (hi : s.items.find? c.item.key = none) :
    (manager true).createOrUpdate c .absent s = ⟨.ok (c.snapshot s.subscription), s.put c.item,
      [.get c.address, .write c.address (.ofConfig c), .get c.address, .get c.address],
      [preparing]⟩ := by
  have check : (manager true).checkAbsent c.address s = ⟨.ok (), s, [.get c.address], []⟩ := by
    rw [Manager.checkAbsent, manager,
      Action.bind_ok (Action.getting_apply (get_config_missing hc hi))]
    rfl
  rw [Manager.createOrUpdate_eq, Action.bind_ok (Action.log_apply _ _ s),
    if_pos (by simp [manager, Snapshot.isPresent]), Action.bind_ok check, settle_course hc hs]
  rfl

/-- Whatever stood there, creating ends with the snapshot of the configuration if it succeeds. -/
theorem createOrUpdate_eq_ok {b : Bool} {t u : Snapshot} (hc : c.Addressable)
    (hs : '/' ∉ s.subscription.toList)
    (h : ((manager b).createOrUpdate c t s).result = .ok u) : u = c.snapshot s.subscription := by
  cases hcheck : b && !t.isPresent with
  | false =>
      rw [createOrUpdate_unchecked hc hs hcheck] at h
      exact (Except.ok.inj h).symm
  | true =>
      obtain ⟨rfl, absent⟩ : b = true ∧ t = .absent := by
        cases t <;> simp_all [Snapshot.isPresent]
      subst absent
      cases hi : s.items.find? c.item.key with
      | some i =>
          rw [createOrUpdate_of_found hc hi] at h
          cases h
      | none =>
          rw [createOrUpdate_of_missing hc hs hi] at h
          exact (Except.ok.inj h).symm

/-! ## Conflicts -/

theorem get_eq_ok {a : Address} {r : Option Remote} (h : (get a s).1 = .ok r) :
    ∃ k i, Key.ofAddress? a = some k ∧ s.items.find? k = some i ∧ r = some (s.remoteOf i) := by
  unfold get at h
  split at h
  · cases h
  · rename_i k hk
    split at h
    · rename_i i hi
      exact ⟨k, i, hk, hi, (Except.ok.inj h).symm⟩
    · cases h

theorem service_get (a : Address) (s : Store) : (get a s).2 = s := by
  unfold get
  split
  · rfl
  · split <;> rfl

/-- A conflict names the item under the key of the configuration, and leaves the store alone. -/
theorem createOrUpdate_eq_conflict {b : Bool} {t : Snapshot} {type id : Value}
    (h : ((manager b).createOrUpdate c t s).result = .error (.alreadyExists type id)) :
    t.isPresent = false ∧ type = .str resourceTypeName ∧
      (∃ k i, Key.ofAddress? c.address = some k ∧ s.items.find? k = some i ∧
        id = .str (s.idOf i).print) ∧
      ((manager b).createOrUpdate c t s).calls = [.get c.address] ∧
      ((manager b).createOrUpdate c t s).service = s := by
  obtain ⟨ht, r, hget, htype, rfl, calls, service⟩ := Manager.createOrUpdate_conflict h
  obtain ⟨k, i, hk, hi, rfl⟩ := get_eq_ok hget
  exact ⟨ht, htype, ⟨k, i, hk, hi, rfl⟩, calls, service.trans (service_get _ _)⟩

end Store

end WorkspaceLink
