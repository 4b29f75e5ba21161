import WorkspaceLink.Proofs.Mapping
import WorkspaceLink.Proofs.Plan
import WorkspaceLink.Proofs.Tracking

/-!
# Applying a configuration

Whether a linked service is created, left alone, replaced or written again, applying a configuration
ends in the same store: the tracked item is gone and the wanted one is there.
-/

namespace WorkspaceLink

/-! ## Tags that equal themselves -/

namespace Tags

/-- The keys of tags are texts, and no key comes twice. -/
structure Textual (tags : Tags) : Prop where
  distinct : (tags.map (·.1)).Nodup
  texts : ∀ t ∈ tags, ∃ key, t.1 = .str key

theorem keys_toFields (tags : Tags) : tags.toFields.keys = tags.map (·.1) := by
  rw [toFields, Fields.keys, List.map_map]
  rfl

theorem Textual.proper {tags : Tags} (h : tags.Textual) : tags.toFields.Proper := by
  have texts : ∀ k ∈ tags.map (·.1), ∃ s, k = .str s := List.forall_mem_map.mpr h.texts
  rw [← keys_toFields] at texts
  refine Fields.proper_of_texts ?_ texts
  rw [keys_toFields]
  exact h.distinct

theorem same_toValue {tags : Tags} (h : tags.toFields.Proper) :
    tags.toValue.same tags.toValue = true := by
  refine Value.same_map_self h fun f hf => ?_
  obtain ⟨t, -, rfl⟩ := List.mem_map.mp hf
  exact Value.same_str_iff.mpr rfl

theorem Textual.same {tags : Tags} (h : tags.Textual) :
    tags.toValue.same tags.toValue = true :=
  same_toValue h.proper

end Tags

/-! ## What applying leads to -/

/-- Data show a configuration: its name, properties and tags, and its group and workspace up to
case. -/
structure Config.ShownBy (c : Config) (data : Fields) : Prop where
  group : ∃ g w, data.field? Field.group.key = some (.str g) ∧ c.group = .str w ∧
    Unicode.SameUpToCase g w
  workspace : ∃ g w, data.field? Field.workspace.key = some (.str g) ∧ c.workspace = .str w ∧
    Unicode.SameUpToCase g w
  name : data.field? Field.name.key = some c.name
  properties : data.field? Field.properties.key = some c.properties
  tags : ∃ v, data.field? Field.tags.key = some v ∧ v.same c.tags.toValue = true

theorem Plan.Kept.shownBy {c : Config} {link : LinkId} {name resourceId : Value} {tags : Fields}
    (h : Plan.Kept c link resourceId) (hc : c.Addressable)
    (ht : (Value.map tags).same c.tags.toValue = true) :
    c.ShownBy (Remote.data link name resourceId tags) := by
  obtain ⟨hg, hw, hn⟩ := hc.texts
  have field := @Remote.field?_data link name resourceId tags
  refine ⟨⟨_, _, field .group, hg, h.group⟩, ⟨_, _, field .workspace, hw, h.workspace⟩, ?_, ?_,
    ⟨_, field .tags, ht⟩⟩
  · rw [field, hn, ← h.name]
    rfl
  · rw [field, Config.properties, h.resource, hc.resource]
    rfl

namespace Store

/-- A store is what a configuration makes of another in which the item of a key was tracked: that
item is gone, the wanted one is there, and all others are as before. -/
structure Converged (before : Store) (tracked : Option Key) (c : Config) (after : Store) :
    Prop where
  subscription : after.subscription = before.subscription
  keyed : after.Keyed
  wanted : ∃ i tags, after.items.find? c.item.key = some i ∧ i.resourceId = c.resourceId ∧
    Tags.flatten i.tags = .ok tags ∧ (Value.map tags).same c.tags.toValue = true
  others : ∀ k, k ≠ c.item.key →
    after.items.find? k = if tracked = some k then none else before.items.find? k

/-- A course ended with a snapshot that shows a configuration, in the store that it makes of
another. -/
def Reached (before : Store) (tracked : Option Key) (c : Config) (course : Course Store Snapshot) :
    Prop :=
  ∃ id data, course.result = .ok (.present id data) ∧ c.ShownBy data ∧
    Converged before tracked c course.service

variable {s : Store} {c : Config}

theorem converged_put {before : Store} {tracked : Option Key} (hk : s.Keyed)
    (hs : s.subscription = before.subscription) (ht : c.tags.Textual)
    (others : ∀ k, k ≠ c.item.key →
      s.items.find? k = if tracked = some k then none else before.items.find? k) :
    Converged before tracked c (s.put c.item) where
  subscription := hs
  keyed := hk.put c.item
  wanted := ⟨c.item, c.tags.toFields, find?_put s c.item, rfl, Tags.flatten_map _, ht.same⟩
  others := fun k hne => by
    rw [put, Items.find?_insert, if_neg (Ne.symm hne)]
    exact others k hne

theorem shownBy_snapshot (hc : c.Addressable) (ht : c.tags.Textual) (subscription : String) :
    c.ShownBy (Remote.data (c.linkId subscription) c.name c.resourceId c.tags.toFields) :=
  Plan.Kept.shownBy ⟨rfl, rfl, rfl, rfl⟩ hc ht.same

/-! ## The routes -/

/-- What is wanted is reached by writing it, wherever the store has come to from another one. -/
theorem reached_put {before : Store} {tracked : Option Key} (hc : c.Addressable)
    (ht : c.tags.Textual) (hk : s.Keyed) (hb : s.subscription = before.subscription)
    (others : ∀ k, k ≠ c.item.key →
      s.items.find? k = if tracked = some k then none else before.items.find? k)
    (calls : List Call) (logs : List LogEntry) :
    Reached before tracked c ⟨.ok (c.snapshot s.subscription), s.put c.item, calls, logs⟩ :=
  ⟨_, _, rfl, shownBy_snapshot hc ht _, converged_put hk hb ht others⟩

/-- Creating reaches what is wanted, wherever the store has come to from another one. -/
theorem createOrUpdate_reaches {before : Store} {tracked : Option Key} (hc : c.Addressable)
    (ht : c.tags.Textual) (u : Snapshot) (hk : s.Keyed) (hs : '/' ∉ s.subscription.toList)
    (hb : s.subscription = before.subscription)
    (others : ∀ k, k ≠ c.item.key →
      s.items.find? k = if tracked = some k then none else before.items.find? k) :
    Reached before tracked c ((manager false).createOrUpdate c u s) := by
  rw [createOrUpdate_unchecked hc hs (Bool.false_and _)]
  exact reached_put hc ht hk hb others _ _

theorem key_eq_of_kept {link : LinkId} {resourceId : Value} (h : Plan.Kept c link resourceId) :
    link.key = c.item.key :=
  Key.of_eq_of_iff.mpr ⟨h.group, h.workspace, congrArg _ h.name⟩

variable {id : Value} {data : Fields} {link : LinkId} {i : Item} {tags : Fields}

theorem skip_reaches (hc : c.Addressable) (hk : s.Keyed) (hs : '/' ∉ s.subscription.toList)
    (h : s.Tracks id data link i tags) (hp : (Plan.between data c).hasChanges = false) :
    Reached s (Snapshot.present id data).key? c ⟨.ok (.present id data), s, [], []⟩ := by
  have hkey := h.key hk hs
  obtain ⟨-, found, flat, -, rfl⟩ := h
  have same := Plan.same_tags_of_not_hasChanges hp
  have kept := Plan.kept_of_not_requiresReplacement hc
    (Plan.not_requiresReplacement_of_not_hasChanges hp)
  have key := key_eq_of_kept kept
  refine ⟨_, _, rfl, kept.shownBy hc same, rfl, hk,
    ⟨i, tags, key ▸ found, kept.resource, flat, same⟩, ?_⟩
  intro k hne
  rw [hkey, key, if_neg fun he => hne (Option.some.inj he).symm]

theorem update_reaches (hc : c.Addressable) (ht : c.tags.Textual) (hk : s.Keyed)
    (hs : '/' ∉ s.subscription.toList) (h : s.Tracks id data link i tags)
    (hp : (Plan.between data c).requiresReplacement = false) :
    Reached s (Snapshot.present id data).key? c
      ((manager false).createOrUpdate c (.present id data) s) := by
  have hkey := h.key hk hs
  have key : link.key = c.item.key := by
    rw [h.data_eq] at hp
    exact key_eq_of_kept (Plan.kept_of_not_requiresReplacement hc hp)
  refine createOrUpdate_reaches hc ht _ hk hs rfl fun k hne => ?_
  rw [hkey, key, if_neg fun he => hne (Option.some.inj he).symm]

/-- Replacing deletes what is tracked, whose id leads to its item, and creates what is wanted. -/
theorem replace_reaches (hc : c.Addressable) (ht : c.tags.Textual) (hk : s.Keyed)
    (hs : '/' ∉ s.subscription.toList) (h : s.Tracks id data link i tags) (p : Plan) :
    Reached s (Snapshot.present id data).key? c ((manager false).replace c id p s) := by
  have hparse := h.parse_id hk hs
  have deleted : (manager false).delete id s =
      ⟨.ok (), s.remove link.key, [.delete (s.idOf i).address], []⟩ := by
    rw [delete_of_parse hparse, key_idOf, hk.key_of_find? h.found]
  rw [Manager.replace, Action.bind_ok (Action.log_apply _ _ s), Action.bind_ok deleted]
  refine createOrUpdate_reaches hc ht _ (hk.remove _) hs rfl fun k hne => ?_
  rw [h.key hk hs, remove, Items.find?_erase]
  simp

/-- Applying a decoded configuration succeeds and shows it, and of the store it leaves everything
but the tracked and the wanted item alone. -/
theorem apply_converges [Host] {raw : Value} {t : Snapshot} (hk : s.Keyed)
    (hs : '/' ∉ s.subscription.toList) (hc : Config.decode raw = .ok c) (ht : c.tags.Textual)
    (hr : s.Returned t) :
    ∃ id data, ((manager false).apply c t s).result = .ok (.present id data) ∧ c.ShownBy data ∧
      Converged s t.key? c ((manager false).apply c t s).service := by
  have addressable := Config.addressable_of_decode hc
  cases t with
  | absent =>
      exact createOrUpdate_reaches addressable ht .absent hk hs rfl fun k _ => by
        simp [Snapshot.key?]
  | present id data =>
      obtain ⟨link, i, tags, tracked⟩ := tracks_of_returned hr
      simp only [Manager.apply]
      split
      · rename_i hp
        exact skip_reaches addressable hk hs tracked (by simpa using hp)
      · split
        · exact replace_reaches addressable ht hk hs tracked _
        · rename_i hp
          exact update_reaches addressable ht hk hs tracked (by simpa using hp)

/-- A linked service that moves onto another one. -/
theorem apply_converges_moving :
    ∃ id data,
      ((manager false).apply Sample.config Sample.tracked Sample.store).result =
        .ok (.present id data) ∧ Sample.config.ShownBy data ∧
      Converged Sample.store Sample.tracked.key? Sample.config
        ((manager false).apply Sample.config Sample.tracked Sample.store).service :=
  apply_converges (keyed_ofItems _ _) (by decide) Sample.decode_raw
    ⟨by decide, by simp [Sample.config]⟩ (.read (b := false) Sample.read_tracked)

/-! ## Conflicts -/

/-- A replacement that meets a conflict has deleted what its id names, and nothing else has
happened. -/
theorem replace_conflict {p : Plan} {type v : Value}
    (h : ((manager true).replace c id p s).result = .error (.alreadyExists type v)) :
    ∃ link, LinkId.parse id = .ok link ∧ type = .str resourceTypeName ∧
      (∃ k i, Key.ofAddress? c.address = some k ∧ (s.remove link.key).items.find? k = some i ∧
        v = .str ((s.remove link.key).idOf i).print) ∧
      ((manager true).replace c id p s).calls = [.delete link.address, .get c.address] ∧
      ((manager true).replace c id p s).service = s.remove link.key := by
  rw [Manager.replace, Action.bind_ok (Action.log_apply _ _ s)] at h ⊢
  cases hp : LinkId.parse id with
  | error e =>
      rw [Action.bind_error (Manager.delete_of_parse_error hp s)] at h
      exact absurd (Except.error.inj h) (Manager.noConflict_parse hp type v)
  | ok link =>
      rw [Action.bind_ok (delete_of_parse hp s)] at h ⊢
      obtain ⟨-, htype, hitem, calls, service⟩ := createOrUpdate_eq_conflict h
      exact ⟨link, rfl, htype, hitem, by simp [calls], service⟩

theorem apply_of_found (hc : c.Addressable)
    (hr : (Plan.between data c).requiresReplacement = true) (hp : LinkId.parse id = .ok link)
    (hi : (s.remove link.key).items.find? c.item.key = some i) :
    ∃ logs, (manager true).apply c (.present id data) s =
      ⟨.error (.alreadyExists (.str resourceTypeName) (.str ((s.remove link.key).idOf i).print)),
        s.remove link.key, [.delete link.address, .get c.address], logs⟩ := by
  rw [Manager.apply_of_replaced hr, Manager.replace, Action.bind_ok (Action.log_apply _ _ s),
    Action.bind_ok (delete_of_parse hp s), createOrUpdate_of_found hc hi]
  exact ⟨_, rfl⟩

/-- When applying ends with a conflict, nothing was written. Without a replacement nothing was
deleted either; a replacement has deleted what the id of the snapshot names by then. -/
theorem apply_conflict {t : Snapshot} {type v : Value}
    (h : ((manager true).apply c t s).result = .error (.alreadyExists type v)) :
    type = .str resourceTypeName ∧
    (∃ k i, Key.ofAddress? c.address = some k ∧
      ((manager true).apply c t s).service.items.find? k = some i ∧
      v = .str (((manager true).apply c t s).service.idOf i).print) ∧
    ((t = .absent ∧ ((manager true).apply c t s).calls = [.get c.address] ∧
        ((manager true).apply c t s).service = s) ∨
      ∃ id data link, t = .present id data ∧ (Plan.between data c).requiresReplacement = true ∧
        LinkId.parse id = .ok link ∧
        ((manager true).apply c t s).calls = [.delete link.address, .get c.address] ∧
        ((manager true).apply c t s).service = s.remove link.key) := by
  cases t with
  | absent =>
      obtain ⟨-, htype, hitem, calls, service⟩ := createOrUpdate_eq_conflict h
      refine ⟨htype, ?_, Or.inl ⟨rfl, calls, service⟩⟩
      rw [Manager.apply, service]
      exact hitem
  | present id data =>
      simp only [Manager.apply] at h ⊢
      split at h
      · cases h
      · rename_i hc
        rw [if_neg hc]
        split at h
        · rename_i hr
          rw [if_pos hr]
          obtain ⟨link, hp, htype, hitem, calls, service⟩ := replace_conflict h
          refine ⟨htype, ?_, Or.inr ⟨id, data, link, rfl, hr, hp, calls, service⟩⟩
          rw [service]
          exact hitem
        · -- a linked service that is there already is not checked for
          cases (createOrUpdate_eq_conflict h).1

theorem found_behind_sample :
    (Sample.store.remove (Sample.link "ws01").key).items.find? Sample.config.item.key =
      some (Sample.item "ws02") := by
  have other : (Sample.link "ws01").key ≠ (Sample.link "ws02").key := by decide +kernel
  rw [remove, Items.find?_erase]
  exact (if_neg other).trans (Sample.find?_store "ws02" (.inr rfl))

theorem sample_requiresReplacement :
    (Plan.between Sample.tracked.data Sample.config).requiresReplacement = true := by
  decide +kernel

theorem sample_course [Host] :
    ∃ v logs, (manager true).apply Sample.config Sample.tracked Sample.store =
      ⟨.error (.alreadyExists (.str resourceTypeName) v),
        Sample.store.remove (Sample.link "ws01").key,
        [.delete (Sample.link "ws01").address, .get Sample.config.address], logs⟩ :=
  ⟨_, apply_of_found (Config.addressable_of_decode Sample.decode_raw) sample_requiresReplacement
    Sample.parse_link found_behind_sample⟩

/-- A conflict that costs the linked service that was to move. -/
theorem apply_conflict_moving :
    ∃ type v, ((manager true).apply Sample.config Sample.tracked Sample.store).result =
        .error (.alreadyExists type v) ∧
      type = .str resourceTypeName ∧
      (∃ k i, Key.ofAddress? Sample.config.address = some k ∧
        ((manager true).apply Sample.config Sample.tracked Sample.store).service.items.find? k =
          some i ∧
        v = .str (((manager true).apply Sample.config Sample.tracked
          Sample.store).service.idOf i).print) := by
  obtain ⟨v, logs, course⟩ := sample_course
  have conflict : ((manager true).apply Sample.config Sample.tracked Sample.store).result =
      .error (.alreadyExists (.str resourceTypeName) v) := by
    rw [course]
  obtain ⟨type, item, -⟩ := apply_conflict conflict
  exact ⟨_, _, conflict, type, item⟩

/-- A conflict does not leave the store as it was: the tracked item, just read, has been deleted. -/
theorem conflict_loses_tracked :
    Config.decode Sample.raw = .ok Sample.config ∧
      ((manager true).read (.str (Sample.link "ws01").print) Sample.store).result =
        .ok Sample.tracked ∧
      Sample.store.items.find? (Sample.link "ws01").key = some (Sample.item "ws01") ∧
      (∃ type v, ((manager true).apply Sample.config Sample.tracked Sample.store).result =
        .error (.alreadyExists type v)) ∧
      ((manager true).apply Sample.config Sample.tracked Sample.store).calls =
        [.delete (Sample.link "ws01").address, .get Sample.config.address] ∧
      ((manager true).apply Sample.config Sample.tracked Sample.store).service.items.find?
        (Sample.link "ws01").key = none := by
  obtain ⟨v, logs, course⟩ := sample_course
  rw [course, remove, Items.find?_erase]
  exact ⟨Sample.decode_raw, Sample.read_tracked, Sample.find?_store "ws01" (.inl rfl),
    ⟨_, _, rfl⟩, rfl, if_pos rfl⟩

end Store

end WorkspaceLink
