import WorkspaceLink.Proofs.Apply

/-!
# After a conflict

Where linked services have to be imported before they are managed, creating one that exists already
ends with a conflict. The id that the conflict names is the way out: what is imported by it can be
brought to the configuration that was refused, even where that takes a replacement.
-/

namespace WorkspaceLink

/-- Data have the group, the workspace and the name of a configuration, up to case. -/
def Config.NamedBy (c : Config) (data : Fields) : Prop :=
  ∀ f ∈ [Field.group, .workspace, .name], ∃ v w,
    data.field? f.key = some (.str v) ∧ c.value f = .str w ∧ Unicode.SameUpToCase v w

theorem Config.namedBy_data {c : Config} {link : LinkId} {name resourceId : Value} {tags : Fields}
    (hc : c.Addressable) (h : link.key = c.item.key) :
    c.NamedBy (Remote.data link name resourceId tags) := by
  obtain ⟨hg, hw, hn⟩ := hc.texts
  obtain ⟨group, workspace, linkName⟩ := Store.Key.of_eq_of_iff.mp h
  intro f hf
  rw [Remote.field?_data]
  simp only [List.mem_cons, List.not_mem_nil, or_false] at hf
  rcases hf with rfl | rfl | rfl
  · exact ⟨_, _, rfl, hg, group⟩
  · exact ⟨_, _, rfl, hw, workspace⟩
  · exact ⟨_, _, rfl, hn, linkName⟩

namespace Store

variable {s : Store} {c : Config} {i : Item} {id : Value} {data : Fields} {link : LinkId}
  {tags : Fields}

/-! ## What a conflict names -/

theorem found_of_conflict {b : Bool} {t : Snapshot} {type : Value} (hc : c.Addressable)
    (h : ((manager b).createOrUpdate c t s).result = .error (.alreadyExists type id)) :
    ∃ i, s.items.find? c.item.key = some i ∧ id = .str (s.idOf i).print := by
  obtain ⟨-, -, ⟨k, i, hk, hi, hid⟩, -, -⟩ := createOrUpdate_eq_conflict h
  rw [hc.address s.subscription, ofAddress?_address] at hk
  obtain rfl := Option.some.inj hk
  exact ⟨i, hi, hid⟩

theorem sameUpToCase_linkId (hk : s.Keyed) (hi : s.items.find? c.item.key = some i) :
    (s.idOf i).SameUpToCase (c.linkId s.subscription) := by
  have key : i.key = (c.linkId s.subscription).key := hk.key_of_find? hi
  exact sameUpToCase_idOf key

/-- What is imported by the id of an item shows that item. -/
theorem import_found {b : Bool} (hc : c.Addressable) (hk : s.Keyed) (hp : s.Plain)
    (hs : '/' ∉ s.subscription.toList) (hi : s.items.find? c.item.key = some i) :
    (manager b).importExisting (.str (s.idOf i).print) s =
      ⟨.ok (.present (.str (s.idOf i).print)
        (Remote.data (s.idOf i) (.str i.name) i.resourceId i.flatTags)), s,
        [.get (s.idOf i).address], []⟩ := by
  have readable : (s.idOf i).Readable :=
    (sameUpToCase_linkId hk hi).readable (hc.readable _ hs) hs
  have found : s.items.find? (s.idOf i).key = some i := by
    rwa [key_idOf, hk.key_of_find? hi]
  exact read_plain (LinkId.parse_print readable) found (hp.of_find? hi)

/-! ## Applying to what was imported -/

theorem Converged.of_own_key {u : Store} (h : Converged s (some c.item.key) c u) :
    Converged s none c u where
  subscription := h.subscription
  keyed := h.keyed
  wanted := h.wanted
  others := fun k hne => by
    rw [h.others k hne, if_neg fun he => hne (Option.some.inj he).symm]
    rfl

theorem replace_own_key {b : Bool} (hc : c.Addressable) (hs : '/' ∉ s.subscription.toList)
    (hid : LinkId.parse id = .ok link) (hkey : link.key = c.item.key) (p : Plan) :
    ∃ calls logs, (manager b).replace c id p s =
      ⟨.ok (c.snapshot s.subscription), (s.remove link.key).put c.item, calls, logs⟩ := by
  -- the check of the policy comes after the deletion, so that it finds the place empty
  have cleared : (s.remove link.key).items.find? c.item.key = none := by
    rw [hkey, remove, Items.find?_erase, if_pos rfl]
  rw [Manager.replace, Action.bind_ok (Action.log_apply _ _ s),
    Action.bind_ok (delete_of_parse hid s)]
  cases b with
  | false =>
      rw [createOrUpdate_unchecked (s := s.remove link.key) hc hs rfl]
      exact ⟨_, _, rfl⟩
  | true =>
      rw [createOrUpdate_of_missing (s := s.remove link.key) hc hs cleared]
      exact ⟨_, _, rfl⟩

/-- What is applied to the item in its own place is written there, unless nothing differs; all other
items stay as they are. -/
theorem apply_own_key_course {b : Bool} (hc : c.Addressable) (hk : s.Keyed)
    (hs : '/' ∉ s.subscription.toList) (h : s.Tracks id data link i tags)
    (hkey : link.key = c.item.key) :
    ((Plan.between data c).hasChanges = false ∧
      (manager b).apply c (.present id data) s = ⟨.ok (.present id data), s, [], []⟩) ∨
    ∃ (u : Store) (calls : List Call) (logs : List LogEntry), u.Keyed ∧ u.subscription = s.subscription ∧
      (∀ k, k ≠ c.item.key → u.items.find? k = s.items.find? k) ∧
      (manager b).apply c (.present id data) s =
        ⟨.ok (c.snapshot s.subscription), u.put c.item, calls, logs⟩ := by
  rcases Manager.apply_route (manager b) c id data with
    ⟨unchanged, route⟩ | ⟨-, route⟩ | ⟨-, -, route⟩ <;> rw [route]
  · exact .inl ⟨unchanged, rfl⟩
  · have key : (s.idOf i).key = c.item.key := by
      rw [key_idOf, hk.key_of_find? h.found, hkey]
    obtain ⟨calls, logs, course⟩ :=
      replace_own_key (b := b) hc hs (h.parse_id hk hs) key (Plan.between data c)
    refine .inr ⟨s.remove (s.idOf i).key, calls, logs, hk.remove _, rfl, fun k hne => ?_, course⟩
    rw [key, remove, Items.find?_erase, if_neg (Ne.symm hne)]
  · rw [createOrUpdate_unchecked hc hs (by simp [Snapshot.isPresent])]
    exact .inr ⟨s, _, _, hk, rfl, fun _ _ => rfl, rfl⟩

theorem apply_own_key {b : Bool} (hc : c.Addressable) (ht : c.tags.Textual) (hk : s.Keyed)
    (hs : '/' ∉ s.subscription.toList) (h : s.Tracks id data link i tags)
    (hkey : link.key = c.item.key) :
    Reached s none c ((manager b).apply c (.present id data) s) := by
  rcases apply_own_key_course (b := b) hc hk hs h hkey with
    ⟨unchanged, course⟩ | ⟨u, calls, logs, keyed, subscription, others, course⟩ <;> rw [course]
  · obtain ⟨id', data', result, shown, converged⟩ := skip_reaches hc hk hs h unchanged
    rw [h.key hk hs, hkey] at converged
    exact ⟨id', data', result, shown, converged.of_own_key⟩
  · rw [← subscription]
    refine reached_put hc ht keyed subscription (fun k hne => ?_) calls logs
    rw [others k hne]
    rfl

/-- The id of a conflict imports what stands in the place of a configuration, and the configuration
can be applied to that: it is shown and stored then, and all other items are as before. -/
theorem import_recovers [Host] {raw type : Value} (hk : s.Keyed) (hp : s.Plain)
    (hs : '/' ∉ s.subscription.toList) (hc : Config.decode raw = .ok c) (ht : c.tags.Textual)
    (h : ((manager true).createOrUpdate c .absent s).result = .error (.alreadyExists type id)) :
    ∃ data, ((manager true).importExisting id s).result = .ok (.present id data) ∧
      ((manager true).importExisting id s).service = s ∧ c.NamedBy data ∧
      (∃ text, id = .str text ∧ Unicode.SameUpToCase text (c.linkId s.subscription).print) ∧
      ∃ id' data', ((manager true).apply c (.present id data) s).result =
          .ok (.present id' data') ∧ c.ShownBy data' ∧
        Converged s none c ((manager true).apply c (.present id data) s).service := by
  have addressable := Config.addressable_of_decode hc
  obtain ⟨i, hi, rfl⟩ := found_of_conflict addressable h
  have imported := import_found (b := true) addressable hk hp hs hi
  have key : (s.idOf i).key = c.item.key := hk.key_of_find? hi
  have same := sameUpToCase_linkId hk hi
  have tracked : s.Tracks (.str (s.idOf i).print)
      (Remote.data (s.idOf i) (.str i.name) i.resourceId i.flatTags) (s.idOf i) i i.flatTags :=
    { readable := same.readable (addressable.readable _ hs) hs
      found := key ▸ hi
      flat := (hp.of_find? hi).flatten_tags
      id_eq := rfl
      data_eq := rfl }
  rw [imported]
  exact ⟨_, rfl, rfl, Config.namedBy_data addressable key, ⟨_, rfl, same.print⟩,
    apply_own_key addressable ht hk hs tracked key⟩

end Store

namespace Sample

open Store

/-- The wanted linked service under a name in upper case. -/
def recased : Item := { item "ws02" with name := "AUTOMATION" }

def recasedStore : Store := ofItems "sub" [item "ws01", recased]

theorem find?_recased : recasedStore.items.find? config.item.key = some recased := by
  have key : recased.key = config.item.key := by decide +kernel
  rw [← key]
  exact find?_put _ recased

theorem plain_recased : recasedStore.Plain :=
  plain_ofItems (by simp [Item.Plain, recased, item])

end Sample

namespace Store

/-- A conflict with a linked service whose name is written in another case. -/
theorem import_recovers_recased : ∃ type id data,
    ((manager true).createOrUpdate Sample.config .absent Sample.recasedStore).result =
        .error (.alreadyExists type id) ∧
      ((manager true).importExisting id Sample.recasedStore).result = .ok (.present id data) ∧
      Sample.config.NamedBy data ∧
      ∃ id' data',
        ((manager true).apply Sample.config (.present id data) Sample.recasedStore).result =
          .ok (.present id' data') ∧ Sample.config.ShownBy data' ∧
        Converged Sample.recasedStore none Sample.config
          ((manager true).apply Sample.config (.present id data) Sample.recasedStore).service := by
  have addressable := Config.addressable_of_decode Sample.decode_raw
  have conflict : ((manager true).createOrUpdate Sample.config .absent Sample.recasedStore).result =
      .error (.alreadyExists (.str resourceTypeName)
        (.str (Sample.recasedStore.idOf Sample.recased).print)) := by
    rw [createOrUpdate_of_found addressable Sample.find?_recased]
  obtain ⟨data, imported, -, named, -, recovered⟩ :=
    import_recovers (keyed_ofItems _ _) Sample.plain_recased (by decide) Sample.decode_raw
      ⟨by decide, by simp [Sample.config]⟩ conflict
  exact ⟨_, _, data, conflict, imported, named, recovered⟩

end Store

end WorkspaceLink
