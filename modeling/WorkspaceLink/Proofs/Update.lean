import WorkspaceLink.Proofs.Addressing
import WorkspaceLink.Proofs.Discipline
import WorkspaceLink.Proofs.Expansion
import WorkspaceLink.Proofs.Recovery

/-!
# Updating a linked service

An update reads what is there, puts what is given over it and applies that. So it changes nothing
but what is given, and a second time it has nothing to do: what was written reads back as it was
wanted, and the tags that were made texts are texts already.
-/

namespace WorkspaceLink

/-! ## What is given and what is kept -/

/-- A given value, or else the one that is kept. -/
def Value.orElse (given kept : Value) : Value := if given.isNull then kept else given

theorem Value.null_orElse (kept : Value) : null.orElse kept = kept := rfl

theorem Value.orElse_of_given {given : Value} (h : given.isNull = false) (kept : Value) :
    given.orElse kept = given := by
  simp [orElse, h]

theorem Value.isNull_orElse_map (given : Value) (kept : Fields) :
    (given.orElse (.map kept)).isNull = false := by
  unfold orElse
  split
  · rfl
  · rename_i some
    simpa using some

theorem Value.orElse_orElse (given kept : Value) :
    given.orElse (given.orElse kept) = given.orElse kept := by
  unfold orElse
  split <;> rfl

theorem Tags.expand_orElse [Host] {given kept : Value} {fs : Fields} (h : flatten kept = .ok fs) :
    expand (given.orElse kept) = expand (given.orElse (.map fs)) := by
  unfold Value.orElse
  split
  · exact (expand_flatten h).symm
  · rfl

namespace Store

/-- A store is what an update makes of another: the item of a key has the resource and the tags that
are given, or else those it had, and all other items are as before. -/
structure Amended [Host] (before : Store) (k : Key) (i : Item) (resourceId tags : Value)
    (after : Store) :
    Prop where
  found : before.items.find? k = some i
  subscription : after.subscription = before.subscription
  item : ∃ j ts fs, after.items.find? k = some j ∧
    j.resourceId = resourceId.orElse i.resourceId ∧
    Tags.expand (tags.orElse i.tags) = .ok ts ∧ Tags.flatten j.tags = .ok fs ∧
    (Value.map fs).same ts.toValue = true
  others : ∀ l, l ≠ k → after.items.find? l = before.items.find? l

end Store

/-! ## What is wanted -/

namespace Workbench

variable {link : LinkId} {resourceId tags : Value} {c : Config}

/-- What is wanted of a linked service: its names, a resource and tags. -/
def wanted (link : LinkId) (resourceId tags : Value) : Field → Value
  | .group => .str link.group
  | .workspace => .str link.workspace
  | .name => .str link.name
  | .properties => .map (propertiesOf resourceId)
  | .reportedName => .null
  | .tags => tags

theorem configurable_data (link : LinkId) (name resourceId : Value) (flat : Fields) :
    configurable (Remote.data link name resourceId flat) =
      Field.table (wanted link resourceId (.map flat)) := rfl

/-- What is given for the tags and the resource is wanted, and what is there for what is not. -/
theorem onto_table (resourceId tags kept keptTags : Value) :
    (⟨.null, .null, .null, tags, resourceId⟩ : Overrides).onto
        (Field.table (wanted link kept keptTags)) =
      Field.table (wanted link (resourceId.orElse kept) (tags.orElse keptTags)) := by
  have tagged : (Field.table (wanted link kept keptTags)).insertAll
      (Overrides.fields ⟨.null, .null, .null, tags, resourceId⟩) =
        Field.table (wanted link kept (tags.orElse keptTags)) := by
    cases h : tags.isNull with
    | true =>
        obtain rfl := Value.isNull_iff.mp h
        rfl
    | false =>
        have none : Value.null.isNull = true := rfl
        have given : Overrides.fields ⟨.null, .null, .null, tags, resourceId⟩ =
            [(.str Field.tags.key, tags)] := by
          simp [Overrides.fields, none, h]
        rw [given, Value.orElse_of_given h]
        rfl
  rw [Overrides.onto, tagged]
  cases h : resourceId.isNull with
  | true =>
      obtain rfl := Value.isNull_iff.mp h
      rfl
  | false =>
      have properties : .map (propertiesOf resourceId) =
          Value.record [(resourceIdKey, resourceId)] := by
        simp [propertiesOf, h, Value.record]
      rw [Value.orElse_of_given h, if_neg Bool.false_ne_true]
      dsimp only
      rw [← properties]
      rfl

theorem decode_wanted [Host]
    (h : Config.decodeFields (Field.table (wanted link resourceId tags)) = .ok c)
    (given : tags.isNull = false) :
    (c.group = .str link.group ∧ c.workspace = .str link.workspace ∧ c.name = .str link.name) ∧
      c.resourceId = resourceId ∧ Tags.expand tags = .ok c.tags := by
  obtain ⟨-, ts, expanded, rfl⟩ := Config.defects_of_decodeFields h
  have wantedTags : Config.valueOf (Field.table (wanted link resourceId tags)) .tags = tags := by
    rw [Config.valueOf_table (by decide), wanted, given]
    rfl
  rw [wantedTags] at expanded
  refine ⟨⟨rfl, rfl, rfl⟩, ?_, expanded⟩
  rw [Config.linkedResource, Field.field?_table _ (by decide)]
  simp only [Option.getD_some, wanted, Value.unrolled_map]
  unfold propertiesOf
  split
  · rename_i hr
    rw [Value.isNull_iff.mp hr]
    rfl
  · simp [Fields.field?, Fields.get?]

theorem kept_wanted [Host] {r : Value}
    (h : Config.decodeFields (Field.table (wanted link resourceId tags)) = .ok c)
    (given : tags.isNull = false) (hr : r = c.resourceId) : Plan.Kept c link r := by
  obtain ⟨⟨hg, hw, hn⟩, -, -⟩ := decode_wanted h given
  exact ⟨by rw [hg]; rfl, by rw [hw]; rfl, by rw [hn]; rfl, hr⟩

/-! ## Commands over a store -/

section OfStore

variable {b : Bool} {files : Files} {id : LinkId} {s : Store} {i : Store.Item} {flat : Fields}

/-- A workbench over a store, under the subscription of a profile. -/
def ofStore (b : Bool) (files : Files) (subscription : String) : Workbench Store :=
  ⟨Store.manager b, files, subscription⟩

/-- The snapshot of an item as it is read at an address. -/
def shown (s : Store) (id : LinkId) (i : Store.Item) (flat : Fields) : Snapshot :=
  .present (.str (s.idOf i).print) (Remote.data id (.str i.name) i.resourceId flat)

theorem read_found (readable : id.Readable) (hi : s.items.find? id.key = some i)
    (hf : Tags.flatten i.tags = .ok flat) :
    (ofStore b files id.subscription).read id.address s =
      ⟨.ok (shown s id i flat), s, [.get id.address], []⟩ := by
  have found : (Store.manager b).read (.str id.print) s =
      ⟨.ok (shown s id i flat), s, [.get id.address], []⟩ := by
    rw [Store.read_found (LinkId.parse_print readable) hi, Store.snapshotOf_remoteOf, hf]
    rfl
  rw [read, idAt_address rfl, Action.ofExcept_ok_bind]
  exact Action.bind_ok found

/-- Reading at names without a slash finds the item of their key, or it ends with a fault. -/
theorem found_or_fails (free : id.SlashFree) (b : Bool) (files : Files) (s : Store) :
    (id.Readable ∧ ∃ i, s.items.find? id.key = some i) ∨
      ∃ e calls logs, (ofStore b files id.subscription).read id.address s = ⟨.error e, s, calls, logs⟩ ∧
        ∀ call ∈ calls, call = .get id.address := by
  cases hp : LinkId.parse (.str id.print) with
  | error e =>
      refine .inr ⟨e, [], [], read_refused rfl hp s, fun call hc => ?_⟩
      cases hc
  | ok link =>
      have readable := (LinkId.parse_print_ok_iff free).mp ⟨link, hp⟩
      cases hi : s.items.find? id.key with
      | some i => exact .inl ⟨readable, i, rfl⟩
      | none =>
          obtain ⟨logs, absent⟩ := Manager.read_of_absence (m := Store.manager b)
            (LinkId.parse_print readable) (Store.get_missing hi) rfl
          refine .inr ⟨.notFound id.address, [.get id.address], logs, ?_, fun _ hc =>
            List.mem_singleton.mp hc⟩
          rw [read, idAt_address rfl, Action.ofExcept_ok_bind]
          exact (Action.bind_ok absent).trans (by simp [Snapshot.isPresent])

/-- The fields of the configuration that an update applies to an item. -/
def amended (id : LinkId) (i : Store.Item) (flat : Fields) (resourceId tags : Value) : Fields :=
  Field.table (wanted id (resourceId.orElse i.resourceId) (tags.orElse (.map flat)))

theorem update_found [Host] (readable : id.Readable) (hi : s.items.find? id.key = some i)
    (hf : Tags.flatten i.tags = .ok flat) :
    (ofStore b files id.subscription).update id.address resourceId tags s =
      let d := (Action.ofExcept (Config.decodeFields (amended id i flat resourceId tags)) >>=
        fun c => (Store.manager b).apply c (shown s id i flat)) s
      ⟨d.result, d.service, .get id.address :: d.calls, d.logs⟩ := by
  rw [update, Action.bind_ok (read_found readable hi hf)]
  simp only [shown, Snapshot.data, configurable_data, onto_table, amended]
  rfl

theorem update_decoded [Host] (readable : id.Readable) (hi : s.items.find? id.key = some i)
    (hf : Tags.flatten i.tags = .ok flat)
    (decoded : Config.decodeFields (amended id i flat resourceId tags) = .ok c) :
    (ofStore b files id.subscription).update id.address resourceId tags s =
      let d := (Store.manager b).apply c (shown s id i flat) s
      ⟨d.result, d.service, .get id.address :: d.calls, d.logs⟩ := by
  rw [update_found readable hi hf, decoded]
  rfl

theorem update_undecoded [Host] {e : Fault} (readable : id.Readable)
    (hi : s.items.find? id.key = some i) (hf : Tags.flatten i.tags = .ok flat)
    (undecoded : Config.decodeFields (amended id i flat resourceId tags) = .error e) :
    (ofStore b files id.subscription).update id.address resourceId tags s =
      ⟨.error e, s, [.get id.address], []⟩ := by
  rw [update_found readable hi hf, undecoded]
  rfl

/-- Nothing is done where nothing differs from what is wanted. -/
theorem update_unchanged [Host] (readable : id.Readable) (hi : s.items.find? id.key = some i)
    (hf : Tags.flatten i.tags = .ok flat)
    (decoded : Config.decodeFields (amended id i flat resourceId tags) = .ok c)
    (unchanged : (Plan.between (shown s id i flat).data c).hasChanges = false) :
    (ofStore b files id.subscription).update id.address resourceId tags s =
      ⟨.ok (shown s id i flat), s, [.get id.address], []⟩ := by
  have skipped : (Store.manager b).apply c (shown s id i flat) = pure (shown s id i flat) :=
    Manager.apply_of_unchanged unchanged
  rw [update_decoded readable hi hf decoded, skipped]
  rfl

/-! ## The configuration of an update -/

theorem decode_amended [Host]
    (decoded : Config.decodeFields (amended id i flat resourceId tags) = .ok c) :
    (c.group = .str id.group ∧ c.workspace = .str id.workspace ∧ c.name = .str id.name) ∧
      c.resourceId = resourceId.orElse i.resourceId ∧
      Tags.expand (tags.orElse (.map flat)) = .ok c.tags := by
  exact decode_wanted decoded (Value.isNull_orElse_map tags flat)

theorem key_amended [Host]
    (decoded : Config.decodeFields (amended id i flat resourceId tags) = .ok c) :
    id.key = c.item.key := by
  obtain ⟨⟨hg, hw, hn⟩, -, -⟩ := decode_amended decoded
  simp [LinkId.key, Store.Item.key, Config.item, hg, hw, hn]

theorem kept_amended [Host] {r : Value}
    (decoded : Config.decodeFields (amended id i flat resourceId tags) = .ok c)
    (hr : r = c.resourceId) : Plan.Kept c id r := by
  exact kept_wanted decoded (Value.isNull_orElse_map tags flat) hr

theorem textual_amended [Host] (ht : tags.IsTags) (hflat : Fields.Textual flat)
    (decoded : Config.decodeFields (amended id i flat resourceId tags) = .ok c) :
    (∃ fs, (tags.orElse (.map flat)).unrolled = .map fs) ∧ c.tags.Textual := by
  obtain ⟨-, -, expanded⟩ := decode_amended decoded
  obtain ⟨fs, hfs, textual⟩ : ∃ fs, (tags.orElse (.map flat)).unrolled = .map fs ∧
      Fields.Textual fs := by
    rcases ht with rfl | ⟨fs, hfs, textual⟩
    · exact ⟨flat, rfl, hflat⟩
    · refine ⟨fs, ?_, textual⟩
      rwa [Value.orElse_of_given (Value.isNull_of_unrolled hfs)]
  exact ⟨⟨fs, hfs⟩, Tags.textual_expand hfs textual expanded⟩

/-- An item is replaced only for another resource than the one it has. -/
theorem differs_of_delete [Host] {a : Address}
    (decoded : Config.decodeFields (amended id i flat resourceId tags) = .ok c)
    (h : Call.delete a ∈ ((Store.manager b).apply c (shown s id i flat) s).calls) :
    resourceId.isNull = false ∧ i.resourceId.same resourceId = false := by
  have addressable := Config.addressable_of_decodeFields decoded
  have replaced : (Plan.between (shown s id i flat).data c).requiresReplacement = true :=
    Manager.requiresReplacement_of_delete h
  obtain ⟨-, resource, -⟩ := decode_amended decoded
  have differs : i.resourceId ≠ c.resourceId := by
    intro he
    have kept : (Plan.between (shown s id i flat).data c).requiresReplacement = false :=
      Plan.not_requiresReplacement_of_kept addressable (kept_amended decoded he)
    rw [kept] at replaced
    cases replaced
  cases hr : resourceId.isNull with
  | true =>
      rw [Value.isNull_iff.mp hr, Value.null_orElse] at resource
      exact absurd resource.symm differs
  | false =>
      refine ⟨rfl, ?_⟩
      rw [Value.orElse_of_given hr] at resource
      rw [← resource, addressable.resource, Bool.eq_false_iff, ne_eq, Value.same_str_iff,
        ← addressable.resource]
      exact differs

/-- The same update of an item that was written finds the configuration it was written from. -/
theorem decode_written [Host] {fs : Fields} (hfs : (tags.orElse (.map flat)).unrolled = .map fs)
    (decoded : Config.decodeFields (amended id i flat resourceId tags) = .ok c) :
    Config.decodeFields (amended id c.item c.tags.toFields resourceId tags) = .ok c := by
  obtain ⟨-, resource, -⟩ := decode_amended decoded
  have same : resourceId.orElse c.item.resourceId = resourceId.orElse i.resourceId := by
    rw [Config.item, resource, Value.orElse_orElse]
  rw [amended, same]
  cases ht : tags.isNull with
  | true =>
      obtain rfl := Value.isNull_iff.mp ht
      refine Config.decodeFields_expanded decoded hfs (fun f hf => ?_) rfl
      cases f with
      | tags => exact absurd rfl hf
      | _ => rfl
  | false =>
      rw [amended, Value.orElse_of_given ht] at decoded
      rwa [Value.orElse_of_given ht]

/-! ## What an update makes of a store -/

theorem amended_unchanged [Host] (hi : s.items.find? id.key = some i)
    (hf : Tags.flatten i.tags = .ok flat)
    (decoded : Config.decodeFields (amended id i flat resourceId tags) = .ok c)
    (unchanged : (Plan.between (shown s id i flat).data c).hasChanges = false) :
    s.Amended id.key i resourceId tags s := by
  obtain ⟨-, resource, expanded⟩ := decode_amended decoded
  rw [← Tags.expand_orElse hf] at expanded
  have kept := Plan.kept_of_not_requiresReplacement (Config.addressable_of_decodeFields decoded)
    (Plan.not_requiresReplacement_of_not_hasChanges unchanged)
  exact ⟨hi, rfl, ⟨i, c.tags, flat, hi, kept.resource.trans resource, expanded, hf,
    Plan.same_tags_of_not_hasChanges unchanged⟩, fun _ _ => rfl⟩

theorem find?_written [Host]
    (decoded : Config.decodeFields (amended id i flat resourceId tags) = .ok c)
    (s : Store) : (s.put c.item).items.find? id.key = some c.item := by
  rw [key_amended decoded]
  exact Store.find?_put s c.item

theorem amended_written [Host] {u : Store} (hi : s.items.find? id.key = some i)
    (hf : Tags.flatten i.tags = .ok flat) (textual : c.tags.Textual)
    (decoded : Config.decodeFields (amended id i flat resourceId tags) = .ok c)
    (subscription : u.subscription = s.subscription)
    (others : ∀ k, k ≠ c.item.key → u.items.find? k = s.items.find? k) :
    s.Amended id.key i resourceId tags (u.put c.item) := by
  have key := key_amended decoded
  obtain ⟨-, resource, expanded⟩ := decode_amended decoded
  rw [← Tags.expand_orElse hf] at expanded
  refine ⟨hi, subscription, ⟨c.item, c.tags, c.tags.toFields, find?_written decoded u, resource,
    expanded, Tags.flatten_map _, textual.same⟩, fun l hne => ?_⟩
  rw [Store.put, Store.Items.find?_insert, if_neg (key ▸ Ne.symm hne)]
  exact others l (key ▸ hne)

/-- What an update has written it finds to be as it is wanted. -/
theorem update_written [Host] {fs : Fields} (readable : id.Readable)
    (hfs : (tags.orElse (.map flat)).unrolled = .map fs) (textual : c.tags.Textual)
    (decoded : Config.decodeFields (amended id i flat resourceId tags) = .ok c) (u : Store) :
    (ofStore b files id.subscription).update id.address resourceId tags (u.put c.item) =
      ⟨.ok (shown (u.put c.item) id c.item c.tags.toFields), u.put c.item, [.get id.address],
        []⟩ := by
  have addressable := Config.addressable_of_decodeFields decoded
  have unchanged : (Plan.between
      (shown (u.put c.item) id c.item c.tags.toFields).data c).hasChanges = false :=
    Plan.not_hasChanges_of_kept addressable (kept_amended decoded rfl) textual.same
  exact update_unchanged readable (find?_written decoded u) (Tags.flatten_map _)
    (decode_written hfs decoded) unchanged

/-- Where the configuration of what is wanted is decoded, the item is amended; it is deleted on the
way only for another resource, and the same update has nothing more to do. -/
theorem update_of_decoded [Host] (b : Bool) (files : Files) (readable : id.Readable) (hk : s.Keyed)
    (hs : '/' ∉ s.subscription.toList) (hi : s.items.find? id.key = some i)
    (hf : Tags.flatten i.tags = .ok flat) (hflat : Fields.Textual flat) (ht : tags.IsTags)
    (decoded : Config.decodeFields (amended id i flat resourceId tags) = .ok c) :
    let update := (ofStore b files id.subscription).update id.address resourceId tags
    (∃ t, (update s).result = .ok t) ∧ s.Amended id.key i resourceId tags (update s).service ∧
      (∀ a, Call.delete a ∈ (update s).calls →
        resourceId.isNull = false ∧ i.resourceId.same resourceId = false) ∧
      ∃ t, update (update s).service = ⟨.ok t, (update s).service, [.get id.address], []⟩ := by
  intro update
  obtain ⟨⟨fs, hfs⟩, textual⟩ := textual_amended ht hflat decoded
  have updated : update s = _ := update_decoded readable hi hf decoded
  have deletes : ∀ a, Call.delete a ∈ (update s).calls →
      resourceId.isNull = false ∧ i.resourceId.same resourceId = false := by
    intro a hd
    rw [updated] at hd
    rcases List.mem_cons.mp hd with hget | hd
    · cases hget
    · exact differs_of_delete decoded hd
  have tracked : s.Tracks (.str (s.idOf i).print)
      (Remote.data id (.str i.name) i.resourceId flat) id i flat := ⟨readable, hi, hf, rfl, rfl⟩
  rcases Store.apply_own_key_course (b := b) (Config.addressable_of_decodeFields decoded) hk hs
    tracked (key_amended decoded) with
    ⟨unchanged, -⟩ | ⟨u, calls, logs, -, subscription, others, course⟩
  · have idle : update s = _ := update_unchanged readable hi hf decoded unchanged
    have service : (update s).service = s := by rw [idle]
    refine ⟨⟨_, by rw [idle]⟩, ?_, deletes, ?_⟩ <;> rw [service]
    · exact amended_unchanged hi hf decoded unchanged
    · exact ⟨_, idle⟩
  · have written : update s = ⟨.ok (c.snapshot s.subscription), u.put c.item,
        .get id.address :: calls, logs⟩ := by
      rw [updated, shown, course]
    have service : (update s).service = u.put c.item := by rw [written]
    refine ⟨⟨_, by rw [written]⟩, ?_, deletes, ?_⟩ <;> rw [service]
    · exact amended_written hi hf textual decoded subscription others
    · exact ⟨_, update_written readable hfs textual decoded u⟩

/-- An update that succeeds amends the item at an address, whatever the policy, and leaves all others
alone: the resource and the tags that are given, empty ones too, take the place of the old ones. The
item is deleted on the way only if another resource than its own is given, and the same update has
nothing more to do than to read. An update that fails has done nothing but read. -/
theorem update_amends [Host] (hk : s.Keyed) (hs : '/' ∉ s.subscription.toList) (free : id.SlashFree)
    (stored : ∀ i, s.items.find? id.key = some i → i.tags.IsTags) (ht : tags.IsTags)
    (resourceId : Value) (b : Bool) (files : Files) :
    let update := (ofStore b files id.subscription).update id.address resourceId tags
    (∀ t, (update s).result = .ok t → ∃ i, s.Amended id.key i resourceId tags (update s).service ∧
      (∀ a, Call.delete a ∈ (update s).calls →
        resourceId.isNull = false ∧ i.resourceId.same resourceId = false) ∧
      ∃ t', update (update s).service = ⟨.ok t', (update s).service, [.get id.address], []⟩) ∧
    ∀ e, (update s).result = .error e →
      (update s).service = s ∧ ∀ call ∈ (update s).calls, call = .get id.address := by
  intro update
  rcases found_or_fails free b files s with ⟨readable, i, hi⟩ | ⟨e, calls, logs, failed, gets⟩
  · obtain ⟨flat, hf, hflat⟩ := Tags.flatten_of_isTags (stored i hi)
    cases decoded : Config.decodeFields (amended id i flat resourceId tags) with
    | ok c =>
        obtain ⟨⟨t, succeeded⟩, amends, deletes, again⟩ :=
          update_of_decoded b files readable hk hs hi hf hflat ht decoded
        refine ⟨fun _ _ => ⟨i, amends, deletes, again⟩, fun e he => ?_⟩
        rw [succeeded] at he
        cases he
    | error e =>
        have refused : update s = _ := update_undecoded readable hi hf decoded
        rw [refused]
        exact ⟨fun t h => (by cases h), fun _ _ => ⟨rfl, fun _ hc => List.mem_singleton.mp hc⟩⟩
  · have refused : update s = ⟨.error e, s, calls, logs⟩ := Action.bind_error failed
    rw [refused]
    exact ⟨fun t h => (by cases h), fun _ _ => ⟨rfl, gets⟩⟩

end OfStore

end Workbench

namespace Sample

/-- Tags for the linked service that has none. -/
def labels : Value := .record [("env", .str "prod")]

theorem isTags_labels : labels.IsTags := by
  refine .inr ⟨[(.str "env", .str "prod")], rfl, ⟨by decide, fun k hk => ?_⟩⟩
  exact ⟨_, List.mem_singleton.mp hk⟩

theorem decode_labels : Config.decodeFields
    (Workbench.amended (link "ws01") (item "ws01") [] .null labels) =
      .ok { config with workspace := .str "ws01" } := rfl

/-- The update that sets them. -/
def labelling : Action Store Snapshot :=
  (Workbench.ofStore true [] (link "ws01").subscription).update (link "ws01").address .null labels

end Sample

namespace Workbench

/-- Tags for a linked service whose resource stays. -/
theorem update_amends_labels :
    (∃ t, (Sample.labelling Sample.store).result = .ok t) ∧
      ∃ i, Sample.store.Amended (Sample.link "ws01").key i .null Sample.labels
          (Sample.labelling Sample.store).service ∧
        (∀ a, Call.delete a ∉ (Sample.labelling Sample.store).calls) ∧
        ∃ t', Sample.labelling (Sample.labelling Sample.store).service =
          ⟨.ok t', (Sample.labelling Sample.store).service,
            [.get (Sample.link "ws01").address], []⟩ := by
  have keyed : Sample.store.Keyed := Store.keyed_ofItems _ _
  have free : (Sample.link "ws01").SlashFree := ⟨by decide, by decide, by decide, by decide⟩
  have readable : (Sample.link "ws01").Readable := ⟨free, by decide, by decide, by decide⟩
  have found := Sample.find?_store "ws01" (.inl rfl)
  have stored : ∀ i, Sample.store.items.find? (Sample.link "ws01").key = some i →
      i.tags.IsTags := by
    intro i hi
    rw [found] at hi
    obtain rfl := Option.some.inj hi
    exact .inr ⟨[], rfl, Fields.textual_nil⟩
  have subscription : '/' ∉ Sample.store.subscription.toList := by decide
  obtain ⟨⟨t, succeeded⟩, -⟩ := update_of_decoded true [] readable keyed subscription found rfl
    Fields.textual_nil Sample.isTags_labels Sample.decode_labels
  obtain ⟨amends, -⟩ :=
    update_amends keyed subscription free stored Sample.isTags_labels .null true []
  obtain ⟨i, amended, deletes, again⟩ := amends t succeeded
  exact ⟨⟨t, succeeded⟩, i, amended, fun a hd => (by cases (deletes a hd).1), again⟩

end Workbench

end WorkspaceLink
