import WorkspaceLink.Proofs.Stability
import WorkspaceLink.Proofs.Update

/-!
# Applying what was read

The data of a snapshot that was read, taken as a configuration, differ from themselves in one thing
only: a tag without a value is taken for one with the empty text. So an update that is given nothing
writes exactly if it reads such a tag.
-/

namespace WorkspaceLink

/-! ## Tags of remote objects -/

/-- Tags as the service may hold them: each has a text or nothing. -/
structure Fields.Labels (fs : Fields) : Prop where
  textual : fs.Textual
  values : ∀ f ∈ fs, f.2 = .null ∨ ∃ s, f.2 = .str s

theorem Fields.labels_nil : Fields.Labels [] := ⟨textual_nil, fun f hf => by cases hf⟩

theorem Fields.Textual.proper {fs : Fields} (h : fs.Textual) : fs.Proper :=
  proper_of_texts h.distinct h.texts

/-- The tags of a remote object, if they can be read, are nothing or labels. -/
def Remote.Labelled (r : Remote) : Prop :=
  ∀ v, r.tags = some v → v = .null ∨ ∃ fs, v.unrolled = .map fs ∧ Fields.Labels fs

/-- Every object that a service answers with is labelled. -/
structure Client.Labelled {σ : Type} (client : Client σ) : Prop where
  get : ∀ a s r, (client.get a s).1 = .ok (some r) → r.Labelled
  list : ∀ group workspace s rs, (client.list group workspace s).1 = .ok rs →
    ∀ r, some r ∈ rs → r.Labelled

/-- The texts of labels are the same as the labels if there is one for each. -/
theorem Fields.Labels.same_texts_iff {fs : Fields} (h : fs.Labels) :
    (Value.map fs).same (Tags.toValue (fs.map fun f => (f.1, Tags.textOf f.2))) = true ↔
      ∀ f ∈ fs, f.2 ≠ .null := by
  have texts : Tags.toValue (fs.map fun f => (f.1, Tags.textOf f.2)) =
      .map (fs.mapValues fun v => .str (Tags.textOf v)) := by
    rw [Tags.toValue, Tags.toFields, List.map_map]
    rfl
  rw [texts, Value.same_mapValues_iff h.textual.proper]
  refine forall₂_congr fun f hf => ?_
  rw [Value.same_str_iff]
  rcases h.values f hf with null | ⟨s, text⟩
  · rw [null]
    exact iff_of_false (by simp) (by simp)
  · rw [text]
    exact iff_of_true rfl (by simp)

/-! ## Snapshots that are shown -/

/-- The data of a snapshot are those of a labelled object. -/
def Snapshot.Labelled : Snapshot → Prop
  | .absent => True
  | .present _ data => ∃ link name resourceId tags,
      data = Remote.data link name resourceId tags ∧ Fields.Labels tags

theorem Snapshot.labelled_of_toSnapshot {r : Remote} {link : LinkId} {t : Snapshot}
    (labelled : r.Labelled) (h : r.toSnapshot link = .ok t) : t.Labelled := by
  unfold Remote.toSnapshot at h
  split at h
  · rename_i name v hname hv
    obtain ⟨tags, flat, h⟩ := bind_eq_ok.mp h
    obtain rfl := Except.ok.inj h
    refine ⟨link, name, r.resourceId, tags, rfl, ?_⟩
    rcases labelled v hv with rfl | ⟨fs, hfs, labels⟩
    · obtain rfl := Except.ok.inj flat
      exact Fields.labels_nil
    · rw [Tags.flatten_of_unrolled hfs] at flat
      obtain rfl := Except.ok.inj flat
      exact labels
  · cases h

namespace Manager

variable {σ : Type} {m : Manager σ} {s : σ} {t : Snapshot} {id : Value} {data : Fields}

/-- A snapshot was read, or is in a list. -/
inductive Shows (m : Manager σ) : Snapshot → Prop
  | read {id : Value} {s : σ} {t : Snapshot} : (m.read id s).result = .ok t → Shows m t
  | listed {group workspace : Value} {s : σ} {ts : List Snapshot} {t : Snapshot} :
      (m.list group workspace s).result = .ok ts → t ∈ ts → Shows m t

theorem labelled_read (labelled : m.client.Labelled) (h : (m.read id s).result = .ok t) :
    t.Labelled := by
  cases t with
  | absent => trivial
  | present id' data =>
      obtain ⟨link, r, -, answer, -, made⟩ := read_eq_present_iff.mp h
      exact Snapshot.labelled_of_toSnapshot (labelled.get _ _ r answer) made

theorem labelled_listed {r : Remote} (labelled : r.Labelled) (h : listed (some r) = .ok (some t)) :
    t.Labelled := by
  simp only [listed] at h
  split at h
  · obtain ⟨link, -, h⟩ := bind_eq_ok.mp h
    obtain ⟨u, made, h⟩ := bind_eq_ok.mp h
    obtain rfl := Option.some.inj (Except.ok.inj h)
    exact Snapshot.labelled_of_toSnapshot labelled (mapError_eq_ok.mp made)
  · cases Except.ok.inj h

theorem labelled_of_shows (labelled : m.client.Labelled) (h : m.Shows t) : t.Labelled := by
  cases h with
  | read h => exact labelled_read labelled h
  | @listed group workspace s ts t h ht =>
      rw [list, Client.listing, Action.bind_ok (Action.call_apply _ _ s)] at h
      cases answered : (m.client.list group workspace s).1 with
      | error f =>
          rw [answered] at h
          cases h
      | ok rs =>
          rw [answered] at h
          dsimp only at h
          rw [Action.ofExcept_apply] at h
          cases made : rs.mapM Manager.listed with
          | error e =>
              rw [made] at h
              cases h
          | ok ss =>
              rw [made] at h
              obtain rfl := Except.ok.inj h
              have shown : some t ∈ ss := by simpa using ht
              obtain ⟨r, hr, made⟩ := exists_left_of_mem (mapM_eq_ok_iff.mp made) shown
              cases r with
              | none => cases Except.ok.inj made
              | some r => exact labelled_listed (labelled.list _ _ _ rs answered r hr) made

end Manager

/-! ## Plans for what was read -/

/-- Every tag in the data of a snapshot has a value. -/
def Snapshot.Valued (t : Snapshot) : Prop :=
  ∀ tags, t.data.field? Field.tags.key = some (.map tags) → ∀ f ∈ tags, f.2 ≠ .null

section Plans

variable {link : LinkId} {id name resourceId : Value} {tags : Fields} {c : Config} {t : Snapshot}

theorem Snapshot.valued_iff :
    (present id (Remote.data link name resourceId tags)).Valued ↔ ∀ f ∈ tags, f.2 ≠ .null := by
  unfold Valued
  rw [data, Remote.field?_data]
  constructor
  · intro h
    exact h tags rfl
  · intro h ts hts
    obtain rfl := Value.map.inj (Option.some.inj hts)
    exact h

/-- The configuration in data that were read keeps the linked service, and has texts for its tags. -/
theorem Workbench.kept_of_configurable [Host]
    (h : Config.decodeFields (configurable (Remote.data link name resourceId tags)) = .ok c) :
    Plan.Kept c link resourceId ∧ c.tags = tags.map fun f => (f.1, Tags.textOf f.2) := by
  rw [configurable_data] at h
  obtain ⟨-, resource, expanded⟩ := decode_wanted h rfl
  exact ⟨kept_wanted h rfl resource.symm, ((Tags.expand_eq_ok_iff rfl).mp expanded).2⟩

namespace Snapshot.Labelled

theorem not_requiresReplacement [Host] (h : t.Labelled) (present : t.isPresent = true)
    (decoded : Config.decodeFields (Workbench.configurable t.data) = .ok c) :
    (Plan.between t.data c).requiresReplacement = false := by
  cases t with
  | absent => cases present
  | present id data =>
      obtain ⟨link, name, resourceId, tags, rfl, -⟩ := h
      exact Plan.not_requiresReplacement_of_kept (Config.addressable_of_decodeFields decoded)
        (Workbench.kept_of_configurable decoded).1

theorem not_hasChanges_iff [Host] (h : t.Labelled) (present : t.isPresent = true)
    (decoded : Config.decodeFields (Workbench.configurable t.data) = .ok c) :
    (Plan.between t.data c).hasChanges = false ↔ t.Valued := by
  cases t with
  | absent => cases present
  | present id data =>
      obtain ⟨link, name, resourceId, tags, rfl, labels⟩ := h
      obtain ⟨kept, texts⟩ := Workbench.kept_of_configurable decoded
      rw [valued_iff, ← labels.same_texts_iff, ← texts]
      constructor
      · exact Plan.same_tags_of_not_hasChanges
      · exact Plan.not_hasChanges_of_kept (Config.addressable_of_decodeFields decoded) kept

end Snapshot.Labelled

end Plans

/-! ## Updates that are given nothing -/

namespace Action

variable {σ α β : Type}

/-- An action writes nothing. -/
def Writeless (x : Action σ α) : Prop := ∀ s a p, Call.write a p ∉ (x s).calls

theorem writeless_fail (e : Fault) : (fail e : Action σ α).Writeless := fun _ _ _ h => by cases h

theorem writeless_pure (a : α) : (pure a : Action σ α).Writeless := fun _ _ _ h => by cases h

theorem Writeless.bind {x : Action σ α} {f : α → Action σ β} (hx : x.Writeless)
    (hf : ∀ a, (f a).Writeless) : (x >>= f).Writeless := by
  intro s a p h
  rcases mem_calls_bind.mp h with h | ⟨b, -, h⟩
  · exact hx s a p h
  · exact hf b _ a p h

theorem writeless_ofExcept (x : Except Fault α) : (ofExcept x : Action σ α).Writeless := by
  intro s a p h
  rw [ofExcept_apply] at h
  cases h

end Action

namespace Manager

variable {σ : Type} {m : Manager σ} {c : Config} {t : Snapshot}

theorem writeless_read (id : Value) : (m.read id).Writeless := by
  intro s a p h
  cases hp : LinkId.parse id with
  | error e =>
      rw [read_of_parse_error hp] at h
      cases h
  | ok link =>
      rw [calls_read hp] at h
      cases List.mem_singleton.mp h

end Manager

namespace Workbench

variable {σ : Type} {w : Workbench σ} {a : Address} {t : Snapshot} {s : σ}

theorem writeless_read (a : Address) : (w.read a).Writeless := by
  refine (Action.writeless_ofExcept _).bind fun id => ?_
  refine (Manager.writeless_read _).bind fun t => ?_
  split
  · exact Action.writeless_pure _
  · exact Action.writeless_fail _

theorem shows_of_read (h : (w.read a s).result = .ok t) :
    w.manager.Shows t ∧ t.isPresent = true := by
  cases hid : w.idAt a with
  | error e =>
      rw [read, hid] at h
      cases h
  | ok id =>
      rw [read, hid, Action.ofExcept_ok_bind, Action.bind_apply, Action.resume] at h
      split at h
      · cases h
      · rename_i u hu
        dsimp only at h
        split at h
        · rename_i present
          obtain rfl := Except.ok.inj h
          exact ⟨.read hu, present⟩
        · cases h

theorem read_of_manager_read {id : LinkId} (h : id.subscription = w.subscription)
    (hread : (w.manager.read (.str id.print) s).result = .ok t) (present : t.isPresent = true) :
    (w.read id.address s).result = .ok t := by
  rw [read, idAt_address h, Action.ofExcept_ok_bind, Action.bind_apply, Action.resume, hread]
  simp [present]

/-- The calls of an update that is given nothing: it reads, and applies what it read. -/
theorem mem_calls_update [Host] {call : Call} : call ∈ (w.update a .null .null s).calls ↔
    call ∈ (w.read a s).calls ∨ ∃ t c, (w.read a s).result = .ok t ∧
      Config.decodeFields (configurable t.data) = .ok c ∧
      call ∈ (w.manager.apply c t (w.read a s).service).calls := by
  have nothing (raw : Fields) : (⟨.null, .null, .null, .null, .null⟩ : Overrides).onto raw = raw :=
    rfl
  simp only [update, Action.mem_calls_bind, nothing, Action.ofExcept_apply, List.not_mem_nil,
    false_or, exists_and_left]

/-- An update that is given nothing writes exactly if it reads a tag without a value, in data that
can be decoded. -/
theorem update_writeless_iff [Host] (labelled : w.manager.client.Labelled) :
    (∀ b p, Call.write b p ∉ (w.update a .null .null s).calls) ↔
      ∀ t c, (w.read a s).result = .ok t →
        Config.decodeFields (configurable t.data) = .ok c → t.Valued := by
  constructor
  · intro unwritten t c hread decoded
    obtain ⟨shows, present⟩ := shows_of_read hread
    have shown := Manager.labelled_of_shows labelled shows
    rw [← shown.not_hasChanges_iff present decoded, Bool.eq_false_iff]
    intro changes
    cases t with
    | absent => cases present
    | present id data =>
        -- only tags can have changed, so nothing is replaced and nothing is checked for
        have route : w.manager.apply c (.present id data) =
            w.manager.createOrUpdate c (.present id data) :=
          Manager.apply_of_kept changes (shown.not_requiresReplacement present decoded)
        have written : Call.write c.address (.ofConfig c) ∈
            (w.manager.apply c (.present id data) (w.read a s).service).calls := by
          rw [route]
          refine Manager.write_mem_createOrUpdate ?_ _
          rw [present, Bool.not_true, Bool.and_false]
        exact unwritten _ _ (mem_calls_update.mpr (.inr ⟨_, c, hread, decoded, written⟩))
  · intro valued b p written
    rcases mem_calls_update.mp written with written | ⟨t, c, hread, decoded, written⟩
    · exact writeless_read a s b p written
    · obtain ⟨shows, present⟩ := shows_of_read hread
      have shown := Manager.labelled_of_shows labelled shows
      have same := (shown.not_hasChanges_iff present decoded).mpr (valued t c hread decoded)
      rw [Manager.apply_of_same present same] at written
      cases written

end Workbench

namespace Manager

/-- A snapshot that is shown, taken as a configuration, differs from it exactly if one of its tags has
no value. So an update that is given nothing writes nothing, unless it reads such a tag. -/
theorem reread_unchanged_iff [Host] {σ : Type} {m : Manager σ} (labelled : m.client.Labelled) :
    (∀ t c, m.Shows t → t.isPresent = true →
      Config.decode (.map (Workbench.configurable t.data)) = .ok c →
      ((Plan.between t.data c).hasChanges = false ↔ t.Valued)) ∧
    ∀ (w : Workbench σ) (a : Address) (s : σ), w.manager = m →
      ((∀ b p, Call.write b p ∉ (w.update a .null .null s).calls) ↔
        ∀ t c, (w.read a s).result = .ok t →
          Config.decode (.map (Workbench.configurable t.data)) = .ok c → t.Valued) := by
  simp only [Config.decode_eq_decodeFields (Value.unrolled_map _)]
  constructor
  · intro t c shows present decoded
    exact (labelled_of_shows labelled shows).not_hasChanges_iff present decoded
  · rintro w a s rfl
    exact Workbench.update_writeless_iff labelled

end Manager

namespace Sample

/-- A service that answers with one object, which has one tag. -/
def flagging (v : Value) : Manager Bool :=
  let r : Remote := { seen with tags := some (.record [("flag", v)]) }
  answering (.ok (some r)) (.ok (some r))

def flagShown (v : Value) : Snapshot :=
  .present seen.id (Remote.data (config.linkId "sub") (.str defaultName) (.str account)
    [(.str "flag", v)])

theorem labelled_flagging {v : Value} (h : v = .null ∨ ∃ s, v = .str s) :
    (flagging v).client.Labelled := by
  have labels : Fields.Labels [(.str "flag", v)] := by
    refine ⟨⟨by simp [Fields.keys], fun k hk => ⟨_, List.mem_singleton.mp hk⟩⟩, fun f hf => ?_⟩
    rw [List.mem_singleton.mp hf]
    exact h
  constructor
  · intro a asked r hr u hu
    have answer : r.tags = some (.record [("flag", v)]) := by
      cases asked <;> (obtain rfl := Option.some.inj (Except.ok.inj hr); rfl)
    rw [answer] at hu
    obtain rfl := Option.some.inj hu
    exact .inr ⟨_, rfl, labels⟩
  · intro group workspace s rs hrs r hr
    obtain rfl : [] = rs := Except.ok.inj hrs
    cases hr

/-- The configuration in what is read there; nothing becomes the empty text. -/
def flagConfig : Config := { config with tags := [(.str "flag", "")] }

theorem read_flagging (v : Value) :
    ((flagging v).read (.str (config.linkId "sub").print) false).result = .ok (flagShown v) := by
  have parsed := LinkId.parse_print readable_config
  have answer : (flagging v).client.get (config.linkId "sub").address false =
      (.ok (some { seen with tags := some (.record [("flag", v)]) }), true) := rfl
  rw [Manager.read_of_answer parsed answer, Manager.snapshotOf, if_pos truthy_seen]
  rfl

def bench (v : Value) : Workbench Bool := ⟨flagging v, [], "sub"⟩

theorem read_bench (v : Value) :
    ((bench v).read (config.linkId "sub").address false).result = .ok (flagShown v) :=
  Workbench.read_of_manager_read (w := bench v) rfl (read_flagging v) rfl

theorem valued_flagShown_iff {v : Value} : (flagShown v).Valued ↔ v ≠ .null := by
  rw [flagShown, Snapshot.valued_iff, List.forall_mem_singleton]

end Sample

namespace Manager

open Sample

theorem reread_unchanged_iff_empty :
    (flagging (.str "")).client.Labelled ∧
      Config.decode (.map (Workbench.configurable (flagShown (.str "")).data)) = .ok flagConfig ∧
      (Plan.between (flagShown (.str "")).data flagConfig).hasChanges = false ∧
      ∀ b p, Call.write b p ∉
        ((bench (.str "")).update (config.linkId "sub").address .null .null false).calls := by
  have labelled : (flagging (.str "")).client.Labelled := labelled_flagging (.inr ⟨_, rfl⟩)
  have decoded : Config.decode (.map (Workbench.configurable (flagShown (.str "")).data)) =
      .ok flagConfig := rfl
  have valued : (flagShown (.str "")).Valued := valued_flagShown_iff.mpr (by simp)
  obtain ⟨plans, updates⟩ := reread_unchanged_iff labelled
  refine ⟨labelled, decoded, (plans _ _ (.read (read_flagging _)) rfl decoded).mpr valued, ?_⟩
  refine (updates (bench (.str "")) _ _ rfl).mpr fun t c hread _ => ?_
  rw [read_bench] at hread
  obtain rfl := Except.ok.inj hread
  exact valued

/-- A tag without a value differs from itself, and is written with the empty text. -/
theorem null_tag_rewritten :
    (flagging .null).client.Labelled ∧ (flagging .null).Shows (flagShown .null) ∧
      Config.decode (.map (Workbench.configurable (flagShown .null).data)) = .ok flagConfig ∧
      (Plan.between (flagShown .null).data flagConfig).hasChanges = true ∧
      ∃ b p, Call.write b p ∈
        ((bench .null).update (config.linkId "sub").address .null .null false).calls := by
  have labelled : (flagging .null).client.Labelled := labelled_flagging (.inl rfl)
  have shown : (flagging .null).Shows (flagShown .null) := .read (read_flagging _)
  have decoded : Config.decodeFields (Workbench.configurable (flagShown .null).data) =
      .ok flagConfig := rfl
  have unvalued : ¬ (flagShown .null).Valued := by simp [valued_flagShown_iff]
  refine ⟨labelled, shown, rfl, ?_, ?_⟩
  · have changes := (labelled_of_shows labelled shown).not_hasChanges_iff rfl decoded
    rw [← Bool.not_eq_false, changes]
    exact unvalued
  · by_contra unwritten
    simp only [not_exists] at unwritten
    have valued := (Workbench.update_writeless_iff (w := bench .null) labelled).mp unwritten
    exact unvalued (valued _ _ (read_bench _) decoded)

end Manager

end WorkspaceLink
