import WorkspaceLink.Proofs.Discipline
import WorkspaceLink.Proofs.Retraction

/-!
# Tags of decoded configurations

The tags of a decoded configuration are within the limits of the service, and they are what is
written. Their values are texts. Their keys are those that were given, texts only if those are.
-/

namespace WorkspaceLink

/-- Tags as the service takes them: at most 50, with texts of at most 512 characters for keys, and
values of at most 256. -/
structure Tags.Fit (tags : Tags) : Prop where
  few : tags.length ≤ 50
  keys : ∀ t ∈ tags, ∃ s, t.1 = .str s ∧ s.length ≤ 512
  values : ∀ t ∈ tags, t.2.length ≤ 256

theorem Scalar.display_of_shown {k : Scalar} {text : String} (h : k.shown = .ok text) :
    k.display = text := by
  unfold shown at h
  split at h
  · exact Except.ok.inj h
  · cases h

/-! ## Limits -/

theorem Rule.tag_text_eq_nil [Host] {k : Scalar} {s : String} (h : tag k (.str s) = .ok []) :
    k.display.length ≤ 512 ∧ s.length ≤ 256 := by
  obtain ⟨name, text, hname, htext, short, fits⟩ := tag_eq_nil_iff.mp h
  obtain rfl := Scalar.display_of_shown hname
  obtain rfl : s = text := Except.ok.inj htext
  exact ⟨short, fits.resolve_left Bool.false_ne_true⟩

namespace Config

variable {fields : Fields} {c : Config}

theorem tags_within [Host] (h : decodeFields fields = .ok c) :
    c.tags.length ≤ 50 ∧ ∀ t ∈ c.tags, t.1.display.length ≤ 512 ∧ t.2.length ≤ 256 := by
  obtain ⟨-, -, -, check⟩ := tags_of_decodeFields h
  have mapping : c.tags.toValue.unrolled = .map c.tags.toFields := rfl
  obtain ⟨few, sound⟩ := (Rule.tags_eq_nil_iff mapping).mp check
  rw [Tags.toFields, List.length_map] at few
  refine ⟨few, fun t ht => Rule.tag_text_eq_nil ?_⟩
  exact sound _ (List.mem_map_of_mem ht)

theorem texts_of_tags_iff [Host] (h : decodeFields fields = .ok c) :
    (∀ t ∈ c.tags, ∃ s, t.1 = .str s) ↔
      ∀ ts, (fields.given .tags).unrolled = .map ts → ∀ k ∈ Fields.keys ts, ∃ s, k = .str s := by
  rcases tags_of_given h with ⟨null, none⟩ | ⟨ts, hts, texts⟩
  · rw [null, none]
    refine iff_of_true (fun t ht => by cases ht) fun ts hts => ?_
    cases hts
  · rw [texts, hts]
    constructor
    · intro given us hus k hk
      obtain rfl := Value.map.inj hus
      obtain ⟨f, hf, rfl⟩ := List.mem_map.mp hk
      exact given _ (List.mem_map_of_mem hf)
    · intro given t ht
      obtain ⟨f, hf, rfl⟩ := List.mem_map.mp ht
      exact given ts rfl f.1 (List.mem_map_of_mem hf)

end Config

/-! ## What is written -/

theorem Payload.expand_config [Host] (c : Config) :
    expand c.properties c.tags.toValue = .ok (.ofConfig c) := by
  have resource : resourceOf c.properties = .ok c.resourceId := by
    simp [resourceOf, Config.properties, Value.record, Fields.field?, Fields.get?]
  rw [expand, Tags.expand_toValue, resource]
  rfl

namespace Manager

variable {σ : Type} {m : Manager σ} {c : Config} {t : Snapshot} {s : σ} {a : Address} {p : Payload}

theorem Sequenced.of_write {checks writes questions : List Call}
    (h : Sequenced m c checks writes questions)
    (hw : Call.write a p ∈ checks ++ writes ++ questions) : p = .ofConfig c := by
  obtain ⟨checked, written, asked⟩ := h
  simp only [List.mem_append] at hw
  rcases hw with (hw | hw) | hw
  · rcases checked with rfl | ⟨-, rfl⟩ <;> simp at hw
  · rcases written with rfl | rfl
    · cases hw
    · exact (Call.write.inj (List.mem_singleton.mp hw)).2
  · rcases asked with rfl | ⟨-, rfl | ⟨link, rfl⟩⟩ <;> simp at hw

theorem payload_of_createOrUpdate (h : Call.write a p ∈ (m.createOrUpdate c t s).calls) :
    p = .ofConfig c := by
  obtain ⟨checks, writes, questions, sequenced, written⟩ := sequenced_of_mem_createOrUpdate h
  exact sequenced.of_write written

theorem payload_of_apply (h : Call.write a p ∈ (m.apply c t s).calls) : p = .ofConfig c := by
  rcases sequenced_of_mem_apply h with deleted | ⟨checks, writes, questions, sequenced, written⟩
  · cases Snapshot.isDelete_of_mem_deletions deleted
  · exact sequenced.of_write written

end Manager

namespace Config

variable {fields : Fields} {c : Config}

/-- The tags of a decoded configuration are within the limits of the service and have texts for
values, and whatever creates or updates with the configuration writes them. They have texts for keys
exactly if the keys of the given tags are texts. -/
theorem tags_fit_iff [Host] {raw : Value} (h : raw.unrolled = .map fields)
    (decoded : decode raw = .ok c) :
    (c.tags.Fit ↔
      ∀ ts, (fields.given .tags).unrolled = .map ts → ∀ k ∈ Fields.keys ts, ∃ s, k = .str s) ∧
    (c.tags.length ≤ 50 ∧ ∀ t ∈ c.tags, t.1.display.length ≤ 512 ∧ t.2.length ≤ 256) ∧
    Payload.expand c.properties c.tags.toValue = .ok (.ofConfig c) ∧
    ∀ (σ : Type) (m : Manager σ) (t : Snapshot) (s : σ) (a : Address) (p : Payload),
      Call.write a p ∈ (m.createOrUpdate c t s).calls ∨ Call.write a p ∈ (m.apply c t s).calls →
        p = .ofConfig c ∧ p.tags = c.tags := by
  rw [decode_eq_decodeFields h] at decoded
  have within := tags_within decoded
  refine ⟨?_, within, Payload.expand_config c, ?_⟩
  · rw [← texts_of_tags_iff decoded]
    constructor
    · intro fit t ht
      obtain ⟨s, hs, -⟩ := fit.keys t ht
      exact ⟨s, hs⟩
    · intro texts
      refine ⟨within.1, fun t ht => ?_, fun t ht => (within.2 t ht).2⟩
      obtain ⟨s, hs⟩ := texts t ht
      have short := (within.2 t ht).1
      rw [hs] at short
      exact ⟨s, hs, short⟩
  · rintro σ m t s a p (written | written)
    · obtain rfl := Manager.payload_of_createOrUpdate written
      exact ⟨rfl, rfl⟩
    · obtain rfl := Manager.payload_of_apply written
      exact ⟨rfl, rfl⟩

theorem tags_fit_iff_moving :
    decode Sample.raw = .ok Sample.config ∧ Sample.config.tags.Fit := by
  refine ⟨Sample.decode_raw, ?_⟩
  obtain ⟨fit, -⟩ := tags_fit_iff (Value.unrolled_map _) Sample.decode_raw
  refine fit.mpr fun ts hts k hk => ?_
  obtain rfl : [(.str "env", .str "prod")] = ts := Value.map.inj hts
  exact ⟨_, List.mem_singleton.mp hk⟩

/-- A key that is no text stays one, in the configuration and in what is written. -/
theorem flag_written_untexted :
    decode Sample.flagged = .ok Sample.flaggedConfig ∧ ¬ Sample.flaggedConfig.tags.Fit ∧
      ∃ a p, Call.write a p ∈
          ((Store.manager false).createOrUpdate Sample.flaggedConfig .absent Sample.store).calls ∧
        (.bool true, "") ∈ p.tags := by
  have written := Manager.write_mem_createOrUpdate (m := Store.manager false) (t := .absent)
    (c := Sample.flaggedConfig) rfl Sample.store
  refine ⟨rfl, fun fit => ?_, _, _, written, List.mem_cons_self⟩
  obtain ⟨s, hs, -⟩ := fit.keys _ List.mem_cons_self
  cases hs

end Config

end WorkspaceLink
