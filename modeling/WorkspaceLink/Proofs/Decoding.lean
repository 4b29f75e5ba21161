import WorkspaceLink.Proofs.Tracking

/-!
# How decoding ends

Decoding a mapping ends with a configuration or with all its defects, as long as what is wrong can
be told. It cannot be told of a whole number with too many digits that it would have to show, of a
value that is nested more deeply than the machine has room for where it is shown, nor of unknown
keys of the properties that are not texts, which are to be listed in order.
-/

namespace WorkspaceLink

/-! ## Rules that can judge a value -/

theorem Scalar.shown_succeeds_iff {k : Scalar} :
    (∃ text, k.shown = .ok text) ↔ k.isWritable = true := by
  unfold Scalar.shown
  split <;> simp [*]

theorem Value.obstacle?_eq_none_iff {room : Nat} {v : Value} :
    v.obstacle? room = none ↔ v.isWritable room = true := by
  rw [obstacle?, isWritable, List.findSome?_eq_none_iff, List.all_eq_true]
  refine forall₂_congr fun p _ => ?_
  rw [Bool.and_eq_true, decide_eq_true_iff, ← Nat.not_lt]
  split
  · simp [*]
  · split <;> simp [*]

theorem Value.shown_eq_ok_iff {room : Nat} {v : Value} {text : String} :
    v.shown room = .ok text ↔ v.isWritable room = true ∧ text = v.display := by
  rw [← obstacle?_eq_none_iff, shown]
  split
  · rename_i free
    rw [Except.ok.injEq, and_iff_right free, eq_comm]
  · rename_i m blocked
    rw [blocked]
    exact iff_of_false nofun fun h => nomatch h.1

theorem Value.shown_succeeds_iff {room : Nat} {v : Value} :
    (∃ text, v.shown room = .ok text) ↔ v.isWritable room = true := by
  simp [shown_eq_ok_iff]

theorem Value.isWritable_str (room : Nat) (s : String) : isWritable room (.str s) = true := rfl

theorem Value.isNull_iff {v : Value} : v.isNull = true ↔ v = .null := by
  unfold Value.isNull
  split <;> simp_all

/-- A mapping that counts as false has no entries. -/
theorem Value.fields_eq_nil {v : Value} {fs : Fields} (h : v.unrolled = .map fs)
    (empty : ¬ v.truthy = true) : fs = [] := by
  cases v with
  | map gs =>
      obtain rfl : gs = fs := by simpa using h
      simpa [truthy] using empty
  | knot n w => simp [truthy] at empty
  | _ => cases h

theorem Tags.text_eq_ok_iff [Host] {v : Value} {s : String} :
    text v = .ok s ↔ v.isWritable Host.tagRoom = true ∧ s = textOf v := by
  unfold text textOf
  split
  · rename_i null
    rw [Value.isNull_iff.mp null]
    exact ⟨fun h => ⟨rfl, (Except.ok.inj h).symm⟩, fun h => congrArg Except.ok h.2.symm⟩
  · exact Value.shown_eq_ok_iff

theorem Tags.expand_of_unrolled [Host] {v : Value} {fs : Fields} (h : v.unrolled = .map fs) :
    expand v = fs.mapM fun f => do return (f.1, ← text f.2) := by
  unfold expand
  split
  · rw [h]
  · rename_i empty
    rw [Value.fields_eq_nil h empty]
    rfl

/-- The values of a mapping can be turned into texts if they can be written. -/
theorem Tags.expand_eq_ok_iff [Host] {v : Value} {fs : Fields} {ts : Tags}
    (h : v.unrolled = .map fs) : expand v = .ok ts ↔
      (∀ f ∈ fs, f.2.isWritable Host.tagRoom = true) ∧ ts = fs.map fun f => (f.1, textOf f.2) := by
  rw [expand_of_unrolled h]
  refine mapM_eq_ok_map_iff fun f t => ?_
  constructor
  · intro h
    obtain ⟨s, hs, h⟩ := bind_eq_ok.mp h
    obtain ⟨written, rfl⟩ := text_eq_ok_iff.mp hs
    exact ⟨written, (Except.ok.inj h).symm⟩
  · rintro ⟨written, rfl⟩
    exact bind_eq_ok.mpr ⟨_, text_eq_ok_iff.mpr ⟨written, rfl⟩, rfl⟩

theorem Tags.flatten_of_unrolled {v : Value} {fs : Fields} (h : v.unrolled = .map fs) :
    flatten v = .ok fs := by
  unfold flatten
  split
  · rw [h]
  · rename_i empty
    rw [Value.fields_eq_nil h empty]

namespace Rule

variable {key : String} {v : Value}

theorem serviceName_succeeds_iff [Host] :
    (∃ ds, serviceName key v = .ok ds) ↔ v.isWritable Host.nameRoom = true := by
  unfold serviceName
  split
  · rename_i allowed
    obtain rfl : v = .str defaultName := by
      simpa [allowedNames, Value.same_str_iff] using allowed
    exact iff_of_true ⟨[], rfl⟩ rfl
  · exact bind_pure_succeeds_iff.trans Value.shown_succeeds_iff

theorem tag_succeeds_iff [Host] {k : Scalar} :
    (∃ ds, tag k v = .ok ds) ↔ k.isWritable = true ∧ v.isWritable Host.tagRoom = true := by
  rw [← Scalar.shown_succeeds_iff, ← Value.shown_succeeds_iff]
  exact bind_bind_pure_succeeds_iff

theorem textKeys?_isSome_iff {keys : List Scalar} :
    (textKeys? keys).isSome = true ↔ ∀ k ∈ keys, ∃ s, k = .str s := by
  induction keys with
  | nil => simp [textKeys?]
  | cons k ks ih =>
      have step : (textKeys? (k :: ks)).isSome = true ↔
          (∃ s, k = .str s) ∧ (textKeys? ks).isSome = true := by
        cases k with
        | str s => cases hks : textKeys? ks <;> simp_all [textKeys?]
        | _ => simp [textKeys?]
      rw [step, ih, List.forall_mem_cons]

/-- Keys of the properties can be listed if they are texts; the one that is known is. -/
theorem properties_succeeds_iff :
    (∃ ds, properties key v = .ok ds) ↔
      ∀ ps, v.unrolled = .map ps → ∀ k ∈ Fields.keys ps, ∃ s, k = .str s := by
  unfold properties
  split
  · rename_i fs hfs
    have known : (∀ k ∈ (Fields.keys fs).filter (fun k => !k.same (.str resourceIdKey)),
        ∃ s, k = .str s) ↔ ∀ k ∈ Fields.keys fs, ∃ s, k = .str s := by
      simp only [List.mem_filter, Bool.not_eq_true', and_imp]
      refine forall₂_congr fun k _ => ⟨fun h => ?_, fun h _ => h⟩
      cases hk : k.same (.str resourceIdKey) with
      | true => exact ⟨_, Scalar.same_str_iff.mp hk⟩
      | false => exact h hk
    have texts : (∀ ps, v.unrolled = .map ps → ∀ k ∈ Fields.keys ps, ∃ s, k = .str s) ↔
        ∀ k ∈ Fields.keys fs, ∃ s, k = .str s :=
      ⟨fun h => h fs hfs, fun h ps hps => by rw [hfs] at hps; cases hps; exact h⟩
    rw [texts, ← known, ← textKeys?_isSome_iff]
    split
    · rename_i hn
      simp [hn]
    · rename_i hs
      simp only [hs, Option.isSome_some, iff_true]
      split <;> exact ⟨_, rfl⟩
    · rename_i hs
      simp [hs]
  · rename_i hne
    exact iff_of_true ⟨_, rfl⟩ fun ps hps => absurd hps (hne ps)

theorem tags_succeeds_iff [Host] :
    (∃ ds, tags key v = .ok ds) ↔ ∀ ts, v.unrolled = .map ts →
      ∀ t ∈ ts, t.1.isWritable = true ∧ t.2.isWritable Host.tagRoom = true := by
  unfold tags
  split
  · rename_i hn
    refine iff_of_true ⟨_, rfl⟩ fun ts hts => ?_
    rw [Value.isNull_iff.mp hn] at hts
    cases hts
  · split
    · rename_i fs hfs
      rw [bind_pure_succeeds_iff, mapM_succeeds_iff]
      simp only [tag_succeeds_iff]
      exact ⟨fun h ts hts => by rw [hfs] at hts; cases hts; exact h, fun h => h fs hfs⟩
    · rename_i hne
      exact iff_of_true ⟨_, rfl⟩ fun ts hts => absurd hts (hne ts)

/-- Tags without defects can be turned into texts. -/
theorem expand_of_tags_eq_nil [Host] (h : tags key v = .ok []) :
    ∃ ts, Tags.expand v = .ok ts := by
  have written := tags_succeeds_iff.mp ⟨[], h⟩
  unfold tags at h
  split at h
  · rename_i hn
    rw [Value.isNull_iff.mp hn]
    exact ⟨[], rfl⟩
  · split at h
    · rename_i fs hfs
      exact ⟨_, (Tags.expand_eq_ok_iff hfs).mpr ⟨fun f hf => (written fs hfs f hf).2, rfl⟩⟩
    · cases h

end Rule

/-- The rule of a field can tell what is wrong with a value: a name, and the keys and values of
tags, can be written with the room that there is, and the keys of properties are texts. -/
def Field.Judges [Host] : Field → Value → Prop
  | .name, v => v.isWritable Host.nameRoom = true
  | .properties, v => ∀ ps, v.unrolled = .map ps → ∀ k ∈ Fields.keys ps, ∃ s, k = .str s
  | .tags, v =>
    ∀ ts, v.unrolled = .map ts →
      ∀ t ∈ ts, t.1.isWritable = true ∧ t.2.isWritable Host.tagRoom = true
  | .group, _ | .workspace, _ | .reportedName, _ => True

theorem Field.check_succeeds_iff [Host] {f : Field} {v : Value} :
    (∃ ds, f.check v = .ok ds) ↔ f.Judges v := by
  cases f with
  | name => exact Rule.serviceName_succeeds_iff
  | properties => exact Rule.properties_succeeds_iff
  | tags => exact Rule.tags_succeeds_iff
  | _ => exact iff_of_true ⟨_, rfl⟩ trivial

namespace Config

variable {fields : Fields}

/-! ## Mappings whose defects can be told -/

/-- All that is wrong with a mapping can be told: unknown keys can be written, and every field has a
value that its rule can judge. -/
structure Judgeable [Host] (fields : Fields) : Prop where
  keys : ∀ k ∈ fields.keys, Field.ofKey? k = none → k.isWritable = true
  values : ∀ f ∈ Field.configurable, f.Judges (valueOf fields f)

theorem keyDefects_succeeds_iff {k : Scalar} :
    (∃ ds, keyDefects (.map fields) (.scalar k) = .ok ds) ↔
      (Field.ofKey? k = none → k.isWritable = true) := by
  rw [keyDefects]
  split
  · rename_i hk
    simp only [hk, true_imp_iff]
    exact bind_pure_succeeds_iff.trans Scalar.shown_succeeds_iff
  · rename_i f hk
    simp only [hk, reduceCtorEq, false_imp_iff, iff_true]
    split <;> exact ⟨_, rfl⟩

theorem fieldDefects_succeeds_iff [Host] {f : Field} :
    (∃ ds, fieldDefects fields f = .ok ds) ↔ f.Judges (valueOf fields f) := by
  rw [← Field.check_succeeds_iff]
  simp only [fieldDefects]
  split
  · rename_i missing
    -- a field that has to be given has no default, so that its rule judges nothing
    simp only [Bool.and_eq_true] at missing
    have nothing : valueOf fields f = .null := by
      simp only [valueOf, missing.1, if_true]
      cases f <;> simp_all [Field.required, Field.default]
    refine iff_of_true ⟨_, rfl⟩ ?_
    rw [nothing]
    cases f <;> exact ⟨_, rfl⟩
  · rfl

theorem defects_succeeds_iff [Host] : (∃ ds, defects fields = .ok ds) ↔ Judgeable fields := by
  unfold defects
  rw [bind_bind_pure_succeeds_iff, mapM_succeeds_iff, mapM_succeeds_iff]
  simp only [keyDefects_succeeds_iff, fieldDefects_succeeds_iff]
  exact ⟨fun h => ⟨h.1, h.2⟩, fun h => ⟨h.keys, h.values⟩⟩

/-! ## The end of decoding -/

theorem decodeFields_of_defects [Host] {ds : List Defect} (h : defects fields = .ok ds)
    (hne : ds ≠ []) :
    decodeFields fields = .error (.invalidConfig ds) := by
  have some : ds.isEmpty = false := by simpa using hne
  rw [decodeFields, h]
  simp only [Fault.ofMisfit, mapError_ok, bind, Except.bind, some]
  rfl

theorem decodeFields_of_not_judgeable [Host] (h : ¬ Judgeable fields) :
    ∃ m, decodeFields fields = .error (.misfit m) := by
  rw [← defects_succeeds_iff] at h
  cases hd : defects fields with
  | ok ds => exact absurd ⟨ds, hd⟩ h
  | error m =>
      rw [decodeFields, hd]
      exact ⟨m, rfl⟩

/-- A mapping without defects is decoded; its tags are a mapping, or there are none. -/
theorem decodeFields_of_sound [Host] (h : defects fields = .ok []) :
    ∃ tags, Tags.expand (valueOf fields .tags) = .ok tags ∧
      decodeFields fields = .ok ⟨valueOf fields .group, valueOf fields .workspace,
        valueOf fields .name, linkedResource fields, tags⟩ := by
  have sound : Rule.tags Field.tags.key (valueOf fields .tags) = .ok [] :=
    check_of_defects h (f := .tags) (by decide)
  obtain ⟨tags, htags⟩ := Rule.expand_of_tags_eq_nil sound
  refine ⟨tags, htags, ?_⟩
  rw [decodeFields, h]
  simp only [Fault.ofMisfit, mapError_ok, bind, Except.bind, ofParts, htags]
  rfl

theorem decode_eq_decodeFields [Host] {raw : Value} (h : raw.unrolled = .map fields) :
    decode raw = decodeFields fields := by
  have mapping : (mappingOf raw).unrolled = .map fields := by
    cases raw with
    | map fs =>
        obtain rfl : fs = fields := by simpa using h
        cases fs <;> rfl
    | knot n v => exact h
    | _ => cases h
  rw [decode, mapping]

/-- Decoding a mapping ends with a configuration or with its defects exactly if all that is wrong
with it can be told; otherwise it ends with the misfit that stands in the way. -/
theorem decode_ok_or_invalid_iff [Host] {raw : Value} (h : raw.unrolled = .map fields) :
    (((∃ c, decode raw = .ok c) ∨ ∃ ds, decode raw = .error (.invalidConfig ds)) ↔
      Judgeable fields) ∧
    ∀ e, decode raw = .error e →
      (∃ ds, ds ≠ [] ∧ e = .invalidConfig ds) ∨ ¬ Judgeable fields ∧ ∃ m, e = .misfit m := by
  rw [decode_eq_decodeFields h]
  by_cases judged : Judgeable fields
  · obtain ⟨ds, hd⟩ := defects_succeeds_iff.mpr judged
    by_cases hne : ds = []
    · obtain ⟨tags, -, decoded⟩ := decodeFields_of_sound (hne ▸ hd)
      rw [decoded]
      exact ⟨iff_of_true (.inl ⟨_, rfl⟩) judged, fun e he => by cases he⟩
    · rw [decodeFields_of_defects hd hne]
      exact ⟨iff_of_true (.inr ⟨ds, rfl⟩) judged,
        fun e he => .inl ⟨ds, hne, (Except.error.inj he).symm⟩⟩
  · obtain ⟨m, stopped⟩ := decodeFields_of_not_judgeable judged
    rw [stopped]
    exact ⟨iff_of_false (by simp) judged,
      fun e he => .inr ⟨judged, m, (Except.error.inj he).symm⟩⟩

end Config

namespace Sample

/-- A mapping with these properties and tags. -/
def fieldsWith (properties tags : Value) : Fields :=
  [(.str Field.group.key, .str "rg1"), (.str Field.workspace.key, .str "ws01"),
    (.str Field.properties.key, properties), (.str Field.tags.key, tags)]

/-- Properties with a number for a key. -/
def numbered : Fields := fieldsWith (.map [(.int 1, .str account)]) .null

/-- A tag that is a whole number of more digits than can be written. -/
def endless : Fields :=
  fieldsWith (.record [(resourceIdKey, .str account)])
    (.record [("count", .int (Nat.pow 10 Decimal.maxWholeDigits))])

theorem not_judgeable_endless : ¬ Config.Judgeable endless := by
  intro h
  have judged : Field.tags.Judges (.record [("count", .int (Nat.pow 10 Decimal.maxWholeDigits))]) :=
    h.values .tags (by decide)
  have written := (judged _ rfl _ (List.mem_singleton.mpr rfl)).2
  revert written
  decide +kernel

end Sample

namespace Config

/-- Neither keys of properties that are numbers nor tags that are numbers without end are told as
defects. -/
theorem untold_defects :
    decode (.map Sample.numbered) = .error (.misfit .untextualKeys) ∧
      ∃ m, decode (.map Sample.endless) = .error (.misfit m) :=
  ⟨rfl, decodeFields_of_not_judgeable Sample.not_judgeable_endless⟩

/-- A mapping whose properties have a number for a key. -/
theorem decode_ok_or_invalid_iff_numbered :
    (((∃ c, decode (.map Sample.numbered) = .ok c) ∨
        ∃ ds, decode (.map Sample.numbered) = .error (.invalidConfig ds)) ↔
      Judgeable Sample.numbered) ∧
    ∀ e, decode (.map Sample.numbered) = .error e →
      (∃ ds, ds ≠ [] ∧ e = .invalidConfig ds) ∨
        ¬ Judgeable Sample.numbered ∧ ∃ m, e = .misfit m :=
  decode_ok_or_invalid_iff (Value.unrolled_map _)

end Config

end WorkspaceLink
