import WorkspaceLink.Proofs.Report

/-!
# Decoding what was decoded

The mapping of a decoded configuration is decoded to that configuration. Its values have passed their
rules, or are made of ones that have: defaults, the one property, and the texts of tags.
-/

namespace WorkspaceLink

theorem Fields.Proper.of_keys {fs gs : Fields} (h : fs.Proper) (hk : gs.keys = fs.keys) :
    gs.Proper := by
  constructor
  · rw [hk]
    exact h.distinct
  · rw [hk]
    exact h.numbers

theorem Field.keys_table (value : Field → Value) :
    (table value).keys = configurable.map fun f => .str f.key := by
  rw [table, Fields.keys, List.map_map]
  rfl

theorem Field.proper_table (value : Field → Value) : (table value).Proper := by
  refine Fields.proper_of_texts ?_ ?_ <;> rw [keys_table]
  · decide
  · intro k hk
    obtain ⟨f, -, rfl⟩ := List.mem_map.mp hk
    exact ⟨_, rfl⟩

theorem Field.filled_eq_self {f : Field} {v : Value} (h : f.default = .null) : f.filled v = v := by
  unfold filled
  split
  · rename_i null
    rw [Value.isNull_iff.mp null, h]
  · rfl

/-! ## Values that passed their rules -/

namespace Rule

variable {key : String} {v : Value}

theorem properties_record {s : String} (h : resourceId (key ++ "." ++ resourceIdKey) (.str s) = []) :
    properties key (.record [(resourceIdKey, .str s)]) = .ok [] := by
  simp [properties, Value.record, Fields.keys, textKeys?, Fields.field?, Fields.get?, h]

theorem unrolled_of_tags_eq_nil [Host] (h : tags key v = .ok []) (given : v.isNull = false) :
    ∃ ts, v.unrolled = .map ts := by
  rw [tags, given, if_neg Bool.false_ne_true] at h
  split at h
  · rename_i ts hts
    exact ⟨ts, hts⟩
  · cases h

end Rule

namespace Config

variable {fields : Fields} {c : Config} {f : Field}

theorem tags_of_decodeFields [Host] (h : decodeFields fields = .ok c) :
    ∃ ts, (valueOf fields .tags).unrolled = .map ts ∧ Tags.expand (.map ts) = .ok c.tags ∧
      Rule.tags Field.tags.key c.tags.toValue = .ok [] := by
  obtain ⟨sound, tags, expanded, rfl⟩ := defects_of_decodeFields h
  have check : Rule.tags Field.tags.key (valueOf fields .tags) = .ok [] :=
    check_of_defects sound (f := .tags) (by decide)
  have given : (valueOf fields .tags).isNull = false := by
    simp only [valueOf]
    split
    · rfl
    · rename_i given
      simpa using given
  obtain ⟨ts, hts⟩ := Rule.unrolled_of_tags_eq_nil check given
  refine ⟨ts, hts, ?_, Rule.tags_expanded hts expanded check⟩
  rw [← expanded, Tags.expand_of_unrolled hts]
  exact Tags.expand_of_unrolled rfl

/-- The tags of a decoded configuration are those given, with texts for values. -/
theorem tags_of_given [Host] (h : decodeFields fields = .ok c) :
    fields.given .tags = .null ∧ c.tags = [] ∨
      ∃ ts, (fields.given .tags).unrolled = .map ts ∧
        c.tags = ts.map fun f => (f.1, Tags.textOf f.2) := by
  obtain ⟨ts, hts, expanded, -⟩ := tags_of_decodeFields h
  obtain ⟨-, texts⟩ := (Tags.expand_eq_ok_iff rfl).mp expanded
  rw [valueOf_eq_filled, Field.filled] at hts
  split at hts
  · rename_i null
    obtain rfl : [] = ts := Value.map.inj hts
    exact .inl ⟨Value.isNull_iff.mp null, texts⟩
  · exact .inr ⟨ts, hts, texts⟩

theorem properties_of_decodeFields [Host] (h : decodeFields fields = .ok c) :
    ∃ ps s, (fields.given .properties).unrolled = .map ps ∧
      Fields.field? ps resourceIdKey = some (.str s) ∧ s ≠ "" ∧ c.resourceId = .str s ∧
      Rule.resourceId (Field.properties.key ++ "." ++ resourceIdKey) (.str s) = [] := by
  obtain ⟨sound, tags, -, rfl⟩ := defects_of_decodeFields h
  obtain ⟨ps, s, hps, hs, fit⟩ :=
    Rule.properties_eq_nil (check_of_defects sound (f := .properties) (by decide))
  obtain ⟨_, text, nonempty⟩ := Rule.resourceId_eq_nil fit
  obtain rfl := Scalar.str.inj (Value.scalar.inj text)
  rw [valueOf_properties] at hps
  refine ⟨ps, s, hps, hs, nonempty, ?_, fit⟩
  simp [linkedResource, hps, hs]

/-- The values of a decoded configuration pass their rules. -/
theorem check_value [Host] (h : decodeFields fields = .ok c) (hf : f ∈ Field.configurable) :
    f.check (c.value f) = .ok [] := by
  obtain ⟨sound, -⟩ := defects_of_decodeFields h
  cases f with
  | reportedName => cases Field.mem_configurable.mp hf
  | tags =>
      obtain ⟨ts, -, -, check⟩ := tags_of_decodeFields h
      exact check
  | properties =>
      obtain ⟨ps, s, -, -, -, resource, fit⟩ := properties_of_decodeFields h
      rw [value, properties, resource]
      exact Rule.properties_record fit
  | _ =>
      have check := check_of_defects sound hf
      obtain ⟨-, tags, -, rfl⟩ := defects_of_decodeFields h
      exact check

theorem text_or_map_value (h : c.Addressable) (hf : f ∈ Field.configurable) :
    (∃ s, c.value f = .str s) ∨ f = .properties ∨ f = .tags := by
  obtain ⟨hg, hw, hn⟩ := h.texts
  cases f with
  | reportedName => cases Field.mem_configurable.mp hf
  | group => exact .inl ⟨_, hg⟩
  | workspace => exact .inl ⟨_, hw⟩
  | name => exact .inl ⟨_, hn⟩
  | properties => exact .inr (.inl rfl)
  | tags => exact .inr (.inr rfl)

theorem isNull_value (h : c.Addressable) (hf : f ∈ Field.configurable) :
    (c.value f).isNull = false := by
  rcases text_or_map_value h hf with ⟨s, text⟩ | rfl | rfl
  · rw [text]
    rfl
  · rfl
  · rfl

/-! ## Decoding again -/

theorem decode_toValue [Host] (h : decodeFields fields = .ok c) : decode c.toValue = .ok c := by
  have addressable := addressable_of_decodeFields h
  have kept {f : Field} (hf : f ∈ Field.configurable) :
      valueOf (Field.table c.value) f = c.value f := by
    rw [valueOf_table hf, isNull_value addressable hf]
    rfl
  have sound : defects (Field.table c.value) = .ok [] := by
    rw [defects_table_eq_nil_iff]
    intro f hf
    rw [fieldDefects_eq_ok_iff]
    have given : (Field.table c.value).given f = c.value f := by
      rw [Fields.given, Field.field?_table _ hf]
      rfl
    refine .judged (fun _ null => ?_) ?_
    · have known := isNull_value addressable hf
      rw [given] at null
      rw [null] at known
      cases known
    · rw [← valueOf_eq_filled, kept hf]
      exact check_value h hf
  obtain ⟨tags, expanded, decoded⟩ := decodeFields_of_sound sound
  -- the tags are texts by now, and are left as they are
  rw [kept (by decide), value, Tags.expand_toValue] at expanded
  obtain rfl := Except.ok.inj expanded
  have resource : linkedResource (Field.table c.value) = c.resourceId := by
    rw [linkedResource, Field.field?_table _ (by decide)]
    rfl
  have mapping : c.toValue.unrolled = .map (Field.table c.value) := rfl
  rw [decode_eq_decodeFields mapping, decoded, resource, kept (by decide), kept (by decide),
    kept (by decide)]
  rfl

theorem same_toValue (h : c.Addressable) (proper : c.tags.toFields.Proper) :
    c.toValue.same c.toValue = true := by
  change (Value.map (Field.table c.value)).same (.map (Field.table c.value)) = true
  refine Value.same_map_self (Field.proper_table c.value) fun e he => ?_
  obtain ⟨f, hf, rfl⟩ := List.mem_map.mp he
  rcases text_or_map_value h hf with ⟨s, text⟩ | rfl | rfl
  · rw [text]
    exact Value.same_str_iff.mpr rfl
  · rw [value, properties, h.resource]
    exact Plan.same_propertiesOf _
  · exact Tags.same_toValue proper

/-- The mapping of a decoded configuration is decoded to it, and is equal to itself unless the tags
have a key that differs from itself. The configuration has the names and the resource of the mapping
that it was decoded from, and defaults for the name and the tags if there are none. -/
theorem decode_retracts [Host] {raw : Value} (h : raw.unrolled = .map fields)
    (decoded : decode raw = .ok c) :
    decode c.toValue = .ok c ∧
    ((∀ ts, (fields.given .tags).unrolled = .map ts → Fields.Proper ts) →
      c.toValue.same c.toValue = true) ∧
    (∃ ps s, (fields.given .properties).unrolled = .map ps ∧
      Fields.field? ps resourceIdKey = some (.str s) ∧ s ≠ "" ∧ c.resourceId = .str s) ∧
    (c.group = fields.given .group ∧ c.workspace = fields.given .workspace) ∧
    (fields.given .name = .null → c.name = .str "automation") ∧
    (fields.given .tags = .null → c.tags = []) := by
  rw [decode_eq_decodeFields h] at decoded
  have addressable := addressable_of_decodeFields decoded
  obtain ⟨ps, s, hps, hs, nonempty, resource, -⟩ := properties_of_decodeFields decoded
  have tags := tags_of_given decoded
  have proper (given : ∀ ts, (fields.given .tags).unrolled = .map ts → Fields.Proper ts) :
      c.tags.toFields.Proper := by
    rcases tags with ⟨-, none⟩ | ⟨ts, hts, texts⟩
    · rw [none]
      exact ⟨List.Pairwise.nil, fun k hk => by cases hk⟩
    · refine (given ts hts).of_keys ?_
      rw [texts, Tags.keys_toFields, List.map_map]
      rfl
  have untagged (null : fields.given .tags = .null) : c.tags = [] := by
    rcases tags with ⟨-, none⟩ | ⟨ts, hts, -⟩
    · exact none
    · rw [null] at hts
      cases hts
  obtain ⟨-, _, -, parts⟩ := defects_of_decodeFields decoded
  have group : c.group = fields.given .group := by
    rw [parts]
    exact Field.filled_eq_self rfl
  have workspace : c.workspace = fields.given .workspace := by
    rw [parts]
    exact Field.filled_eq_self rfl
  have named (null : fields.given .name = .null) : c.name = .str "automation" := by
    have name : c.name = Field.name.filled (fields.given .name) := by
      rw [parts]
      rfl
    rw [name, null]
    rfl
  exact ⟨decode_toValue decoded, fun given => same_toValue addressable (proper given),
    ⟨ps, s, hps, hs, nonempty, resource⟩, ⟨group, workspace⟩, named, untagged⟩

end Config

namespace Sample

/-- Tags whose keys and values are not all texts. -/
def flags : Fields := [(.bool true, .null), (.str "shared", .bool false)]

def flagged : Value := .map (fieldsWith (.record [(resourceIdKey, .str account)]) (.map flags))

def flaggedConfig : Config :=
  ⟨.str "rg1", .str "ws01", .str defaultName, .str account,
    [(.bool true, ""), (.str "shared", "False")]⟩

theorem proper_flags : Fields.Proper flags := by
  refine ⟨?_, fun k hk => ?_⟩
  · simp [flags, Fields.keys, Scalar.same, Scalar.number?]
  · rcases List.mem_pair.mp hk with rfl | rfl <;> simp

end Sample

namespace Config

theorem decode_retracts_flagged :
    decode Sample.flagged = .ok Sample.flaggedConfig ∧
      decode Sample.flaggedConfig.toValue = .ok Sample.flaggedConfig ∧
      Sample.flaggedConfig.toValue.same Sample.flaggedConfig.toValue = true := by
  have decoded : decode Sample.flagged = .ok Sample.flaggedConfig := rfl
  obtain ⟨again, same, -⟩ := decode_retracts (Value.unrolled_map _) decoded
  refine ⟨decoded, again, same fun ts hts => ?_⟩
  obtain rfl : Sample.flags = ts := Value.map.inj hts
  exact Sample.proper_flags

end Config

end WorkspaceLink
