import WorkspaceLink.Proofs.Apply
import WorkspaceLink.Proofs.Decoding

/-!
# Tags that were made texts

Decoding makes texts of the values of tags. What is decoded then does not depend on whether they were
texts already: tags without a defect have none as texts, and texts stay as they are.
-/

namespace WorkspaceLink

theorem Value.isNull_of_unrolled {v : Value} {fs : Fields} (h : v.unrolled = .map fs) :
    v.isNull = false := by
  cases hv : v.isNull with
  | false => rfl
  | true =>
      rw [Value.isNull_iff.mp hv] at h
      cases h

/-! ## Tags with texts for keys -/

/-- The keys of a mapping are texts, and no key comes twice. -/
structure Fields.Textual (fs : Fields) : Prop where
  distinct : (Fields.keys fs).Nodup
  texts : ∀ k ∈ Fields.keys fs, ∃ s, k = .str s

/-- Tags as they are given or stored: a mapping from texts, or nothing. -/
def Value.IsTags (v : Value) : Prop := v = .null ∨ ∃ fs, v.unrolled = .map fs ∧ Fields.Textual fs

theorem Fields.textual_nil : Fields.Textual [] := ⟨List.nodup_nil, fun k hk => by cases hk⟩

namespace Tags

theorem flatten_of_isTags {v : Value} (h : v.IsTags) :
    ∃ fs, flatten v = .ok fs ∧ Fields.Textual fs := by
  rcases h with rfl | ⟨fs, hfs, textual⟩
  · exact ⟨[], rfl, Fields.textual_nil⟩
  · exact ⟨fs, flatten_of_unrolled hfs, textual⟩

theorem textual_expand [Host] {v : Value} {fs : Fields} {ts : Tags} (hfs : v.unrolled = .map fs)
    (h : Fields.Textual fs) (he : expand v = .ok ts) : ts.Textual := by
  obtain ⟨-, rfl⟩ := (expand_eq_ok_iff hfs).mp he
  refine ⟨?_, fun t ht => ?_⟩
  · rw [List.map_map]
    exact h.distinct
  · obtain ⟨f, hf, rfl⟩ := List.mem_map.mp ht
    exact h.texts f.1 (List.mem_map_of_mem hf)

end Tags

/-! ## Mappings with a value for each field -/

/-- The mapping with a value for each field that can be given. -/
def Field.table (value : Field → Value) : Fields :=
  configurable.map fun f => (.str f.key, value f)

theorem Field.field?_table {f : Field} (value : Field → Value) (hf : f ∈ configurable) :
    (table value).field? f.key = some (value f) := by
  cases f with
  | reportedName => exact absurd hf (by decide)
  | _ => simp [table, configurable, all, computed, key, Fields.field?, Fields.get?]

/-! ## Tags that were made texts -/

namespace Tags

theorem expand_toValue [Host] (tags : Tags) : expand tags.toValue = .ok tags := by
  have texts : tags.toFields.map (fun f => (f.1, textOf f.2)) = tags := by
    rw [toFields, List.map_map]
    exact List.map_id _
  have mapping : tags.toValue.unrolled = .map tags.toFields := rfl
  refine (expand_eq_ok_iff mapping).mpr ⟨fun f hf => ?_, texts.symm⟩
  obtain ⟨t, -, rfl⟩ := List.mem_map.mp hf
  exact Value.isWritable_str _ _

theorem expand_flatten [Host] {v : Value} {fs : Fields} (h : flatten v = .ok fs) :
    expand (.map fs) = expand v := by
  unfold flatten at h
  rw [expand.eq_def v]
  split at h
  · rename_i truthy
    rw [if_pos truthy]
    split at h
    · rename_i gs hgs
      obtain rfl := Except.ok.inj h
      exact expand_of_unrolled (Value.unrolled_map gs)
    · cases h
  · rename_i empty
    obtain rfl := Except.ok.inj h
    rw [if_neg empty]
    rfl

end Tags

namespace Rule

variable {key : String} {k : Scalar} {v : Value} {fs : Fields}

/-- A tag has no defect if its key and its value can be written and are not too long. -/
theorem tag_eq_nil_iff [Host] : tag k v = .ok [] ↔
    ∃ name text, k.shown = .ok name ∧ v.shown Host.tagRoom = .ok text ∧
      name.length ≤ maxTagKeyLength ∧ (v.isNull = true ∨ text.length ≤ maxTagValueLength) := by
  constructor
  · intro h
    obtain ⟨name, hname, h⟩ := bind_eq_ok.mp h
    obtain ⟨text, htext, h⟩ := bind_eq_ok.mp h
    obtain ⟨short, fits⟩ := List.append_eq_nil_iff.mp (Except.ok.inj h)
    refine ⟨name, text, hname, htext, by simpa using short, ?_⟩
    cases hv : v.isNull with
    | true => exact .inl rfl
    | false => exact .inr (by simpa [hv] using fits)
  · rintro ⟨name, text, hname, htext, short, fits⟩
    have fits : (!v.isNull && decide (maxTagValueLength < text.length)) = false := by
      rcases fits with hv | fits
      · rw [hv]
        rfl
      · simp [fits]
    rw [tag, hname, htext]
    simp [bind, Except.bind, pure, Except.pure, short, fits]

/-- The text of a tag's value is no longer than the value. -/
theorem tag_textOf [Host] (h : tag k v = .ok []) : tag k (.str (Tags.textOf v)) = .ok [] := by
  obtain ⟨name, text, hname, htext, short, fits⟩ := tag_eq_nil_iff.mp h
  refine tag_eq_nil_iff.mpr ⟨name, Tags.textOf v, hname, rfl, short, .inr ?_⟩
  unfold Tags.textOf
  split
  · exact Nat.zero_le _
  · rename_i hv
    obtain ⟨-, rfl⟩ := Value.shown_eq_ok_iff.mp htext
    exact fits.resolve_left hv

theorem tags_eq_nil_iff [Host] (hfs : v.unrolled = .map fs) :
    tags key v = .ok [] ↔ fs.length ≤ maxTagCount ∧ ∀ f ∈ fs, tag f.1 f.2 = .ok [] := by
  rw [← mapM_flatten_eq_nil_iff, tags, Value.isNull_of_unrolled hfs, hfs]
  constructor
  · intro h
    obtain ⟨ofTags, hm, h⟩ := bind_eq_ok.mp h
    obtain ⟨few, none⟩ := List.append_eq_nil_iff.mp (Except.ok.inj h)
    exact ⟨by simpa using few, ofTags, hm, none⟩
  · rintro ⟨few, ofTags, hm, none⟩
    have few : (if maxTagCount < fs.length then [Defect.tooManyTags] else []) = [] :=
      if_neg (Nat.not_lt.mpr few)
    rw [if_neg Bool.false_ne_true]
    simp only [hm, few]
    exact congrArg Except.ok none

/-- Tags without defects have none either once they are texts. -/
theorem tags_expanded [Host] {ts : Tags} (hfs : v.unrolled = .map fs) (ht : Tags.expand v = .ok ts)
    (h : tags key v = .ok []) : tags key ts.toValue = .ok [] := by
  obtain ⟨-, rfl⟩ := (Tags.expand_eq_ok_iff hfs).mp ht
  obtain ⟨few, fit⟩ := (tags_eq_nil_iff hfs).mp h
  refine (tags_eq_nil_iff rfl).mpr ⟨by simpa [Tags.toFields] using few, fun f hf => ?_⟩
  obtain ⟨t, hmem, rfl⟩ := List.mem_map.mp hf
  obtain ⟨g, hg, rfl⟩ := List.mem_map.mp hmem
  exact tag_textOf (fit g hg)

end Rule

/-! ## Configurations of what is wanted -/

namespace Field

theorem ofKey?_key (f : Field) : ofKey? (.str f.key) = some f := by
  cases f <;> rfl

end Field

namespace Config

variable {value value' : Field → Value} {c : Config} {f : Field}

theorem valueOf_table (hf : f ∈ Field.configurable) :
    valueOf (Field.table value) f = if (value f).isNull then f.default else value f := by
  simp only [valueOf, Field.field?_table value hf, Option.getD_some]

theorem valueOf_congr (hf : f ∈ Field.configurable) (h : value' f = value f) :
    valueOf (Field.table value') f = valueOf (Field.table value) f := by
  rw [valueOf_table hf, valueOf_table hf, h]

theorem fieldDefects_congr [Host] (hf : f ∈ Field.configurable) (h : value' f = value f) :
    fieldDefects (Field.table value') f = fieldDefects (Field.table value) f := by
  simp only [fieldDefects, valueOf, Field.field?_table _ hf, h]

theorem defects_table_eq_nil_iff [Host] : defects (Field.table value) = .ok [] ↔
    ∀ f ∈ Field.configurable, fieldDefects (Field.table value) f = .ok [] := by
  rw [defects_eq_nil_iff, and_iff_right]
  intro k hk
  simp only [Field.table, Fields.keys, List.map_map, List.mem_map] at hk
  obtain ⟨f, hf, rfl⟩ := hk
  have given : f.computed = false := by simpa [Field.configurable] using (List.mem_filter.mp hf).2
  simp [keyDefects, Field.ofKey?_key, given]

/-- With tags that were made texts, a mapping is decoded as it was before. -/
theorem decodeFields_expanded [Host] {fs : Fields} (h : decodeFields (Field.table value) = .ok c)
    (hfs : (value .tags).unrolled = .map fs) (kept : ∀ f, f ≠ .tags → value' f = value f)
    (texts : value' .tags = c.tags.toValue) : decodeFields (Field.table value') = .ok c := by
  obtain ⟨sound, tags, expanded, rfl⟩ := defects_of_decodeFields h
  have given : valueOf (Field.table value) .tags = value .tags := by
    rw [valueOf_table (by decide), Value.isNull_of_unrolled hfs]
    rfl
  have texts : valueOf (Field.table value') .tags = tags.toValue := by
    rw [valueOf_table (by decide), texts]
    rfl
  have check : Rule.tags Field.tags.key (value .tags) = .ok [] :=
    given ▸ check_of_defects sound (f := .tags) (by decide)
  rw [given] at expanded
  have sound' : defects (Field.table value') = .ok [] := by
    rw [defects_table_eq_nil_iff] at sound ⊢
    intro f hf
    by_cases htags : f = .tags
    · subst htags
      have check : Field.tags.check tags.toValue = .ok [] := Rule.tags_expanded hfs expanded check
      simpa [fieldDefects, Field.required, texts] using check
    · rw [fieldDefects_congr hf (kept f htags)]
      exact sound f hf
  obtain ⟨tags', expanded', decoded⟩ := decodeFields_of_sound sound'
  rw [texts, Tags.expand_toValue] at expanded'
  obtain rfl := Except.ok.inj expanded'
  have resource : linkedResource (Field.table value') = linkedResource (Field.table value) := by
    simp only [linkedResource, Field.field?_table _ (f := .properties) (by decide),
      kept .properties (by decide)]
  rw [decoded, resource, valueOf_congr (by decide) (kept .group (by decide)),
    valueOf_congr (by decide) (kept .workspace (by decide)),
    valueOf_congr (by decide) (kept .name (by decide))]

end Config

end WorkspaceLink
