import Mathlib.Data.List.Nodup
import Mathlib.Data.List.Perm.Subperm
import WorkspaceLink.Proofs.Apply
import WorkspaceLink.Proofs.Retraction

/-!
# Comparing configurations

A plan from one configuration to another lists the fields in which the two do not agree. Agreement
on a field goes both ways and along a chain of configurations, and so does a plan without changes.
-/

namespace WorkspaceLink

/-! ## Tags in any order -/

namespace Tags

variable {xs ys : Tags} {t : Scalar × String}

theorem Textual.nodup (h : xs.Textual) : xs.Nodup :=
  List.Nodup.of_map _ h.distinct

theorem Textual.get?_toFields (h : xs.Textual) (ht : t ∈ xs) :
    Fields.get? xs.toFields t.1 = some (.str t.2) := by
  have mem : (t.1, Value.str t.2) ∈ xs.toFields := List.mem_map_of_mem ht
  have own : xs.toFields.mapValues id = xs.toFields := List.map_id _
  have found := h.proper.get?_mapValues (g := id) mem
  rwa [own] at found

theorem mem_of_get?_toFields {k s : String} (h : Fields.get? xs.toFields (.str k) = some (.str s)) :
    (.str k, s) ∈ xs := by
  obtain ⟨e, found, text⟩ := Option.map_eq_some_iff.mp h
  obtain ⟨t, ht, rfl⟩ := List.mem_map.mp (List.mem_of_find?_eq_some found)
  have same : t.1.same (.str k) = true := by simpa using List.find?_some found
  have key : t.1 = .str k := Scalar.same_str_iff.mp same
  have value : t.2 = s := Scalar.str.inj (Value.scalar.inj text)
  rwa [← key, ← value]

/-- An entry is met in other tags under its key with its text exactly if it is one of them. -/
theorem Textual.met_iff (h : ys.Textual) (hk : ∃ k, t.1 = .str k) :
    (∃ w, Fields.get? ys.toFields t.1 = some w ∧ (Value.str t.2).same w = true) ↔ t ∈ ys := by
  obtain ⟨k, hk⟩ := hk
  constructor
  · rintro ⟨w, found, same⟩
    have text : w = .str t.2 := by
      cases w with
      | scalar x =>
          cases x with
          | str s =>
              rw [← show t.2 = s by simpa [Value.same] using same]
          | _ => simp [Value.same, Scalar.same, Scalar.number?] at same
      | _ => simp [Value.same] at same
    rw [hk, text] at found
    have mem := mem_of_get?_toFields found
    rwa [← hk] at mem
  · intro mem
    exact ⟨_, h.get?_toFields mem, Value.same_str_iff.mpr rfl⟩

/-- Tags count as the same exactly if one are the other in some order. -/
theorem Textual.same_iff_perm (hx : xs.Textual) (hy : ys.Textual) :
    xs.toValue.same ys.toValue = true ↔ xs.Perm ys := by
  have met : Value.sameFields xs.toFields ys.toFields = true ↔ xs ⊆ ys := by
    rw [Value.sameFields_iff]
    simp only [toFields, List.forall_mem_map]
    exact forall₂_congr fun t ht => hy.met_iff (hx.texts t ht)
  have length : (xs.toFields.length == ys.toFields.length) = true ↔ xs.length = ys.length := by
    simp [toFields]
  rw [toValue, toValue, Value.same, Bool.and_eq_true, met, length]
  constructor
  · rintro ⟨size, sub⟩
    exact (List.subperm_of_subset hx.nodup sub).perm_of_length_le (Nat.le_of_eq size.symm)
  · intro perm
    exact ⟨perm.length_eq, perm.subset⟩

end Tags

/-! ## Agreement -/

namespace Config

/-- Two values are texts that differ in case at most. -/
def SameText (v w : Value) : Prop :=
  ∃ s t, v = .str s ∧ w = .str t ∧ Unicode.SameUpToCase s t

/-- Two configurations want the same for a field: names of groups and workspaces up to case, and
tags in any order. -/
def AgreeOn (a b : Config) : Field → Prop
  | .group => SameText a.group b.group
  | .workspace => SameText a.workspace b.workspace
  | .name => a.name = b.name
  | .properties => a.resourceId = b.resourceId
  | .reportedName => True
  | .tags => a.tags.Perm b.tags

/-- Two configurations want the same linked service. -/
structure Alike (a b : Config) : Prop where
  group : a.AgreeOn b .group
  workspace : a.AgreeOn b .workspace
  name : a.AgreeOn b .name
  resource : a.AgreeOn b .properties
  tags : a.AgreeOn b .tags

variable {a b c : Config} {f : Field}

theorem alike_iff : a.Alike b ↔ ∀ f ∈ Field.configurable, a.AgreeOn b f := by
  constructor
  · intro h f _
    cases f with
    | group => exact h.group
    | workspace => exact h.workspace
    | name => exact h.name
    | properties => exact h.resource
    | reportedName => exact trivial
    | tags => exact h.tags
  · intro h
    exact ⟨h _ (by decide), h _ (by decide), h _ (by decide), h _ (by decide), h _ (by decide)⟩

theorem SameText.symm {v w : Value} (h : SameText v w) : SameText w v := by
  obtain ⟨s, t, hv, hw, same⟩ := h
  exact ⟨t, s, hw, hv, same.symm⟩

theorem SameText.trans {u v w : Value} (h : SameText u v) (h' : SameText v w) : SameText u w := by
  obtain ⟨s, t, hu, hv, same⟩ := h
  obtain ⟨t', r, hv', hw, same'⟩ := h'
  obtain rfl : t = t' := Scalar.str.inj (Value.scalar.inj (hv.symm.trans hv'))
  exact ⟨s, r, hu, hw, same.trans same'⟩

theorem AgreeOn.symm (h : a.AgreeOn b f) : b.AgreeOn a f := by
  cases f with
  | group | workspace => exact SameText.symm h
  | name | properties => exact Eq.symm h
  | reportedName => exact trivial
  | tags => exact List.Perm.symm h

theorem AgreeOn.trans (h : a.AgreeOn b f) (h' : b.AgreeOn c f) : a.AgreeOn c f := by
  cases f with
  | group | workspace => exact SameText.trans h h'
  | name | properties => exact Eq.trans h h'
  | reportedName => exact trivial
  | tags => exact List.Perm.trans h h'

theorem Alike.trans (h : a.Alike b) (h' : b.Alike c) : a.Alike c :=
  alike_iff.mpr fun f hf => (alike_iff.mp h f hf).trans (alike_iff.mp h' f hf)

end Config

/-! ## Changes -/

/-- Only tags can be changed in place. -/
theorem Field.forcesNew_iff {f : Field} (hf : f ∈ configurable) :
    f.forcesNew = true ↔ f ≠ .tags := by
  revert f
  decide

namespace Plan

variable {prior : Fields} {a b c : Config} {f : Field}

/-- The plan from one configuration to another. -/
theorem ofPrior_toValue (a b : Config) :
    ofPrior a.toValue b = .ok (between (Field.table a.value) b) := rfl

theorem fields_between (prior : Fields) (c : Config) :
    (between prior c).changes.map (·.field) =
      Field.configurable.filter fun f => (changeOf prior c f).isSome := by
  rw [between, ← List.filterMap_eq_filter, List.map_filterMap]
  refine List.filterMap_congr fun f _ => ?_
  cases h : changeOf prior c f with
  | none => simp [Option.guard, h]
  | some change => simp [Option.guard, h, field_changeOf h]

theorem keys_eq_map_fields (p : Plan) : p.keys = (p.changes.map (·.field)).map Field.key := by
  rw [keys, List.map_map]
  rfl

theorem any_forcesNew_fields (p : Plan) : (p.changes.any fun change => change.field.forcesNew) =
    (p.changes.map (·.field)).any Field.forcesNew := by
  rw [List.any_map]
  rfl

/-- The fields that differ say everything about a plan but the values. -/
theorem shape_of_fields {old new : Fields} (known : old.isEmpty = new.isEmpty)
    (h : (between old b).changes.map (·.field) = (between new a).changes.map (·.field)) :
    (between old b).keys = (between new a).keys ∧
      (between old b).requiresReplacement = (between new a).requiresReplacement := by
  constructor
  · rw [keys_eq_map_fields, h, ← keys_eq_map_fields]
  · rw [requiresReplacement_between, any_forcesNew_fields, h, known, ← any_forcesNew_fields,
      ← requiresReplacement_between]

theorem not_hasChanges_iff : (between prior c).hasChanges = false ↔
    ∀ f ∈ Field.configurable, changeOf prior c f = none := by
  constructor
  · intro h f hf
    exact unchanged_of_not_hasChanges h hf
  · intro h
    have none : (between prior c).changes = [] := List.filterMap_eq_nil_iff.mpr h
    simp [hasChanges, none]

theorem replaces_iff (known : prior.isEmpty = false) :
    (between prior c).requiresReplacement = true ↔
      ∃ change ∈ (between prior c).changes, change.field ≠ .tags := by
  have forces {change : Change} (hmem : change ∈ (between prior c).changes) :
      change.field.forcesNew = true ↔ change.field ≠ .tags := by
    obtain ⟨f, hf, changed⟩ := List.mem_filterMap.mp hmem
    rw [field_changeOf changed]
    exact Field.forcesNew_iff hf
  rw [requiresReplacement_between, known, Bool.not_false, Bool.true_and, List.any_eq_true]
  exact exists_congr fun change => and_congr_right forces

/-! ## Changes between configurations -/

/-- Names compare as the same if they differ in case at most. -/
theorem same_normalize_iff {v w : Value} {s t : String} (hf : f.caseInsensitive = true)
    (hv : v = .str s) (hw : w = .str t) :
    (normalize f v).same (normalize f w) = true ↔ Config.SameText v w := by
  subst hv hw
  have lowered (s : String) : normalize f (.str s) = .str (Unicode.lowerString s) := by
    simp [normalize, hf, Value.isNull]
  rw [lowered, lowered, Value.same_str_iff]
  simp [Config.SameText, Unicode.SameUpToCase]

theorem same_name_iff {v w : Value} {s t : String} (hv : v = .str s) (hw : w = .str t) :
    (normalize .name v).same (normalize .name w) = true ↔ v = w := by
  subst hv hw
  exact Value.same_str_iff

theorem same_properties_iff (ha : a.Addressable) (hb : b.Addressable) :
    (normalize .properties a.properties).same (normalize .properties b.properties) = true ↔
      a.resourceId = b.resourceId := by
  rw [Config.properties, Config.properties, ha.resource, hb.resource]
  constructor
  · intro h
    exact resourceId_of_same h
  · intro h
    rw [h]
    exact same_propertiesOf _

/-- A field is unchanged between configurations exactly if they agree on it. -/
theorem unchanged_iff (ha : a.Addressable) (hb : b.Addressable) (ta : a.tags.Textual)
    (tb : b.tags.Textual) (hf : f ∈ Field.configurable) :
    changeOf (Field.table a.value) b f = none ↔ a.AgreeOn b f := by
  obtain ⟨ga, wa, na⟩ := ha.texts
  obtain ⟨gb, wb, nb⟩ := hb.texts
  rw [changeOf_eq_none, Field.field?_table _ hf, Option.getD_some]
  cases f with
  | reportedName => cases Field.mem_configurable.mp hf
  | group => exact same_normalize_iff rfl ga gb
  | workspace => exact same_normalize_iff rfl wa wb
  | name => exact same_name_iff na nb
  | properties => exact same_properties_iff ha hb
  | tags => exact ta.same_iff_perm tb

theorem not_hasChanges_iff_alike (ha : a.Addressable) (hb : b.Addressable) (ta : a.tags.Textual)
    (tb : b.tags.Textual) :
    (between (Field.table a.value) b).hasChanges = false ↔ a.Alike b := by
  rw [not_hasChanges_iff, Config.alike_iff]
  exact forall₂_congr fun f hf => unchanged_iff ha hb ta tb hf

/-- The fields that differ are the same in both directions. -/
theorem fields_between_comm (ha : a.Addressable) (hb : b.Addressable) (ta : a.tags.Textual)
    (tb : b.tags.Textual) :
    (between (Field.table a.value) b).changes.map (·.field) =
      (between (Field.table b.value) a).changes.map (·.field) := by
  rw [fields_between, fields_between]
  refine List.filter_congr fun f hf => ?_
  have unchanged : changeOf (Field.table a.value) b f = none ↔
      changeOf (Field.table b.value) a f = none := by
    rw [unchanged_iff ha hb ta tb hf, unchanged_iff hb ha tb ta hf]
    exact ⟨Config.AgreeOn.symm, Config.AgreeOn.symm⟩
  rw [Bool.eq_iff_iff, Option.isSome_iff_ne_none, Option.isSome_iff_ne_none]
  exact not_congr unchanged

/-- A plan between decoded configurations has no changes exactly if they want the same linked
service. It lists the same fields in both directions and replaces in both or in neither, chains of
plans without changes have none, and all but tags are replaced. -/
theorem compares_configs [Host] {ra rb rc : Value} (da : Config.decode ra = .ok a)
    (db : Config.decode rb = .ok b) (dc : Config.decode rc = .ok c) (ta : a.tags.Textual)
    (tb : b.tags.Textual) (tc : c.tags.Textual) :
    ∃ there back onward across,
      ofPrior a.toValue b = .ok there ∧ ofPrior b.toValue a = .ok back ∧
      ofPrior b.toValue c = .ok onward ∧ ofPrior a.toValue c = .ok across ∧
      (there.hasChanges = false ↔ a.Alike b) ∧
      (there.keys = back.keys ∧ there.requiresReplacement = back.requiresReplacement) ∧
      (there.hasChanges = false → onward.hasChanges = false → across.hasChanges = false) ∧
      (there.requiresReplacement = true ↔ ∃ change ∈ there.changes, change.field ≠ .tags) := by
  have ha := Config.addressable_of_decode da
  have hb := Config.addressable_of_decode db
  have hc := Config.addressable_of_decode dc
  refine ⟨_, _, _, _, ofPrior_toValue a b, ofPrior_toValue b a, ofPrior_toValue b c,
    ofPrior_toValue a c, not_hasChanges_iff_alike ha hb ta tb, ?_, ?_, replaces_iff rfl⟩
  · exact shape_of_fields rfl (fields_between_comm ha hb ta tb)
  · rw [not_hasChanges_iff_alike ha hb ta tb, not_hasChanges_iff_alike hb hc tb tc,
      not_hasChanges_iff_alike ha hc ta tc]
    exact Config.Alike.trans

end Plan

namespace Sample

/-- A mapping for a linked service of two tags, in either order. -/
def labelled (group : String) (first second : String × String) : Value :=
  .record [(Field.group.key, .str group), (Field.workspace.key, .str "ws01"),
    (Field.properties.key, .record [(resourceIdKey, .str account)]),
    (Field.tags.key, .record [(first.1, .str first.2), (second.1, .str second.2)])]

def labelledConfig (group : String) (first second : String × String) : Config :=
  ⟨.str group, .str "ws01", .str defaultName, .str account,
    [(.str first.1, first.2), (.str second.1, second.2)]⟩

theorem textual_labelled {group : String} {first second : String × String}
    (h : first.1 ≠ second.1) : (labelledConfig group first second).tags.Textual where
  distinct := by simp [labelledConfig, h]
  texts := by simp [labelledConfig]

theorem alike_labelled {g h : String} (first second : String × String)
    (same : Unicode.SameUpToCase g h) :
    (labelledConfig g first second).Alike (labelledConfig h second first) where
  group := ⟨_, _, rfl, rfl, same⟩
  workspace := ⟨_, _, rfl, rfl, rfl⟩
  name := rfl
  resource := rfl
  tags := List.Perm.swap _ _ _

end Sample

namespace Plan

/-- Other letters and another order of the tags are no change. -/
theorem compares_configs_labelled :
    ∃ a b there back,
      Config.decode (Sample.labelled "rg1" ("env", "prod") ("team", "core")) = .ok a ∧
      Config.decode (Sample.labelled "RG1" ("team", "core") ("env", "prod")) = .ok b ∧
      ofPrior a.toValue b = .ok there ∧ ofPrior b.toValue a = .ok back ∧
      there.hasChanges = false ∧ back.keys = there.keys := by
  have da : Config.decode (Sample.labelled "rg1" ("env", "prod") ("team", "core")) =
      .ok (Sample.labelledConfig "rg1" ("env", "prod") ("team", "core")) := rfl
  have db : Config.decode (Sample.labelled "RG1" ("team", "core") ("env", "prod")) =
      .ok (Sample.labelledConfig "RG1" ("team", "core") ("env", "prod")) := rfl
  obtain ⟨there, back, -, -, hthere, hback, -, -, alike, ⟨keys, -⟩, -⟩ :=
    compares_configs da db da (Sample.textual_labelled (by decide))
      (Sample.textual_labelled (by decide)) (Sample.textual_labelled (by decide))
  exact ⟨_, _, there, back, da, db, hthere, hback,
    alike.mpr (Sample.alike_labelled _ _ (by decide +kernel)), keys.symm⟩

end Plan

end WorkspaceLink
