import WorkspaceLink.Plan
import WorkspaceLink.Proofs.Config
import WorkspaceLink.Remote

/-!
# What a plan finds to be the same

A plan that replaces nothing leaves the key of a linked service and its resource as they are, and a
plan without changes leaves the tags too.
-/

namespace WorkspaceLink

/-! ## Data of remote objects -/

namespace Remote

variable {link : LinkId} {name resourceId : Value} {tags : Fields}

/-- The value of each field in the data of a remote object. -/
def dataValue (link : LinkId) (name resourceId : Value) (tags : Fields) : Field → Value
  | .group => .str link.group
  | .workspace => .str link.workspace
  | .name => .str link.name
  | .properties => .map (propertiesOf resourceId)
  | .reportedName => name
  | .tags => .map tags

theorem field?_data (f : Field) :
    (data link name resourceId tags).field? f.key =
      some (dataValue link name resourceId tags f) := by
  cases f <;> simp [data, dataValue, Fields.field?, Fields.get?, Field.key]

end Remote

namespace Plan

variable {prior : Fields} {c : Config} {f : Field}

/-! ## Fields without a change -/

theorem changeOf_eq_none : changeOf prior c f = none ↔
    (normalize f ((prior.field? f.key).getD .null)).same (normalize f (c.value f)) = true := by
  simp [changeOf]

theorem unchanged_of_not_hasChanges (h : (between prior c).hasChanges = false)
    (hf : f ∈ Field.configurable) : changeOf prior c f = none := by
  have none : Field.configurable.filterMap (changeOf prior c) = [] := by
    simpa [hasChanges, between] using h
  exact List.filterMap_eq_nil_iff.mp none f hf

theorem field_changeOf {change : Change} (h : changeOf prior c f = some change) :
    change.field = f := by
  simp only [changeOf] at h
  split at h
  · cases h
  · rw [← Option.some.inj h]

theorem requiresReplacement_between (prior : Fields) (c : Config) :
    (between prior c).requiresReplacement =
      (!prior.isEmpty && (between prior c).changes.any fun change => change.field.forcesNew) := rfl

theorem unchanged_of_not_requiresReplacement (hp : prior.isEmpty = false)
    (h : (between prior c).requiresReplacement = false) (hf : f ∈ Field.configurable)
    (hn : f.forcesNew = true) : changeOf prior c f = none := by
  cases hc : changeOf prior c f with
  | none => rfl
  | some change =>
      have mem : change ∈ Field.configurable.filterMap (changeOf prior c) :=
        List.mem_filterMap.mpr ⟨f, hf, hc⟩
      have kept : change.field.forcesNew = false := by
        rw [requiresReplacement_between, hp, Bool.not_false, Bool.true_and] at h
        simpa using List.any_eq_false.mp h change mem
      rw [field_changeOf hc, hn] at kept
      cases kept

/-! ## Linked services that are not replaced -/

/-- A linked service with a resource is the one that a configuration wants, whatever its tags. -/
structure Kept (c : Config) (link : LinkId) (resourceId : Value) : Prop where
  group : Unicode.SameUpToCase link.group c.group.display
  workspace : Unicode.SameUpToCase link.workspace c.workspace.display
  name : link.name = c.name.display
  resource : resourceId = c.resourceId

variable {link : LinkId} {name resourceId : Value} {tags : Fields}

theorem same_of_unchanged {v : Value} (hv : prior.field? f.key = some v)
    (h : changeOf prior c f = none) : (normalize f v).same (normalize f (c.value f)) = true := by
  simpa [hv] using changeOf_eq_none.mp h

theorem sameUpToCase_of_same {a b : String}
    (h : (Value.str (Unicode.lowerString a)).same (.str (Unicode.lowerString b)) = true) :
    Unicode.SameUpToCase a b := by
  simpa [Value.same, Unicode.SameUpToCase] using h

theorem resourceId_of_same {s : String} (h : (Value.map (propertiesOf resourceId)).same
    (.record [(resourceIdKey, .str s)]) = true) : resourceId = .str s := by
  unfold propertiesOf at h
  split at h
  · simp [Value.record, Value.same] at h
  · simpa [Value.record, Value.same, Value.sameFields, Fields.get?, Value.same_str_iff] using h

theorem same_propertiesOf (s : String) : (Value.map (propertiesOf (.str s))).same
    (.record [(resourceIdKey, .str s)]) = true := by
  simp [propertiesOf, Value.isNull, Value.record, Value.same, Value.sameFields, Fields.get?]

/-- The names in prior data that nothing replaces are those of the configuration. -/
theorem names_of_not_requiresReplacement {g w n : String} (hc : c.Addressable)
    (h : (between prior c).requiresReplacement = false)
    (hg : prior.field? Field.group.key = some (.str g))
    (hw : prior.field? Field.workspace.key = some (.str w))
    (hn : prior.field? Field.name.key = some (.str n)) :
    Unicode.SameUpToCase g c.group.display ∧ Unicode.SameUpToCase w c.workspace.display ∧
      n = c.name.display := by
  have known : prior.isEmpty = false := by
    cases prior with
    | nil => cases hg
    | cons e es => rfl
  have same {f : Field} {v : Value} (hv : prior.field? f.key = some v)
      (hf : f ∈ Field.configurable) (hforces : f.forcesNew = true) :=
    same_of_unchanged hv (unchanged_of_not_requiresReplacement known h hf hforces)
  obtain ⟨hg', hw', hn'⟩ := hc.texts
  have group := same hg (by decide) rfl
  have workspace := same hw (by decide) rfl
  have name := same hn (by decide) rfl
  rw [Config.value, hg'] at group
  rw [Config.value, hw'] at workspace
  rw [Config.value, hn'] at name
  exact ⟨sameUpToCase_of_same group, sameUpToCase_of_same workspace,
    Scalar.str.inj (Value.scalar.inj (Value.same_str_iff.mp name))⟩

theorem kept_of_not_requiresReplacement (hc : c.Addressable)
    (h : (between (Remote.data link name resourceId tags) c).requiresReplacement = false) :
    Kept c link resourceId := by
  have field := @Remote.field?_data link name resourceId tags
  obtain ⟨group, workspace, name⟩ :=
    names_of_not_requiresReplacement hc h (field .group) (field .workspace) (field .name)
  have properties := same_of_unchanged (field .properties)
    (unchanged_of_not_requiresReplacement rfl h (by decide) rfl)
  rw [Config.value, Config.properties, hc.resource] at properties
  refine ⟨group, workspace, name, ?_⟩
  rw [hc.resource]
  exact resourceId_of_same properties

/-! ## Linked services without a change -/

theorem same_tags_of_not_hasChanges
    (h : (between (Remote.data link name resourceId tags) c).hasChanges = false) :
    (Value.map tags).same c.tags.toValue = true :=
  same_of_unchanged (Remote.field?_data .tags) (unchanged_of_not_hasChanges h (by decide))

/-- A linked service that is the wanted one differs in its tags at most. -/
theorem unchanged_of_kept (hc : c.Addressable) (h : Kept c link resourceId)
    (hf : f ∈ Field.configurable) (hne : f ≠ .tags) :
    changeOf (Remote.data link name resourceId tags) c f = none := by
  obtain ⟨hg, hw, hn⟩ := hc.texts
  rw [changeOf_eq_none, Remote.field?_data, Option.getD_some]
  cases f with
  | group =>
      rw [Config.value, hg]
      exact Value.same_str_iff.mpr (congrArg Value.str h.group)
  | workspace =>
      rw [Config.value, hw]
      exact Value.same_str_iff.mpr (congrArg Value.str h.workspace)
  | name =>
      rw [Config.value, hn]
      exact Value.same_str_iff.mpr (congrArg Value.str h.name)
  | properties =>
      rw [Remote.dataValue, h.resource, Config.value, Config.properties, hc.resource]
      exact same_propertiesOf _
  | reportedName => exact absurd hf (by decide)
  | tags => exact absurd rfl hne

/-- Data that show what a configuration wants do not differ from it. -/
theorem not_hasChanges_of_kept (hc : c.Addressable) (h : Kept c link resourceId)
    (ht : (Value.map tags).same c.tags.toValue = true) :
    (between (Remote.data link name resourceId tags) c).hasChanges = false := by
  have unchanged (f : Field) (hf : f ∈ Field.configurable) :
      changeOf (Remote.data link name resourceId tags) c f = none := by
    by_cases htags : f = .tags
    · subst htags
      rw [changeOf_eq_none, Remote.field?_data, Option.getD_some]
      exact ht
    · exact unchanged_of_kept hc h hf htags
  have none : Field.configurable.filterMap (changeOf (Remote.data link name resourceId tags) c) = [] :=
    List.filterMap_eq_nil_iff.mpr unchanged
  simp [hasChanges, between, none]

/-- A linked service that is the wanted one is not replaced, whatever its tags. -/
theorem not_requiresReplacement_of_kept (hc : c.Addressable) (h : Kept c link resourceId) :
    (between (Remote.data link name resourceId tags) c).requiresReplacement = false := by
  have kept : ∀ change ∈ (between (Remote.data link name resourceId tags) c).changes,
      change.field.forcesNew = false := by
    intro change hmem
    obtain ⟨f, hf, changed⟩ := List.mem_filterMap.mp hmem
    have htags : f = .tags := by
      by_cases hne : f = .tags
      · exact hne
      · rw [unchanged_of_kept hc h hf hne] at changed
        cases changed
    rw [field_changeOf changed, htags]
    rfl
  have none : (between (Remote.data link name resourceId tags) c).changes.any
      (fun change => change.field.forcesNew) = false :=
    List.any_eq_false.mpr fun change hmem => by simp [kept change hmem]
  rw [requiresReplacement_between, none, Bool.and_false]

theorem not_requiresReplacement_of_not_hasChanges (h : (between prior c).hasChanges = false) :
    (between prior c).requiresReplacement = false := by
  have none : Field.configurable.filterMap (changeOf prior c) = [] := by
    simpa [hasChanges, between] using h
  simp [between, none]

theorem hasChanges_of_requiresReplacement (h : (between prior c).requiresReplacement = true) :
    (between prior c).hasChanges = true := by
  cases hc : (between prior c).hasChanges with
  | true => rfl
  | false =>
      rw [not_requiresReplacement_of_not_hasChanges hc] at h
      cases h

end Plan

end WorkspaceLink
