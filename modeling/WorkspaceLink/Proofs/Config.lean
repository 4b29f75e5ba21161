import WorkspaceLink.Config
import WorkspaceLink.Proofs.LinkId

/-!
# What a decoded configuration holds

A configuration that was decoded has names of texts without a slash, the one name that a linked
service may have, and the id of a resource.
-/

namespace WorkspaceLink

/-! ## Values that pass a rule -/

theorem Value.same_str_iff {v : Value} {s : String} : v.same (.str s) = true ↔ v = .str s := by
  cases v with
  | scalar k => simp [Value.same, Scalar.same_str_iff]
  | _ => simp [Value.same]

namespace Rule

/-- Where all characters but a line end pass a test that the slash fails, there is no slash. -/
theorem slash_not_mem {test : Char → Bool} {cs : List Char} (htest : test '/' = false)
    (h : (Text.dropLastNewline cs).all test = true) : '/' ∉ cs := by
  have body : '/' ∉ Text.dropLastNewline cs := by
    intro hm
    have := List.all_eq_true.mp h '/' hm
    rw [htest] at this
    cases this
  unfold Text.dropLastNewline at body
  split at body
  · rename_i hl
    obtain ⟨front, rfl⟩ := List.getLast?_eq_some_iff.mp hl
    simpa using body
  · exact body

theorem groupName_eq_nil {key : String} {v : Value} (h : groupName key v = []) :
    ∃ s, v = .str s ∧ s ≠ "" ∧ '/' ∉ s.toList := by
  unfold groupName at h
  split at h
  · rename_i s
    split at h
    · cases h
    · rename_i hs
      have name : isGroupName s.toList = true := by
        by_cases hn : isGroupName s.toList
        · exact hn
        · simp [hn] at h
      simp only [isGroupName, Bool.and_eq_true] at name
      exact ⟨s, rfl, hs, slash_not_mem (by decide +kernel) name.2⟩
  · cases h

theorem workspaceName_eq_nil {key : String} {v : Value} (h : workspaceName key v = []) :
    ∃ s, v = .str s ∧ '/' ∉ s.toList := by
  unfold workspaceName at h
  split at h
  · rename_i s
    split at h
    · cases h
    · have name : isWorkspaceName s.toList = true := by
        by_cases hn : isWorkspaceName s.toList
        · exact hn
        · simp [hn] at h
      simp only [isWorkspaceName, Bool.and_eq_true] at name
      exact ⟨s, rfl, slash_not_mem (by decide +kernel) name.1.1.2⟩
  · cases h

theorem serviceName_eq_nil [Host] {key : String} {v : Value} (h : serviceName key v = .ok []) :
    v = .str defaultName := by
  unfold serviceName at h
  split at h
  · rename_i ha
    simpa [allowedNames, Value.same_str_iff] using ha
  · obtain ⟨_, -, h⟩ := bind_eq_ok.mp h
    cases h

theorem resourceId_eq_nil {key : String} {v : Value} (h : resourceId key v = []) :
    ∃ s, v = .str s ∧ s ≠ "" := by
  unfold resourceId at h
  split at h
  · rename_i s
    split at h
    · cases h
    · rename_i hs
      exact ⟨s, rfl, hs⟩
  · cases h

theorem properties_eq_nil {key : String} {v : Value} (h : properties key v = .ok []) :
    ∃ fs s, v.unrolled = .map fs ∧ Fields.field? fs resourceIdKey = some (.str s) ∧
      resourceId (key ++ "." ++ resourceIdKey) (.str s) = [] := by
  unfold properties at h
  split at h
  · rename_i fs hfs
    split at h
    · cases h
    · split at h
      · cases h
      · have fit := Except.ok.inj h
        obtain ⟨s, hs, -⟩ := resourceId_eq_nil fit
        rw [hs] at fit
        refine ⟨fs, s, hfs, ?_, fit⟩
        cases hf : Fields.field? fs resourceIdKey with
        | none => simp [hf] at hs
        | some u => simpa [hf] using hs
    · cases h
  · cases h

end Rule

/-! ## Decoded configurations -/

namespace Config

/-- The id of the configured linked service under a subscription. -/
def linkId (subscription : String) (c : Config) : LinkId :=
  ⟨subscription, c.group.display, c.workspace.display, c.name.display⟩

/-- A configuration whose linked service can be addressed: its names are texts that fit into an id,
and it has the id of a resource. -/
structure Addressable (c : Config) : Prop where
  address (subscription : String) : c.address = (c.linkId subscription).address
  readable (subscription : String) : '/' ∉ subscription.toList → (c.linkId subscription).Readable
  resource : c.resourceId = .str c.resourceId.display

theorem Addressable.texts {c : Config} (h : c.Addressable) :
    c.group = .str c.group.display ∧ c.workspace = .str c.workspace.display ∧
      c.name = .str c.name.display := by
  simpa [Config.address, linkId, LinkId.address] using h.address ""

/-- There are no defects exactly if no key has one and no field has one. -/
theorem defects_eq_nil_iff [Host] {fields : Fields} : defects fields = .ok [] ↔
    (∀ k ∈ fields.keys, keyDefects (.map fields) (.scalar k) = .ok []) ∧
      ∀ f ∈ Field.configurable, fieldDefects fields f = .ok [] := by
  rw [← mapM_flatten_eq_nil_iff, ← mapM_flatten_eq_nil_iff, defects]
  constructor
  · intro h
    obtain ⟨ofKeys, hkeys, h⟩ := bind_eq_ok.mp h
    obtain ⟨ofFields, hfields, h⟩ := bind_eq_ok.mp h
    obtain ⟨noKeys, noFields⟩ := List.append_eq_nil_iff.mp (Except.ok.inj h)
    exact ⟨⟨ofKeys, hkeys, noKeys⟩, ofFields, hfields, noFields⟩
  · rintro ⟨⟨ofKeys, hkeys, noKeys⟩, ofFields, hfields, noFields⟩
    rw [hkeys, hfields]
    exact congrArg Except.ok (List.append_eq_nil_iff.mpr ⟨noKeys, noFields⟩)

/-- A field of a mapping without defects passes its rule, with the default in the place of
nothing. -/
theorem check_of_defects [Host] {fields : Fields} (h : defects fields = .ok []) {f : Field}
    (hf : f ∈ Field.configurable) : f.check (valueOf fields f) = .ok [] := by
  have sound := (defects_eq_nil_iff.mp h).2 f hf
  simp only [fieldDefects] at sound
  split at sound
  · cases sound
  · exact sound

theorem valueOf_properties (fields : Fields) :
    valueOf fields .properties = (fields.field? Field.properties.key).getD .null := by
  simp only [valueOf, Field.default]
  split
  · rename_i h
    generalize (fields.field? Field.properties.key).getD .null = v at h
    unfold Value.isNull at h
    split at h
    · rfl
    · cases h
  · rfl

/-- A mapping that is decoded has no defects, and its values make the configuration. -/
theorem defects_of_decodeFields [Host] {fields : Fields} {c : Config}
    (h : decodeFields fields = .ok c) :
    defects fields = .ok [] ∧ ∃ tags, Tags.expand (valueOf fields .tags) = .ok tags ∧
      c = ⟨valueOf fields .group, valueOf fields .workspace, valueOf fields .name,
        linkedResource fields, tags⟩ := by
  unfold decodeFields at h
  obtain ⟨ds, hds, h⟩ := bind_eq_ok.mp h
  split at h
  · rename_i he
    obtain ⟨tags, htags, h⟩ := bind_eq_ok.mp h
    refine ⟨?_, tags, mapError_eq_ok.mp htags, (Except.ok.inj h).symm⟩
    rw [mapError_eq_ok.mp hds, List.isEmpty_iff.mp he]
  · cases h

theorem addressable_of_decodeFields [Host] {fields : Fields} {c : Config}
    (h : decodeFields fields = .ok c) : c.Addressable := by
  obtain ⟨sound, tags, -, rfl⟩ := defects_of_decodeFields h
  obtain ⟨g, hg, hne, hgs⟩ := Rule.groupName_eq_nil
    (Except.ok.inj (check_of_defects (f := .group) sound (by decide)))
  obtain ⟨w, hw, hws⟩ := Rule.workspaceName_eq_nil
    (Except.ok.inj (check_of_defects (f := .workspace) sound (by decide)))
  have hn := Rule.serviceName_eq_nil (check_of_defects (f := .name) sound (by decide))
  obtain ⟨ps, r, hps, hr, -⟩ := Rule.properties_eq_nil
    (check_of_defects (f := .properties) sound (by decide))
  rw [valueOf_properties] at hps
  exact {
    address := fun _ => by simp [address, linkId, LinkId.address, hg, hw, hn]
    readable := fun subscription hs => by
      simp only [linkId, hg, hw, hn, Value.display_str]
      exact ⟨⟨hs, hgs, hws, by simp [defaultName]⟩, hne, by simp [defaultName],
        by simp [defaultName]⟩
    resource := by simp [linkedResource, hps, hr] }

theorem addressable_of_decode [Host] {raw : Value} {c : Config} (h : decode raw = .ok c) :
    c.Addressable := by
  unfold decode at h
  split at h
  · exact addressable_of_decodeFields h
  · split at h
    · cases h
    · obtain ⟨_, -, h⟩ := bind_eq_ok.mp h
      cases h

end Config

end WorkspaceLink
