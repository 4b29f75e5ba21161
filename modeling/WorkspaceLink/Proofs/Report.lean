import WorkspaceLink.Proofs.Expansion

/-!
# What decoding reports

A mapping is rejected for a key that is no field, a value of a field that is only reported, a field
that is missing, or a value that the rule of its field does not let through. All of it is reported:
what is wrong with the keys, in the order of the mapping, and then what is wrong with the fields, in
the order of the schema. What is reported of a field depends on the value given for it alone.
-/

namespace WorkspaceLink

/-- The value that a mapping gives for a field, nothing if it gives none. -/
def Fields.given (fields : Fields) (f : Field) : Value := (fields.field? f.key).getD .null

theorem Fields.key_mem_of_given {fields : Fields} {f : Field} (h : fields.given f ≠ .null) :
    .str f.key ∈ fields.keys := by
  by_contra hk
  refine h ?_
  have absent : fields.find? (fun e => e.1.same (.str f.key)) = none := by
    refine List.find?_eq_none.mpr fun e he same => hk ?_
    rw [← Scalar.same_str_iff.mp same]
    exact List.mem_map_of_mem he
  rw [given, field?, get?, absent]
  rfl

/-! ## Keys of fields -/

namespace Field

theorem ofKey?_eq_some_iff {k : Scalar} {f : Field} : ofKey? k = some f ↔ k = .str f.key := by
  constructor
  · intro h
    unfold ofKey? at h
    have known := List.find?_some h
    exact Scalar.same_str_iff.mp known
  · rintro rfl
    exact ofKey?_key f

theorem ofKey?_eq_none_iff {k : Scalar} : ofKey? k = none ↔ ∀ f : Field, k ≠ .str f.key := by
  constructor
  · rintro h f rfl
    rw [ofKey?_key] at h
    cases h
  · intro h
    cases known : ofKey? k with
    | none => rfl
    | some f => exact absurd (ofKey?_eq_some_iff.mp known) (h f)

theorem eq_of_key {f g : Field} (h : Scalar.str f.key = .str g.key) : f = g := by
  have known := ofKey?_key f
  rw [h, ofKey?_key] at known
  exact (Option.some.inj known).symm

theorem mem_configurable {f : Field} : f ∈ configurable ↔ f.computed = false := by
  simp [configurable, mem_all]

theorem configurable_of_required {f : Field} (h : f.required = true) : f ∈ configurable := by
  cases f with
  | reportedName => cases h
  | _ => decide

/-! ## What is found in a field -/

/-- A value for a field, with the default in the place of nothing. -/
def filled (f : Field) (v : Value) : Value := if v.isNull then f.default else v

/-- What is wrong with the value that is given for a field: it is missing where one is required, or
else what its rule says of it. -/
inductive Finds [Host] (f : Field) (v : Value) : List Defect → Prop
  | missing : f.required = true → v = .null → Finds f v [.required f.key]
  | judged {ds : List Defect} : (f.required = true → v ≠ .null) → f.check (f.filled v) = .ok ds →
      Finds f v ds

theorem Finds.unique [Host] {f : Field} {v : Value} {ds ds' : List Defect} (h : f.Finds v ds)
    (h' : f.Finds v ds') : ds = ds' := by
  cases h with
  | missing required null =>
      cases h' with
      | missing => rfl
      | judged given => exact absurd null (given required)
  | judged given judged =>
      cases h' with
      | missing required null => exact absurd null (given required)
      | judged _ judged' =>
          rw [judged] at judged'
          exact Except.ok.inj judged'

end Field

/-! ## Defects name their field -/

/-- The key that a defect names, if it is one of a field that can be given. -/
def Defect.key? : Defect → Option String
  | .unsupported _ | .computed _ => none
  | .required key | .notText key | .groupTooLong key | .groupEndsWithPeriod key
  | .groupCharacters key | .workspaceCharacters key | .workspaceLength key | .notAllowed key _
  | .notAnId key _ | .notTagMap key | .notPropertyMap key | .unexpectedProperties key _
  | .propertyRequired key => some key
  | .tooManyTags | .tagKeyTooLong _ _ | .tagValueTooLong _ _ => some Field.tags.key

/-- The keys that the defects of a field name: its own, and that of the one property. -/
def Field.paths : Field → List String
  | .properties => [Field.properties.key, Field.properties.key ++ "." ++ resourceIdKey]
  | f => [f.key]

/-- Whether a defect is one of a field. -/
def Defect.isOf (f : Field) (d : Defect) : Bool := d.key?.any fun key => f.paths.contains key

theorem Field.eq_of_mem_paths {f g : Field} {key : String} (hf : key ∈ f.paths)
    (hg : key ∈ g.paths) : f = g := by
  cases f <;> cases g <;> simp_all [Field.paths, Field.key, resourceIdKey]

theorem Defect.isOf_iff {f : Field} {d : Defect} :
    d.isOf f = true ↔ ∃ key, d.key? = some key ∧ key ∈ f.paths := by
  simp [Defect.isOf, Option.any_eq_true]

theorem Defect.isOf_unique {f g : Field} {d : Defect} (hf : d.isOf f = true)
    (hg : d.isOf g = true) : f = g := by
  obtain ⟨key, named, memf⟩ := Defect.isOf_iff.mp hf
  obtain ⟨key', named', memg⟩ := Defect.isOf_iff.mp hg
  rw [named] at named'
  obtain rfl := Option.some.inj named'
  exact Field.eq_of_mem_paths memf memg

namespace Rule

variable {key : String} {v : Value} {d : Defect} {ds : List Defect}

theorem key?_groupName (h : d ∈ groupName key v) : d.key? = some key := by
  unfold groupName at h
  split at h
  · split at h
    · simp_all [Defect.key?]
    · simp only [List.mem_append] at h
      rcases h with (h | h) | h <;> split at h <;> simp_all [Defect.key?]
  · simp_all [Defect.key?]

theorem key?_workspaceName (h : d ∈ workspaceName key v) : d.key? = some key := by
  unfold workspaceName at h
  split at h
  · split at h
    · simp_all [Defect.key?]
    · simp only [List.mem_append] at h
      rcases h with h | h <;> split at h <;> simp_all [Defect.key?]
  · simp_all [Defect.key?]

theorem key?_serviceName [Host] (h : serviceName key v = .ok ds) (hd : d ∈ ds) :
    d.key? = some key := by
  unfold serviceName at h
  split at h
  · obtain rfl := Except.ok.inj h
    cases hd
  · obtain ⟨_, -, h⟩ := bind_eq_ok.mp h
    obtain rfl := Except.ok.inj h
    rw [List.mem_singleton.mp hd]
    rfl

theorem key?_resourceId (h : d ∈ resourceId key v) : d.key? = some key := by
  unfold resourceId at h
  split at h
  · split at h
    · simp_all [Defect.key?]
    · split at h <;> simp_all [Defect.key?]
  · simp_all [Defect.key?]

theorem key?_properties (h : properties key v = .ok ds) (hd : d ∈ ds) :
    d.key? = some key ∨ d.key? = some (key ++ "." ++ resourceIdKey) := by
  unfold properties at h
  split at h
  · split at h
    · cases h
    · split at h <;> obtain rfl := Except.ok.inj h
      · rw [List.mem_singleton.mp hd]
        exact .inl rfl
      · exact .inr (key?_resourceId hd)
    · obtain rfl := Except.ok.inj h
      rw [List.mem_singleton.mp hd]
      exact .inl rfl
  · obtain rfl := Except.ok.inj h
    rw [List.mem_singleton.mp hd]
    exact .inl rfl

theorem key?_tag [Host] {k : Scalar} (h : tag k v = .ok ds) (hd : d ∈ ds) :
    d.key? = some Field.tags.key := by
  obtain ⟨_, -, h⟩ := bind_eq_ok.mp h
  obtain ⟨_, -, h⟩ := bind_eq_ok.mp h
  obtain rfl := Except.ok.inj h
  rcases List.mem_append.mp hd with hd | hd <;> split at hd <;> simp_all [Defect.key?]

theorem key?_tags [Host] (h : tags Field.tags.key v = .ok ds) (hd : d ∈ ds) :
    d.key? = some Field.tags.key := by
  unfold tags at h
  split at h
  · obtain rfl := Except.ok.inj h
    cases hd
  · split at h
    · obtain ⟨ofTags, hm, h⟩ := bind_eq_ok.mp h
      obtain rfl := Except.ok.inj h
      rcases List.mem_append.mp hd with hd | hd
      · split at hd <;> simp_all [Defect.key?]
      · obtain ⟨ofTag, mem, hd⟩ := List.mem_flatten.mp hd
        obtain ⟨f, -, judged⟩ := exists_left_of_mem (mapM_eq_ok_iff.mp hm) mem
        exact key?_tag judged hd
    · obtain rfl := Except.ok.inj h
      rw [List.mem_singleton.mp hd]
      rfl

end Rule

namespace Field

variable {f : Field} {v : Value} {ds : List Defect}

theorem isOf_of_key? {d : Defect} (h : d.key? = some f.key) : d.isOf f = true := by
  refine Defect.isOf_iff.mpr ⟨f.key, h, ?_⟩
  cases f <;> simp [paths]

theorem isOf_of_check [Host] (h : f.check v = .ok ds) : ∀ d ∈ ds, d.isOf f = true := by
  intro d hd
  cases f with
  | group =>
      obtain rfl := Except.ok.inj h
      exact isOf_of_key? (Rule.key?_groupName hd)
  | workspace =>
      obtain rfl := Except.ok.inj h
      exact isOf_of_key? (Rule.key?_workspaceName hd)
  | name => exact isOf_of_key? (Rule.key?_serviceName h hd)
  | properties =>
      rcases Rule.key?_properties h hd with named | named
      · exact isOf_of_key? named
      · exact Defect.isOf_iff.mpr ⟨_, named, by simp [paths]⟩
  | reportedName =>
      obtain rfl := Except.ok.inj h
      cases hd
  | tags => exact isOf_of_key? (Rule.key?_tags h hd)

theorem Finds.isOf [Host] (h : f.Finds v ds) : ∀ d ∈ ds, d.isOf f = true := by
  cases h with
  | missing =>
      intro d hd
      rw [List.mem_singleton.mp hd]
      exact isOf_of_key? rfl
  | judged _ judged => exact isOf_of_check judged

end Field

namespace Config

variable {fields : Fields} {ds : List Defect}

/-! ## The list of defects -/

/-- What is wrong with a key of a mapping: it is no field, or one that is only reported and has a
value all the same. -/
inductive KeyFinds (fields : Fields) : Scalar → List Defect → Prop
  | unsupported {k : Scalar} : (∀ f : Field, k ≠ .str f.key) → KeyFinds fields k [.unsupported k]
  | computed {f : Field} : f.computed = true → fields.given f ≠ .null →
      KeyFinds fields (.str f.key) [.computed f.key]
  | nothing {f : Field} : (f.computed = true → fields.given f = .null) →
      KeyFinds fields (.str f.key) []

/-- Defects are listed: those of the keys in the order of the mapping, and behind them those of the
fields in the order of the schema. -/
def Lists [Host] (fields : Fields) (ds : List Defect) : Prop :=
  ∃ ofKeys ofFields : List (List Defect),
    List.Forall₂ (KeyFinds fields) fields.keys ofKeys ∧
      List.Forall₂ (fun f => f.Finds (fields.given f)) Field.configurable ofFields ∧
      ds = ofKeys.flatten ++ ofFields.flatten

theorem valueOf_eq_filled (fields : Fields) (f : Field) :
    valueOf fields f = f.filled (fields.given f) := rfl

theorem keyFinds_of_keyDefects {k : Scalar} (h : keyDefects (.map fields) (.scalar k) = .ok ds) :
    KeyFinds fields k ds := by
  rw [keyDefects] at h
  split at h
  · rename_i unknown
    obtain ⟨_, -, h⟩ := bind_eq_ok.mp h
    obtain rfl := Except.ok.inj h
    exact .unsupported (Field.ofKey?_eq_none_iff.mp unknown)
  · rename_i f known
    obtain rfl := Field.ofKey?_eq_some_iff.mp known
    split at h
    · rename_i computed
      obtain ⟨v, found, h⟩ := bind_eq_ok.mp h
      obtain rfl : fields.given f = v := Except.ok.inj found
      obtain rfl := Except.ok.inj h
      split
      · rename_i null
        exact .nothing fun _ => Value.isNull_iff.mp null
      · rename_i given
        exact .computed computed fun null => given (Value.isNull_iff.mpr null)
    · rename_i configurable
      obtain rfl := Except.ok.inj h
      exact .nothing fun computed => absurd computed configurable

theorem fieldDefects_eq_ok_iff [Host] {f : Field} :
    fieldDefects fields f = .ok ds ↔ f.Finds (fields.given f) ds := by
  have found : fieldDefects fields f =
      if (fields.given f).isNull && f.required then .ok [.required f.key]
      else f.check (f.filled (fields.given f)) := rfl
  rw [found]
  split
  · rename_i missing
    rw [Bool.and_eq_true, Value.isNull_iff] at missing
    constructor
    · intro h
      obtain rfl := Except.ok.inj h
      exact .missing missing.2 missing.1
    · intro h
      rw [(Field.Finds.missing missing.2 missing.1).unique h]
  · rename_i given
    rw [Bool.and_eq_true, Value.isNull_iff, not_and] at given
    constructor
    · intro h
      exact .judged (fun required null => given null required) h
    · intro h
      cases h with
      | missing required null => exact absurd required (given null)
      | judged _ judged => exact judged

theorem lists_of_defects [Host] (h : defects fields = .ok ds) : Lists fields ds := by
  obtain ⟨ofKeys, hkeys, h⟩ := bind_eq_ok.mp h
  obtain ⟨ofFields, hfields, h⟩ := bind_eq_ok.mp h
  refine ⟨ofKeys, ofFields, ?_, ?_, (Except.ok.inj h).symm⟩
  · exact (mapM_eq_ok_iff.mp hkeys).imp fun k _ found => keyFinds_of_keyDefects found
  · exact (mapM_eq_ok_iff.mp hfields).imp fun f _ found => fieldDefects_eq_ok_iff.mp found

/-! ## What is listed of one field -/

theorem KeyFinds.isOf_eq_false {k : Scalar} (h : KeyFinds fields k ds) (f : Field) :
    ∀ d ∈ ds, d.isOf f = false := by
  intro d hd
  cases h with
  | nothing => cases hd
  | _ =>
      rw [List.mem_singleton.mp hd]
      rfl

/-- Of what is found in several fields, the defects of one field are those found there. -/
theorem finds_filter [Host] {fs : List Field} {dss : List (List Defect)}
    (h : List.Forall₂ (fun f => f.Finds (fields.given f)) fs dss) (distinct : fs.Nodup)
    {f : Field} (hf : f ∈ fs) : f.Finds (fields.given f) (dss.flatten.filter (·.isOf f)) := by
  have other {g : Field} {ds : List Defect} (hne : g ≠ f) (hg : g.Finds (fields.given g) ds) :
      ds.filter (·.isOf f) = [] := by
    refine List.filter_eq_nil_iff.mpr fun d hd isOf => ?_
    exact hne (Defect.isOf_unique (hg.isOf d hd) isOf)
  have others {fs : List Field} {dss : List (List Defect)} (hne : f ∉ fs)
      (h : List.Forall₂ (fun f => f.Finds (fields.given f)) fs dss) :
      dss.flatten.filter (·.isOf f) = [] := by
    induction h with
    | nil => rfl
    | cons hg _ ih =>
        rw [List.mem_cons, not_or] at hne
        rw [List.flatten_cons, List.filter_append, other (Ne.symm hne.1) hg, ih hne.2]
        rfl
  induction h with
  | nil => cases hf
  | @cons g ds fs dss hg rest ih =>
      rw [List.nodup_cons] at distinct
      rw [List.flatten_cons, List.filter_append]
      rcases List.mem_cons.mp hf with rfl | hf
      · rwa [others distinct.1 rest, List.append_nil, List.filter_eq_self.mpr hg.isOf]
      · have hne : g ≠ f := by
          rintro rfl
          exact distinct.1 hf
        rw [other hne hg, List.nil_append]
        exact ih distinct.2 hf

/-- The defects of a field in the list are those found in its value. -/
theorem Lists.finds [Host] (h : Lists fields ds) {f : Field} (hf : f ∈ Field.configurable) :
    f.Finds (fields.given f) (ds.filter (·.isOf f)) := by
  obtain ⟨ofKeys, ofFields, hkeys, hfields, rfl⟩ := h
  have none : ofKeys.flatten.filter (·.isOf f) = [] := by
    refine List.filter_eq_nil_iff.mpr fun d hd => ?_
    obtain ⟨ofKey, mem, hd⟩ := List.mem_flatten.mp hd
    obtain ⟨k, -, found⟩ := exists_left_of_mem hkeys mem
    simp [found.isOf_eq_false f d hd]
  rw [List.filter_append, none, List.nil_append]
  exact finds_filter hfields (by decide) hf

/-! ## Rejected mappings -/

/-- What a mapping is rejected for. -/
inductive Rejected [Host] (fields : Fields) : Prop
  | unsupported {k : Scalar} : k ∈ fields.keys → (∀ f : Field, k ≠ .str f.key) → Rejected fields
  | computed {f : Field} : f.computed = true → fields.given f ≠ .null → Rejected fields
  | missing {f : Field} : f.required = true → fields.given f = .null → Rejected fields
  | refused {f : Field} : f.computed = false → f.check (f.filled (fields.given f)) ≠ .ok [] →
      Rejected fields

theorem keyDefects_eq_nil_iff {k : Scalar} : keyDefects (.map fields) (.scalar k) = .ok [] ↔
    ∃ f : Field, k = .str f.key ∧ (f.computed = true → fields.given f = .null) := by
  constructor
  · intro h
    cases keyFinds_of_keyDefects h with
    | nothing null => exact ⟨_, rfl, null⟩
  · rintro ⟨f, rfl, null⟩
    rw [keyDefects, Field.ofKey?_key]
    dsimp only
    split
    · rename_i computed
      have found : lookUp (.map fields) (.str f.key) = .ok .null := congrArg _ (null computed)
      rw [found]
      rfl
    · rfl

theorem defects_eq_nil_iff_not_rejected [Host] : defects fields = .ok [] ↔ ¬ Rejected fields := by
  rw [defects_eq_nil_iff]
  constructor
  · rintro ⟨keys, values⟩ rejected
    cases rejected with
    | @unsupported k hk unknown =>
        obtain ⟨f, known, -⟩ := keyDefects_eq_nil_iff.mp (keys k hk)
        exact unknown f known
    | @computed f computed given =>
        have hk : .str f.key ∈ fields.keys := Fields.key_mem_of_given given
        obtain ⟨g, known, null⟩ := keyDefects_eq_nil_iff.mp (keys _ hk)
        obtain rfl : f = g := Field.eq_of_key known
        exact given (null computed)
    | @missing f required null =>
        have found := fieldDefects_eq_ok_iff.mp (values f (Field.configurable_of_required required))
        cases (Field.Finds.missing required null).unique found
    | @refused f configurable refused =>
        refine refused (check_of_defects (defects_eq_nil_iff.mpr ⟨keys, values⟩) ?_)
        exact Field.mem_configurable.mpr configurable
  · intro accepted
    refine ⟨fun k hk => ?_, fun f hf => ?_⟩
    · by_cases known : ∃ f : Field, k = .str f.key
      · obtain ⟨f, rfl⟩ := known
        refine keyDefects_eq_nil_iff.mpr ⟨f, rfl, fun computed => ?_⟩
        by_contra given
        exact accepted (.computed computed given)
      · exact absurd (.unsupported hk fun f hf => known ⟨f, hf⟩) accepted
    · refine fieldDefects_eq_ok_iff.mpr (.judged (fun required null => ?_) ?_)
      · exact accepted (.missing required null)
      · by_contra refused
        exact accepted (.refused (Field.mem_configurable.mp hf) refused)

theorem decode_eq_invalid_iff [Host] {raw : Value} (h : raw.unrolled = .map fields) :
    decode raw = .error (.invalidConfig ds) ↔ defects fields = .ok ds ∧ ds ≠ [] := by
  rw [decode_eq_decodeFields h]
  constructor
  · intro hd
    cases found : defects fields with
    | error m =>
        rw [decodeFields, found] at hd
        cases hd
    | ok ds' =>
        by_cases none : ds' = []
        · obtain ⟨tags, -, decoded⟩ := decodeFields_of_sound (none ▸ found)
          rw [decoded] at hd
          cases hd
        · rw [decodeFields_of_defects found none] at hd
          obtain rfl : ds' = ds := by simpa using hd
          exact ⟨rfl, none⟩
  · rintro ⟨found, some⟩
    exact decodeFields_of_defects found some

/-- A mapping is refused for its defects, all of which are listed, exactly if it has one, as long as
all that is wrong with it can be told. The defects of a field are those of the value given for it,
whatever else the mapping holds. -/
theorem decode_rejects_iff [Host] {raw : Value} (h : raw.unrolled = .map fields) :
    (((∃ ds, decode raw = .error (.invalidConfig ds)) ↔ Rejected fields) ↔ Judgeable fields) ∧
    ∀ ds, decode raw = .error (.invalidConfig ds) →
      Lists fields ds ∧
      (Fault.invalidConfig ds).message = "Invalid linked service configuration:\n  " ++
        "\n  ".intercalate (ds.map Defect.message) ∧
      ∀ f ∈ Field.configurable, f.Finds (fields.given f) (ds.filter (·.isOf f)) ∧
        ∀ (raw' : Value) (fields' : Fields) (ds' : List Defect), raw'.unrolled = .map fields' →
          decode raw' = .error (.invalidConfig ds') → fields'.given f = fields.given f →
          ds'.filter (·.isOf f) = ds.filter (·.isOf f) := by
  refine ⟨?_, fun ds hds => ?_⟩
  · have refused : (∃ ds, decode raw = .error (.invalidConfig ds)) ↔
        ∃ ds, defects fields = .ok ds ∧ ds ≠ [] := by
      simp only [decode_eq_invalid_iff h]
    have rejected : Rejected fields ↔ defects fields ≠ .ok [] := by
      rw [Ne, defects_eq_nil_iff_not_rejected, not_not]
    rw [refused, rejected, ← defects_succeeds_iff]
    cases found : defects fields with
    | ok ds => simp
    -- no list then, though something is refused
    | error m => simp
  · have listed : Lists fields ds := lists_of_defects ((decode_eq_invalid_iff h).mp hds).1
    refine ⟨listed, rfl, fun f hf => ⟨listed.finds hf, ?_⟩⟩
    intro raw' fields' ds' h' hds' given
    have listed' : Lists fields' ds' := lists_of_defects ((decode_eq_invalid_iff h').mp hds').1
    have found := listed'.finds hf
    rw [given] at found
    exact found.unique (listed.finds hf)

end Config

namespace Sample

/-- A mapping with a key that is no field, a value for the reported name, no group, and numbers for
the workspace and the linked resource. -/
def faulty : Fields :=
  [(.str "kind", .str "x"), (.str Field.reportedName.key, .str "x"), (.str Field.workspace.key, .int 7),
    (.str Field.properties.key, .record [(resourceIdKey, .int 7)])]

/-- What is wrong with it. -/
def faults : List Defect :=
  [.unsupported (.str "kind"), .computed Field.reportedName.key, .required Field.group.key,
    .notText Field.workspace.key, .notText (Field.properties.key ++ "." ++ resourceIdKey)]

/-- A mapping with nothing but a key of more digits than can be written. -/
def countless : Fields := [(.int (Nat.pow 10 Decimal.maxWholeDigits), .str "x")]

theorem not_judgeable_countless : ¬ Config.Judgeable countless := by
  intro h
  have written := h.keys _ (List.mem_singleton.mpr rfl) rfl
  revert written
  decide +kernel

end Sample

namespace Config

theorem decode_rejects_iff_faulty :
    decode (.map Sample.faulty) = .error (.invalidConfig Sample.faults) ∧
      Lists Sample.faulty Sample.faults :=
  have found : decode (.map Sample.faulty) = .error (.invalidConfig Sample.faults) := rfl
  ⟨found, ((decode_rejects_iff (Value.unrolled_map _)).2 _ found).1⟩

/-- A key that is no field goes unlisted if it has more digits than can be written. -/
theorem unwritable_key_unlisted : Rejected Sample.countless ∧
    Sample.countless.given .properties = .null ∧
    ∀ ds, decode (.map Sample.countless) ≠ .error (.invalidConfig ds) := by
  have unknown (n : Int) (f : Field) : Scalar.int n ≠ .str f.key := by simp
  have absent : Sample.countless.given .properties = .null := by
    by_contra given
    exact unknown _ _ (List.mem_singleton.mp (Fields.key_mem_of_given given)).symm
  refine ⟨.unsupported (List.mem_singleton.mpr rfl) (unknown _), absent, fun ds hds => ?_⟩
  obtain ⟨found, -⟩ := (decode_eq_invalid_iff (Value.unrolled_map _)).mp hds
  exact Sample.not_judgeable_countless (defects_succeeds_iff.mp ⟨ds, found⟩)

end Config

end WorkspaceLink
