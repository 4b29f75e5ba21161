import WorkspaceLink.Proofs.Operations
import WorkspaceLink.Proofs.Renaming
import WorkspaceLink.Proofs.Report

/-!
# Mappings that are decoded alike

Decoding looks at a mapping in two ways only: at the keys that are of no field, in their order, and
at the value of each field. Mappings that match in these are decoded to the same configuration, or
rejected with the same messages. Other names for the knots in their values do not matter.
-/

namespace WorkspaceLink

/-! ## Ends of which the same is told -/

/-- Two computations end alike: with the same result or fault, or with defects of which the same is
told. -/
inductive Fault.Alike {α : Type} : Except Fault α → Except Fault α → Prop
  | same (x : Except Fault α) : Alike x x
  | defects {ds es : List Defect} : ds.map Defect.message = es.map Defect.message →
      Alike (.error (.invalidConfig ds)) (.error (.invalidConfig es))

theorem Fault.Alike.message {α : Type} {d e : Fault}
    (h : Alike (.error d : Except Fault α) (.error e)) : d.message = e.message := by
  cases h with
  | same => rfl
  | defects told =>
      exact congrArg (fun texts => "Invalid linked service configuration:\n  " ++
        "\n  ".intercalate texts) told

/-- Findings one after another; the first that cannot be told ends them. -/
def Findings.both {α : Type} (x y : Except Misfit (List α)) : Except Misfit (List α) := do
  let xs ← x
  let ys ← y
  return xs ++ ys

/-- What is told of findings. -/
def Findings.told (x : Except Misfit (List Defect)) : Except Misfit (List String) :=
  x.map (List.map Defect.message)

namespace Findings

variable {α : Type}

theorem told_both (x y : Except Misfit (List Defect)) :
    told (both x y) = both (told x) (told y) := by
  cases x with
  | error m => rfl
  | ok xs =>
      cases y with
      | error m => rfl
      | ok ys => exact congrArg Except.ok (List.map_append ..)

theorem flatten_mapM_cons (g : α → Except Misfit (List Defect)) (x : α) (xs : List α) :
    ((x :: xs).mapM g).map List.flatten = both (g x) ((xs.mapM g).map List.flatten) := by
  rw [List.mapM_cons]
  cases g x with
  | error m => rfl
  | ok ys => cases xs.mapM g <;> rfl

/-- Steps that find nothing can be left out. -/
theorem flatten_mapM_filter {g : α → Except Misfit (List Defect)} {p : α → Bool}
    (h : ∀ x, p x = false → g x = .ok []) (xs : List α) :
    (xs.mapM g).map List.flatten = ((xs.filter p).mapM g).map List.flatten := by
  induction xs with
  | nil => rfl
  | cons x xs ih =>
      rw [flatten_mapM_cons, ih]
      cases hp : p x with
      | true => rw [List.filter_cons_of_pos hp, flatten_mapM_cons]
      | false =>
          rw [List.filter_cons_of_neg (by simp [hp]), h x hp]
          cases ((xs.filter p).mapM g).map List.flatten <;> rfl

theorem told_flatten_mapM {g h : α → Except Misfit (List Defect)}
    (same : ∀ x, told (g x) = told (h x)) (xs : List α) :
    told ((xs.mapM g).map List.flatten) = told ((xs.mapM h).map List.flatten) := by
  induction xs with
  | nil => rfl
  | cons x xs ih => rw [flatten_mapM_cons, flatten_mapM_cons, told_both, told_both, same, ih]

end Findings

/-! ## Mappings that are decoded alike -/

/-- Whether a key is of no field that can be given. -/
def Config.isForeign (k : Scalar) : Bool :=
  !(Field.ofKey? k).any fun f => !f.computed

/-- Two mappings have the same foreign keys, in the same order, and for every field the same value
but for the names of knots. -/
structure Fields.Matched (fs gs : Fields) : Prop where
  foreign : gs.keys.filter Config.isForeign = fs.keys.filter Config.isForeign
  given : ∀ k, (fs.given k).Renamed (gs.given k)

namespace Config

variable {fs gs : Fields}

theorem keyDefects_of_not_foreign {raw : Value} {k : Scalar} (h : isForeign k = false) :
    keyDefects raw (.scalar k) = .ok [] := by
  cases known : Field.ofKey? k with
  | none => simp [isForeign, known] at h
  | some g =>
      have given : g.computed = false := by simpa [isForeign, known] using h
      simp [keyDefects, known, given]

theorem keyDefects_matched (h : fs.Matched gs) (k : Scalar) :
    keyDefects (.map gs) (.scalar k) = keyDefects (.map fs) (.scalar k) := by
  cases known : Field.ofKey? k with
  | none => simp only [keyDefects, known]
  | some g =>
      obtain rfl := Field.ofKey?_eq_some_iff.mp known
      have looked (fields : Fields) :
          lookUp (.map fields) (.str g.key) = .ok (fields.given g) := rfl
      obtain ⟨f, -, given⟩ := h.given g
      simp only [keyDefects, known, looked, given, bind, Except.bind, Value.isNull_rename]

theorem valueOf_matched (h : fs.Matched gs) (k : Field) :
    (valueOf fs k).Renamed (valueOf gs k) := by
  obtain ⟨f, hf, given⟩ := h.given k
  have default : k.default.rename f = k.default := by
    cases k <;> simp [Field.default, Value.renameFields]
  refine ⟨f, hf, ?_⟩
  rw [valueOf_eq_filled, valueOf_eq_filled, Field.filled, Field.filled, given,
    Value.isNull_rename]
  split
  · exact default.symm
  · rfl

theorem told_fieldDefects_matched [Host] (h : fs.Matched gs) (k : Field) :
    Findings.told (fieldDefects gs k) = Findings.told (fieldDefects fs k) := by
  obtain ⟨f, -, given⟩ := h.given k
  obtain ⟨g, hg, value⟩ := valueOf_matched h k
  have looked (fields : Fields) : (fields.field? k.key).getD .null = fields.given k := rfl
  simp only [fieldDefects, looked, given, Value.isNull_rename]
  split
  · rfl
  · rw [value]
    exact Field.messages_check_rename hg k _

theorem defects_eq_both [Host] (fields : Fields) : defects fields =
    Findings.both
      (((fields.keys.filter isForeign).mapM fun k => keyDefects (.map fields) (.scalar k)).map
        List.flatten)
      ((Field.configurable.mapM (fieldDefects fields)).map List.flatten) := by
  rw [← Findings.flatten_mapM_filter fun k => keyDefects_of_not_foreign, defects]
  cases fields.keys.mapM fun k => keyDefects (.map fields) (.scalar k) with
  | error m => rfl
  | ok ofKeys => cases Field.configurable.mapM (fieldDefects fields) <;> rfl

theorem told_defects_matched [Host] (h : fs.Matched gs) :
    Findings.told (defects gs) = Findings.told (defects fs) := by
  rw [defects_eq_both, defects_eq_both, Findings.told_both, Findings.told_both, h.foreign,
    Findings.told_flatten_mapM (told_fieldDefects_matched h)]
  simp only [keyDefects_matched h]

theorem linkedResource_matched (h : fs.Matched gs) :
    (linkedResource fs).Renamed (linkedResource gs) := by
  have looked (fields : Fields) :
      (fields.field? Field.properties.key).getD .null = fields.given .properties := rfl
  obtain ⟨f, hf, given⟩ := h.given .properties
  refine ⟨f, hf, ?_⟩
  rw [linkedResource, linkedResource, looked, looked, given, Value.unrolled_rename hf]
  cases (fs.given .properties).unrolled with
  | map ps =>
      rw [Value.rename_map, Value.renameFields_eq_mapValues]
      exact Fields.getD_get?_mapValues ps _
  | _ => simp only [Value.rename]

/-- Mappings without defects that match are decoded to the same configuration: the parts of one are
texts, in which there are no names. -/
theorem decodeFields_matched_sound [Host] (h : fs.Matched gs)
    (sound : defects fs = .ok []) (sound' : defects gs = .ok []) :
    decodeFields gs = decodeFields fs := by
  obtain ⟨tags, expanded, decoded⟩ := decodeFields_of_sound sound
  obtain ⟨tags', expanded', decoded'⟩ := decodeFields_of_sound sound'
  obtain ⟨g, w, n⟩ := (addressable_of_decodeFields decoded).texts
  have resource := (addressable_of_decodeFields decoded).resource
  have text {v w : Value} {s : String} (same : v.Renamed w) (hv : v = .str s) : w = v := by
    obtain ⟨f, -, rfl⟩ := same
    rw [hv, Value.rename_scalar]
  obtain ⟨f, hf, renamed⟩ := valueOf_matched h .tags
  rw [renamed, Tags.expand_rename hf, expanded] at expanded'
  obtain rfl := Except.ok.inj expanded'
  rw [decoded, decoded', text (valueOf_matched h .group) g, text (valueOf_matched h .workspace) w,
    text (valueOf_matched h .name) n, text (linkedResource_matched h) resource]

theorem decodeFields_matched [Host] (h : fs.Matched gs) :
    Fault.Alike (decodeFields fs) (decodeFields gs) := by
  have told := told_defects_matched h
  cases hd : defects fs with
  | error m =>
      have stopped : defects gs = .error m := by
        rw [hd] at told
        cases hg : defects gs with
        | error m' => rw [hg] at told; exact congrArg _ (Except.error.inj told)
        | ok es => rw [hg] at told; cases told
      rw [decodeFields, decodeFields, hd, stopped]
      exact .same _
  | ok ds =>
      obtain ⟨es, hg, messages⟩ : ∃ es, defects gs = .ok es ∧
          ds.map Defect.message = es.map Defect.message := by
        rw [hd] at told
        cases hg : defects gs with
        | error m' => rw [hg] at told; cases told
        | ok es => rw [hg] at told; exact ⟨es, rfl, (Except.ok.inj told).symm⟩
      by_cases none : ds = []
      · subst none
        obtain rfl : es = [] := List.map_eq_nil_iff.mp messages.symm
        rw [decodeFields_matched_sound h hd hg]
        exact .same _
      · have some : es ≠ [] := by
          rintro rfl
          exact none (List.map_eq_nil_iff.mp messages)
        rw [decodeFields_of_defects hd none, decodeFields_of_defects hg some]
        exact .defects messages

end Config

end WorkspaceLink
