import Mathlib.Logic.Function.Basic
import WorkspaceLink.Proofs.Decoding
import WorkspaceLink.Proofs.Mapping

/-!
# Other names for knots

The names by which values hold themselves stand for nothing else. With other names, told apart as
before, a value has the same literal, opens in the same way and breaks the same rules.
-/

namespace WorkspaceLink

variable {f : Nat → Nat}

/-! ## Renaming -/

namespace Value

mutual
/-- A value with other names for its knots. -/
def rename (f : Nat → Nat) : Value → Value
  | .scalar s => .scalar s
  | .list xs => .list (renameList f xs)
  | .map fs => .map (renameFields f fs)
  | .pair a b => .pair (rename f a) (rename f b)
  | .set ms => .set ms
  | .knot n v => .knot (f n) (rename f v)
  | .again n => .again (f n)

def renameList (f : Nat → Nat) : List Value → List Value
  | [] => []
  | x :: xs => rename f x :: renameList f xs

/-- A mapping with other names for the knots in its values. -/
def renameFields (f : Nat → Nat) : List (Scalar × Value) → List (Scalar × Value)
  | [] => []
  | (k, v) :: rest => (k, rename f v) :: renameFields f rest
end

@[simp] theorem rename_scalar (s : Scalar) : rename f (.scalar s) = .scalar s := by rw [rename]

@[simp] theorem rename_map (fs : Fields) : rename f (.map fs) = .map (renameFields f fs) := by
  rw [rename]

theorem renameFields_eq_mapValues (f : Nat → Nat) (fs : Fields) :
    renameFields f fs = Fields.mapValues (rename f) fs := by
  induction fs with
  | nil => rw [renameFields]; rfl
  | cons e rest ih =>
      obtain ⟨k, v⟩ := e
      rw [renameFields, ih]
      rfl

mutual
theorem rename_id (v : Value) : v.rename id = v := by
  match v with
  | .scalar s | .set ms => rw [rename]
  | .again n => rw [rename]; rfl
  | .list xs => rw [rename, renameList_id xs]
  | .map fs => rw [rename, renameFields_id fs]
  | .pair a b => rw [rename, rename_id a, rename_id b]
  | .knot n v => rw [rename, rename_id v]; rfl

theorem renameList_id (xs : List Value) : renameList id xs = xs := by
  match xs with
  | [] => rw [renameList]
  | x :: xs => rw [renameList, rename_id x, renameList_id xs]

theorem renameFields_id (fs : Fields) : renameFields id fs = fs := by
  match fs with
  | [] => rw [renameFields]
  | (k, v) :: rest => rw [renameFields, rename_id v, renameFields_id rest]
end

/-- Two values are the same but for the names of their knots. -/
def Renamed (v w : Value) : Prop := ∃ f, Function.Injective f ∧ w = v.rename f

theorem Renamed.refl (v : Value) : v.Renamed v :=
  ⟨id, Function.injective_id, (rename_id v).symm⟩

theorem Renamed.rename (hf : Function.Injective f) (v : Value) : v.Renamed (v.rename f) :=
  ⟨f, hf, rfl⟩

theorem rename_eq_scalar_iff {v : Value} {s : Scalar} :
    v.rename f = .scalar s ↔ v = .scalar s := by
  cases v <;> simp [rename]

@[simp] theorem isNull_rename (v : Value) : (v.rename f).isNull = v.isNull := by
  rw [Bool.eq_iff_iff, isNull_iff, isNull_iff]
  exact rename_eq_scalar_iff

@[simp] theorem same_str_rename (v : Value) (s : String) :
    (v.rename f).same (.str s) = v.same (.str s) := by
  rw [Bool.eq_iff_iff, same_str_iff, same_str_iff]
  exact rename_eq_scalar_iff

theorem isEmpty_renameList (xs : List Value) : (renameList f xs).isEmpty = xs.isEmpty := by
  cases xs <;> simp [renameList]

theorem isEmpty_renameFields (fs : Fields) : (renameFields f fs).isEmpty = fs.isEmpty := by
  rw [renameFields_eq_mapValues, Fields.mapValues, List.isEmpty_map]

@[simp] theorem truthy_rename (v : Value) : (v.rename f).truthy = v.truthy := by
  cases v <;> simp [rename, truthy, isEmpty_renameList, isEmpty_renameFields]

theorem outline_rename (v : Value) : (v.rename f).outline = v.outline := by
  cases v <;> simp [rename, outline]

/-! ## Literals -/

theorem lookup_rename (hf : Function.Injective f) (around : List (Nat × String)) (n : Nat) :
    (around.map fun e => (f e.1, e.2)).lookup (f n) = around.lookup n := by
  induction around with
  | nil => rfl
  | cons e rest ih =>
      have key : (f n == f e.1) = (n == e.1) := by simp [hf.eq_iff]
      rw [List.map_cons, List.lookup_cons, List.lookup_cons, key, ih]

mutual
theorem literalIn_rename (hf : Function.Injective f) (around : List (Nat × String)) (v : Value) :
    literalIn (around.map fun e => (f e.1, e.2)) (v.rename f) = literalIn around v := by
  match v with
  | .scalar s => rw [rename, literalIn, literalIn]
  | .list xs => rw [rename, literalIn, literalIn, literals_rename hf around xs]
  | .map fs => rw [rename, literalIn, literalIn, fieldLiterals_rename hf around fs]
  | .pair a b =>
      rw [rename, literalIn, literalIn, literalIn_rename hf around a, literalIn_rename hf around b]
  | .set ms => rw [rename]; cases ms <;> simp only [literalIn]
  | .knot n v =>
      -- the names of the knots around are those of before, told apart by the renaming
      have inner := literalIn_rename hf ((n, v.outline) :: around) v
      rw [List.map_cons] at inner
      rw [rename, literalIn, literalIn, lookup_rename hf, outline_rename, inner]
  | .again n => rw [rename, literalIn, literalIn, lookup_rename hf]

theorem literals_rename (hf : Function.Injective f) (around : List (Nat × String))
    (xs : List Value) :
    literals (around.map fun e => (f e.1, e.2)) (renameList f xs) = literals around xs := by
  match xs with
  | [] => rw [renameList, literals, literals]
  | x :: xs =>
      rw [renameList, literals, literals, literalIn_rename hf around x,
        literals_rename hf around xs]

theorem fieldLiterals_rename (hf : Function.Injective f) (around : List (Nat × String))
    (fs : Fields) : fieldLiterals (around.map fun e => (f e.1, e.2)) (renameFields f fs) =
      fieldLiterals around fs := by
  match fs with
  | [] => rw [renameFields, fieldLiterals, fieldLiterals]
  | (k, v) :: rest =>
      rw [renameFields, fieldLiterals, fieldLiterals, literalIn_rename hf around v,
        fieldLiterals_rename hf around rest]
end

theorem literal_rename (hf : Function.Injective f) (v : Value) : (v.rename f).literal = v.literal :=
  literalIn_rename hf [] v

theorem display_rename (hf : Function.Injective f) (v : Value) :
    (v.rename f).display = v.display := by
  have literal := literal_rename hf v
  cases v with
  | scalar s | set ms => rw [rename]
  | _ =>
      rw [rename] at literal ⊢
      exact literal

mutual
theorem visitsIn_rename (hf : Function.Injective f) (around : List Nat) (level : Nat)
    (v : Value) : visitsIn (around.map f) level (v.rename f) = visitsIn around level v := by
  match v with
  | .scalar s => rw [rename, visitsIn, visitsIn]
  | .list xs => rw [rename, visitsIn, visitsIn, listVisits_rename hf around _ xs]
  | .map fs => rw [rename, visitsIn, visitsIn, fieldVisits_rename hf around _ fs]
  | .pair a b =>
      rw [rename, visitsIn, visitsIn, visitsIn_rename hf around _ a, visitsIn_rename hf around _ b]
  | .set ms => rw [rename, visitsIn, visitsIn]
  | .knot n v =>
      have inner := visitsIn_rename hf (n :: around) level v
      rw [List.map_cons] at inner
      simp only [rename, visitsIn, List.mem_map_of_injective hf, inner]
  | .again n => rw [rename, visitsIn, visitsIn]

theorem listVisits_rename (hf : Function.Injective f) (around : List Nat) (level : Nat)
    (xs : List Value) :
    listVisits (around.map f) level (renameList f xs) = listVisits around level xs := by
  match xs with
  | [] => rw [renameList, listVisits, listVisits]
  | x :: xs =>
      rw [renameList, listVisits, listVisits, visitsIn_rename hf around level x,
        listVisits_rename hf around level xs]

theorem fieldVisits_rename (hf : Function.Injective f) (around : List Nat) (level : Nat)
    (fs : Fields) :
    fieldVisits (around.map f) level (renameFields f fs) = fieldVisits around level fs := by
  match fs with
  | [] => rw [renameFields, fieldVisits, fieldVisits]
  | (k, v) :: rest =>
      rw [renameFields, fieldVisits, fieldVisits, visitsIn_rename hf around level v,
        fieldVisits_rename hf around level rest]
end

theorem visits_rename (hf : Function.Injective f) (v : Value) : (v.rename f).visits = v.visits := by
  have inner := visitsIn_rename hf [] 0 v
  cases v with
  | scalar s | set ms => rw [rename]
  | _ =>
      rw [rename] at inner ⊢
      exact inner

theorem shown_rename (hf : Function.Injective f) (room : Nat) (v : Value) :
    (v.rename f).shown room = v.shown room := by
  rw [shown, shown, obstacle?, obstacle?, visits_rename hf, display_rename hf]

/-! ## Opening knots -/

mutual
theorem replace_rename (hf : Function.Injective f) (n : Nat) (w v : Value) :
    replace (f n) (w.rename f) (v.rename f) = (replace n w v).rename f := by
  match v with
  | .scalar s => simp only [rename, replace]
  | .list xs => simp only [rename, replace, replaceList_rename hf n w xs]
  | .map fs => simp only [rename, replace, replaceFields_rename hf n w fs]
  | .pair a b => simp only [rename, replace, replace_rename hf n w a, replace_rename hf n w b]
  | .set ms => simp only [rename, replace]
  | .knot m v =>
      simp only [rename, replace, hf.eq_iff]
      split
      · rfl
      · rw [replace_rename hf n w v]
  | .again m =>
      simp only [rename, replace, hf.eq_iff]
      split
      · rfl
      · rw [rename]

theorem replaceList_rename (hf : Function.Injective f) (n : Nat) (w : Value) (xs : List Value) :
    replaceList (f n) (w.rename f) (renameList f xs) = renameList f (replaceList n w xs) := by
  match xs with
  | [] => simp only [renameList, replaceList]
  | x :: xs =>
      simp only [renameList, replaceList, replace_rename hf n w x, replaceList_rename hf n w xs]

theorem replaceFields_rename (hf : Function.Injective f) (n : Nat) (w : Value) (fs : Fields) :
    replaceFields (f n) (w.rename f) (renameFields f fs) =
      renameFields f (replaceFields n w fs) := by
  match fs with
  | [] => simp only [renameFields, replaceFields]
  | (k, v) :: rest =>
      simp only [renameFields, replaceFields, replace_rename hf n w v,
        replaceFields_rename hf n w rest]
end

theorem unrolled_rename (hf : Function.Injective f) (v : Value) :
    (v.rename f).unrolled = v.unrolled.rename f := by
  cases v with
  | knot n v =>
      have opened := replace_rename hf n (.knot n v) v
      rw [rename] at opened
      rw [rename, unrolled, opened]
      rfl
  | _ => simp only [rename, unrolled]

end Value

/-! ## Mappings -/

namespace Fields

theorem get?_mapValues (g : Value → Value) (fs : Fields) (k : Scalar) :
    (fs.mapValues g).get? k = (fs.get? k).map g := by
  rw [get?, get?, mapValues, List.find?_map, Option.map_map, Option.map_map]
  rfl

theorem keys_mapValues (g : Value → Value) (fs : Fields) : (fs.mapValues g).keys = fs.keys := by
  rw [keys, mapValues, List.map_map]
  rfl

theorem getD_get?_mapValues (fs : Fields) (k : Scalar) :
    ((fs.mapValues (Value.rename f)).get? k).getD .null = ((fs.get? k).getD .null).rename f := by
  rw [get?_mapValues]
  cases fs.get? k <;> simp

end Fields

/-! ## Rules -/

namespace Rule

variable {key : String}

theorem groupName_rename (v : Value) : groupName key (v.rename f) = groupName key v := by
  cases v with
  | scalar s => rw [Value.rename_scalar]
  | _ => simp only [Value.rename, groupName]

theorem workspaceName_rename (v : Value) :
    workspaceName key (v.rename f) = workspaceName key v := by
  cases v with
  | scalar s => rw [Value.rename_scalar]
  | _ => simp only [Value.rename, workspaceName]

/-- A name that is not allowed is shown as it is, so only what is told of it stays the same. -/
theorem messages_serviceName_rename [Host] (hf : Function.Injective f) (v : Value) :
    (serviceName key (v.rename f)).map (List.map Defect.message) =
      (serviceName key v).map (List.map Defect.message) := by
  have told : (Defect.notAllowed key (v.rename f)).message = (Defect.notAllowed key v).message :=
    congrArg ("expected " ++ key ++ " to be one of " ++
      (Value.list (allowedNames.map .str)).display ++ ", got " ++ ·) (Value.display_rename hf v)
  simp only [serviceName, Value.same_str_rename, Value.shown_rename hf]
  by_cases allowed : (allowedNames.any fun n => v.same (.str n)) = true
  · rw [if_pos allowed, if_pos allowed]
  · rw [if_neg allowed, if_neg allowed]
    cases v.shown Host.nameRoom with
    | error m => simp only [bind, Except.bind, Except.map]
    | ok text =>
        simp only [bind, Except.bind, pure, Except.pure, Except.map, List.map_cons, List.map_nil,
          told]

theorem tag_rename [Host] (hf : Function.Injective f) (k : Scalar) (v : Value) :
    tag k (v.rename f) = tag k v := by
  simp only [tag, Value.shown_rename hf, Value.isNull_rename]

theorem tags_rename [Host] (hf : Function.Injective f) (v : Value) :
    tags key (v.rename f) = tags key v := by
  rw [tags, tags, Value.isNull_rename, Value.unrolled_rename hf]
  cases v.unrolled with
  | map fs =>
      rw [Value.rename_map, Value.renameFields_eq_mapValues]
      simp only [Fields.mapValues, List.mapM_map, List.length_map, Function.comp_def,
        tag_rename hf]
  | _ => simp only [Value.rename]

theorem properties_rename (hf : Function.Injective f) (v : Value) :
    properties key (v.rename f) = properties key v := by
  rw [properties, properties, Value.unrolled_rename hf]
  cases v.unrolled with
  | map fs =>
      rw [Value.rename_map, Value.renameFields_eq_mapValues]
      simp only [Fields.keys_mapValues, Fields.field?, Fields.getD_get?_mapValues]
      cases (Fields.get? fs (.str resourceIdKey)).getD .null with
      | scalar s => rw [Value.rename_scalar]
      | _ => simp only [Value.rename, resourceId]
  | _ => simp only [Value.rename]

end Rule

theorem Tags.expand_rename [Host] (hf : Function.Injective f) (v : Value) :
    expand (v.rename f) = expand v := by
  have text_rename (v : Value) : text (v.rename f) = text v := by
    rw [text, text, Value.isNull_rename, Value.shown_rename hf]
  rw [expand, expand, Value.truthy_rename, Value.unrolled_rename hf]
  cases v.unrolled with
  | map fs =>
      rw [Value.rename_map, Value.renameFields_eq_mapValues]
      simp only [Fields.mapValues, List.mapM_map, Function.comp_def, text_rename]
  | _ => simp only [Value.rename]

/-- What a rule says of a value does not depend on the names in it. -/
theorem Field.messages_check_rename [Host] (hf : Function.Injective f) (k : Field) (v : Value) :
    (k.check (v.rename f)).map (List.map Defect.message) =
      (k.check v).map (List.map Defect.message) := by
  cases k with
  | group => simp only [check, rule?, Rule.groupName_rename]
  | workspace => simp only [check, rule?, Rule.workspaceName_rename]
  | name => exact Rule.messages_serviceName_rename hf v
  | properties => simp only [check, rule?, Rule.properties_rename hf]
  | reportedName => rfl
  | tags => simp only [check, rule?, Rule.tags_rename hf]

end WorkspaceLink
