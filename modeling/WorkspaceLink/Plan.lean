import WorkspaceLink.Config

/-!
# Plans

A plan lists the fields in which prior data and a wanted configuration differ, and says whether the
difference takes a new linked service.
-/

namespace WorkspaceLink

/-- A field that differs, with its prior and its wanted value. -/
structure Change where
  field : Field
  old : Value
  new : Value

/-- The difference between prior data and a wanted configuration. -/
structure Plan where
  changes : List Change
  requiresReplacement : Bool

namespace Plan

/-- A value as a field compares it: with the default filled in, and without case where case does not
matter. -/
def normalize (f : Field) (v : Value) : Value :=
  let v := if v.isNull then f.default else v
  match f.caseInsensitive, v with
  | true, .str s => .str (Unicode.lowerString s)
  | _, v => v

def changeOf (prior : Fields) (desired : Config) (f : Field) : Option Change :=
  let old := (prior.field? f.key).getD .null
  let new := desired.value f
  if (normalize f old).same (normalize f new) then none else some ⟨f, old, new⟩

/-- Compares prior data with a wanted configuration. Without prior data nothing is replaced. -/
def between (prior : Fields) (desired : Config) : Plan :=
  let changes := Field.configurable.filterMap (changeOf prior desired)
  ⟨changes, !prior.isEmpty && changes.any fun c => c.field.forcesNew⟩

/-- Compares any prior value, which has to be a mapping unless it counts as false. -/
def ofPrior (prior : Value) (desired : Config) : Except Fault Plan :=
  match Config.mappingOf prior with
  | .map fields => .ok (between fields desired)
  | _ => .error (.misfit .notMapping)

/-- Whether anything differs. -/
def hasChanges (p : Plan) : Bool :=
  !p.changes.isEmpty

/-- The keys of the fields that differ, in order. -/
def keys (p : Plan) : List String :=
  p.changes.map fun c => c.field.key

def text (p : Plan) : String :=
  "<Plan changes=" ++ (Value.list ((p.keys.mergeSort (· ≤ ·)).map .str)).literal ++ " replace=" ++
    (Value.bool p.requiresReplacement).literal ++ ">"

end Plan

end WorkspaceLink
