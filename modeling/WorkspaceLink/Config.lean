import WorkspaceLink.Arguments
import WorkspaceLink.Fault
import WorkspaceLink.Schema
import WorkspaceLink.Tags

/-!
# Configurations

The wanted state of a linked service. `Config.decode` reads it from a mapping and reports all its
defects together: first those of the keys, in the order of the mapping, then field by field.
-/

namespace WorkspaceLink

/-- The wanted state of a linked service. -/
structure Config where
  group : Value
  workspace : Value
  name : Value
  resourceId : Value
  tags : Tags

namespace Config

/-- A configuration of parts that are not checked; only the tags have to be a mapping. -/
def ofParts [Host] (group workspace name resourceId tags : Value) : Except Fault Config := do
  let tags ← Fault.ofMisfit (Tags.expand tags)
  return ⟨group, workspace, name, resourceId, tags⟩

/-- The arguments that make a configuration without any check. -/
def signature : Signature :=
  [(Field.group.key, none), (Field.workspace.key, none), (resourceIdKey, none),
    (Field.name.key, some Field.name.default), (Field.tags.key, some .null)]

/-- A configuration of named arguments, which are not checked. -/
def ofArguments [Host] (given : Fields) : Except Fault Config := do
  let a ← Fault.ofMisfit (signature.bind given)
  ofParts (a.value Field.group.key) (a.value Field.workspace.key) (a.value Field.name.key)
    (a.value resourceIdKey) (a.value Field.tags.key)

/-- Looks up a key that was met in a value. -/
def lookUp (raw : Value) (key : Scalar) : Except Misfit Value :=
  match raw.unrolled with
  | .map fs => .ok ((Fields.get? fs key).getD .null)
  | _ => .error .notIndexable

def keyDefects (raw : Value) : Value → Except Misfit (List Defect)
  | .scalar key =>
    match Field.ofKey? key with
    | none => do
      let _ ← key.shown
      return [.unsupported key]
    | some f =>
      if f.computed then do
        let v ← lookUp raw key
        return if v.isNull then [] else [.computed f.key]
      else .ok []
  | _ => .error .unhashable

/-- The value of a field that can be used: the one given or the default. -/
def valueOf (fields : Fields) (f : Field) : Value :=
  let given := (fields.field? f.key).getD .null
  if given.isNull then f.default else given

def fieldDefects [Host] (fields : Fields) (f : Field) : Except Misfit (List Defect) :=
  let given := (fields.field? f.key).getD .null
  if given.isNull && f.required then .ok [.required f.key] else f.check (valueOf fields f)

/-- The mapping of a value; what counts as false is empty. -/
def mappingOf (raw : Value) : Value :=
  if raw.truthy then raw else .map []

/-- The id of the linked resource in the properties of a mapping. -/
def linkedResource (fields : Fields) : Value :=
  match ((fields.field? Field.properties.key).getD .null).unrolled with
  | .map ps => (Fields.field? ps resourceIdKey).getD .null
  | _ => .null

def defects [Host] (fields : Fields) : Except Misfit (List Defect) := do
  let ofKeys ← fields.keys.mapM fun k => keyDefects (.map fields) (.scalar k)
  let ofFields ← Field.configurable.mapM (fieldDefects fields)
  return ofKeys.flatten ++ ofFields.flatten

/-- Reads a configuration from a mapping. -/
def decodeFields [Host] (fields : Fields) : Except Fault Config := do
  let ds ← Fault.ofMisfit (defects fields)
  if ds.isEmpty then
    ofParts (valueOf fields .group) (valueOf fields .workspace) (valueOf fields .name)
      (linkedResource fields) (valueOf fields .tags)
  else throw (.invalidConfig ds)

/-- Reads a configuration from any value. One that is not a mapping is gone through before it is
found not to have entries. -/
def decode [Host] (raw : Value) : Except Fault Config :=
  match (mappingOf raw).unrolled with
  | .map fields => decodeFields fields
  | v =>
    match v.elements? with
    | none => .error (.misfit .notIterable)
    | some keys => do
      let _ ← Fault.ofMisfit (keys.mapM (keyDefects v))
      throw (.misfit .notMapping)

/-- The properties of the configured linked service. -/
def properties (c : Config) : Value :=
  .record [(resourceIdKey, c.resourceId)]

def value (c : Config) : Field → Value
  | .group => c.group
  | .workspace => c.workspace
  | .name => c.name
  | .properties => c.properties
  | .reportedName => .null
  | .tags => c.tags.toValue

/-- The fields of a configuration as a mapping. -/
def toValue (c : Config) : Value :=
  .record (Field.configurable.map fun f => (f.key, c.value f))

/-- Whether two configurations want the same. -/
def same (a b : Config) : Bool :=
  a.toValue.same b.toValue

def text (c : Config) : String :=
  "<LinkedServiceConfig " ++ c.group.display ++ "/" ++ c.workspace.display ++ "/" ++
    c.name.display ++ ">"

/-- Where the linked service is wanted. -/
def address (c : Config) : Address :=
  ⟨c.group, c.workspace, c.name⟩

end Config

end WorkspaceLink
