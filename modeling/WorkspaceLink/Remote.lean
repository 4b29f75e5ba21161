import WorkspaceLink.Config
import WorkspaceLink.LinkId
import WorkspaceLink.Snapshot

/-!
# Remote objects

What the service answers with, what it is sent, and the snapshot that an answer makes.
-/

namespace WorkspaceLink

/-- An object of the service. A missing id or linked resource reads as nothing; a missing name or
missing tags cannot be read. -/
structure Remote where
  id : Value
  name : Option Value
  resourceId : Value
  tags : Option Value

/-- What the service is sent to write. -/
structure Payload where
  resourceId : Option String
  tags : Tags

namespace Payload

/-- The payload for a linked resource and tags; the id is sent as a text. -/
def of (resourceId : Value) (tags : Tags) : Payload :=
  ⟨LinkId.part? resourceId, tags⟩

/-- The entry of the properties that holds the id of the linked resource. -/
def resourceOf (properties : Value) : Except Misfit Value :=
  match properties with
  | .map fs =>
    match Fields.field? fs resourceIdKey with
    | some v => .ok v
    | none => .error .missingKey
  | _ => .error .notIndexable

/-- The payload for properties and tags of any shape. -/
def expand [Host] (properties tags : Value) : Except Fault Payload := do
  let tags ← Fault.ofMisfit (Tags.expand tags)
  let resource ← Fault.ofMisfit (resourceOf properties)
  return of resource tags

def ofConfig (c : Config) : Payload :=
  of c.resourceId c.tags

end Payload

/-- The properties of a linked resource: nothing where there is no id. -/
def propertiesOf (resourceId : Value) : Fields :=
  if resourceId.isNull then [] else [(.str resourceIdKey, resourceId)]

namespace Remote

/-- The properties of a remote object, if there is one. -/
def properties : Option Remote → Fields
  | none => []
  | some r => propertiesOf r.resourceId

/-- The id of a remote object, nothing if there is no object. -/
def idOf (r : Option Remote) : Value :=
  (r.map Remote.id).getD .null

/-- The data of a linked service as it was found where an id leads. -/
def data (link : LinkId) (name resourceId : Value) (tags : Fields) : Fields :=
  [(.str Field.reportedName.key, name),
    (.str Field.group.key, .str link.group),
    (.str Field.workspace.key, .str link.workspace),
    (.str Field.name.key, .str link.name),
    (.str Field.properties.key, .map (propertiesOf resourceId)),
    (.str Field.tags.key, .map tags)]

/-- The snapshot of a remote object that was found where an id leads. -/
def toSnapshot (r : Remote) (link : LinkId) : Except Misfit Snapshot :=
  match r.name, r.tags with
  | some name, some tags => do
    return .present r.id (data link name r.resourceId (← Tags.flatten tags))
  | _, _ => .error .missingAttribute

end Remote

end WorkspaceLink
