import WorkspaceLink.Command
import WorkspaceLink.ConfigFile
import WorkspaceLink.Manager

/-!
# Running commands

What each command does with its arguments. Arguments that are given prevail over a configuration
file and over what the service has.
-/

namespace WorkspaceLink

/-- What commands work with: a manager, the files at hand and the subscription. -/
structure Workbench (σ : Type) where
  manager : Manager σ
  files : Files
  subscription : String

/-- The parts of a configuration that are given as arguments; nothing stands for one that is not. -/
structure Overrides where
  group : Value
  workspace : Value
  name : Value
  tags : Value
  resourceId : Value

namespace Overrides

def fields (o : Overrides) : Fields :=
  ([(Field.group, o.group), (.workspace, o.workspace), (.name, o.name), (.tags, o.tags)].filter
    fun f => !f.2.isNull).map fun f => (.str f.1.key, f.2)

/-- Fields with what is given put over them; the linked resource replaces all properties. -/
def onto (o : Overrides) (raw : Fields) : Fields :=
  let raw := raw.insertAll o.fields
  if o.resourceId.isNull then raw
  else raw.insert (.str Field.properties.key) (.record [(resourceIdKey, o.resourceId)])

/-- A mapping with what is given put over it, also where it holds itself. -/
def ontoRoot (o : Overrides) (raw : RootMap) : RootMap :=
  { raw with fields := o.onto raw.fields }

/-- The parts among the arguments of a command. -/
def ofArguments (a : Arguments) : Overrides where
  group := a.value Field.group.key
  workspace := a.value Field.workspace.key
  name := a.value Field.name.key
  tags := a.value Field.tags.key
  resourceId := a.value resourceIdKey

end Overrides

namespace Workbench

variable {σ : Type}

/-- The mapping in a configuration file; without a file it is empty. -/
def fileFields [Host] (w : Workbench σ) (file : Value) : Except Fault RootMap :=
  if file.truthy then
    match file with
    | .str path => ConfigFile.load w.files path
    | _ => .error (.misfit .notText)
  else .ok (.ofFields [])

/-- Creates a linked service from a file and arguments. -/
def create [Host] (w : Workbench σ) (o : Overrides) (file : Value) : Action σ Snapshot := do
  let raw ← .ofExcept (w.fileFields file)
  let config ← .ofExcept (Config.decodeFields (o.ontoRoot raw).unrolled)
  .log .info ("Creating " ++ config.text)
  w.manager.createOrUpdate config .absent

/-- The id at an address under the subscription. -/
def idAt (w : Workbench σ) (a : Address) : Except Fault String :=
  LinkId.build (.str w.subscription) a.group a.workspace a.name

/-- Reads the linked service at an address, which has to be there. -/
def read (w : Workbench σ) (a : Address) : Action σ Snapshot := do
  let id ← .ofExcept (w.idAt a)
  let s ← w.manager.read (.str id)
  if s.isPresent then pure s else .fail (.notFound a)

/-- The fields of data that can be given. -/
def configurable (data : Fields) : Fields :=
  data.filter fun f => (Field.ofKey? f.1).any fun field => !field.computed

/-- Updates the linked resource and the tags of a linked service. -/
def update [Host] (w : Workbench σ) (a : Address) (resourceId tags : Value) :
    Action σ Snapshot := do
  let s ← w.read a
  let o : Overrides := ⟨.null, .null, .null, tags, resourceId⟩
  let config ← .ofExcept (Config.decodeFields (o.onto (configurable s.data)))
  w.manager.apply config s

/-- Deletes a linked service. -/
def delete (w : Workbench σ) (a : Address) : Action σ Unit := do
  let id ← .ofExcept (w.idAt a)
  w.manager.delete (.str id)

/-- Imports the linked service with an id, which has to be there. -/
def importExisting (w : Workbench σ) (id : Value) : Action σ Snapshot := do
  let s ← w.manager.importExisting id
  if s.isPresent then pure s else .fail (.nothingToImport id)

end Workbench

namespace Command

variable {σ : Type}

/-- The address among the arguments of a command. -/
def addressOf (a : Arguments) : Address :=
  ⟨a.value Field.group.key, a.value Field.workspace.key, a.value Field.name.key⟩

/-- Runs a command with named arguments. -/
def run [Host] (w : Workbench σ) (c : Command) (given : Fields) : Action σ Value := do
  let a ← .ofExcept (Fault.ofMisfit (c.signature.bind given))
  let address := addressOf a
  let shown (s : Snapshot) : Value := .map s.toFields
  match c with
  | .create => shown <$> w.create (.ofArguments a) (a.value Parameter.configFile.name)
  | .update => shown <$> w.update address (a.value resourceIdKey) (a.value Field.tags.key)
  | .read => shown <$> w.read address
  | .delete => (fun _ => .null) <$> w.delete address
  | .list => (fun ss => .list (ss.map shown)) <$> w.manager.list address.group address.workspace
  | .importExisting => shown <$> w.importExisting (a.value Parameter.id.name)

end Command

end WorkspaceLink
