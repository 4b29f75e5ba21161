import WorkspaceLink.Arguments
import WorkspaceLink.Fault
import WorkspaceLink.Schema

/-!
# Commands

The commands on linked services: their names, the arguments they take, and how their results are
shown.
-/

namespace WorkspaceLink

inductive Command where
  | create
  | update
  | read
  | delete
  | list
  | importExisting
  deriving DecidableEq

/-- An argument of a command: the options that give it, its default unless it has to be given, the
values it may have, the part of an id that it completes, and whether it takes several values. -/
structure Parameter where
  name : String
  options : List String
  default : Option Value
  choices : Option (List String)
  idPart : Option String
  takesSeveral : Bool

namespace Parameter

def group (default : Option Value) : Parameter :=
  ⟨Field.group.key, ["--resource-group", "-g"], default, none, some "resource_group", false⟩

def workspace (default : Option Value) (idPart : Option String) : Parameter :=
  ⟨Field.workspace.key, ["--workspace-name", "-w"], default, none, idPart, false⟩

def service (default : Option Value) (idPart : Option String) : Parameter :=
  ⟨Field.name.key, ["--name", "-n"], default, some allowedNames, idPart, false⟩

def resource : Parameter :=
  ⟨resourceIdKey, ["--resource-id"], some .null, none, none, false⟩

def tags : Parameter :=
  ⟨Field.tags.key, ["--tags"], some .null, none, none, true⟩

def configFile : Parameter :=
  ⟨"config_file", ["--config-file", "-f"], some .null, none, none, false⟩

/-- The linked service to import. -/
def id : Parameter :=
  ⟨"linked_service_resource_id", ["--id"], none, none, none, false⟩

def yes : Parameter :=
  ⟨"yes", ["--yes", "-y"], some .null, none, none, false⟩

end Parameter

namespace Command

def all : List Command := [.create, .update, .read, .delete, .list, .importExisting]

/-- The last word of a command. -/
def verb : Command → String
  | .create => "create"
  | .update => "update"
  | .read => "show"
  | .delete => "delete"
  | .list => "list"
  | .importExisting => "import"

def name (c : Command) : String :=
  resourceTypeName ++ " " ++ c.verb

def ofName? (name : String) : Option Command :=
  all.find? fun c => c.name == name

/-- Whether a command asks before it acts. -/
def asksFirst : Command → Bool
  | .delete => true
  | _ => false

/-- How a result is laid out as a table. -/
inductive Layout where
  | single
  | several
  deriving DecidableEq

/-- The layout of the results that are shown as a table. -/
def layout? : Command → Option Layout
  | .read => some .single
  | .list => some .several
  | _ => none

/-- The arguments that lead to one linked service. -/
def target : List Parameter :=
  [.group none, .workspace none (some "name"),
    .service (some Field.name.default) (some "child_name_1")]

/-- The arguments that a command acts on. -/
def parameters : Command → List Parameter
  | .create =>
    [.group (some .null), .workspace (some .null) none, .resource, .service (some .null) none,
      .tags, .configFile]
  | .update => target ++ [.resource, .tags]
  | .read | .delete => target
  | .list => [.group none, .workspace none none]
  | .importExisting => [.id]

/-- The arguments that a command takes: a confirmation too, if it asks first. -/
def allParameters (c : Command) : List Parameter :=
  c.parameters ++ if c.asksFirst then [.yes] else []

/-- The names and defaults of the arguments that a command acts on. -/
def signature (c : Command) : Signature :=
  c.parameters.map fun p => (p.name, p.default)

end Command

end WorkspaceLink
