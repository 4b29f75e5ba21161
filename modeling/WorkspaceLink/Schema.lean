import WorkspaceLink.Rule

/-!
# Schema

The fields of a configuration, in the order in which they are checked and compared.
-/

namespace WorkspaceLink

inductive Field where
  | group
  | workspace
  | name
  | properties
  /-- The name that the service reports. -/
  | reportedName
  | tags
  deriving DecidableEq

namespace Field

def all : List Field := [.group, .workspace, .name, .properties, .reportedName, .tags]

theorem mem_all (f : Field) : f ∈ all := by
  cases f <;> simp [all]

def key : Field → String
  | .group => "resource_group_name"
  | .workspace => "workspace_name"
  | .name => "linked_service_name"
  | .properties => "linked_service_properties"
  | .reportedName => "name"
  | .tags => "tags"

def ofKey? (key : Scalar) : Option Field :=
  all.find? fun f => key.same (.str f.key)

def required : Field → Bool
  | .group | .workspace | .properties => true
  | _ => false

/-- Whether a change of a field takes a new linked service. -/
def forcesNew : Field → Bool
  | .group | .workspace | .name | .properties => true
  | _ => false

/-- Whether a field is only reported. -/
def computed : Field → Bool
  | .reportedName => true
  | _ => false

/-- What a field is when it is not given. -/
def default : Field → Value
  | .name => .str defaultName
  | .tags => .map []
  | _ => .null

/-- Whether the case of a field does not matter in comparisons. -/
def caseInsensitive : Field → Bool
  | .group | .workspace => true
  | _ => false

def rule? [Host] : Field → Option (String → Value → Except Misfit (List Defect))
  | .group => some fun key v => .ok (Rule.groupName key v)
  | .workspace => some fun key v => .ok (Rule.workspaceName key v)
  | .name => some Rule.serviceName
  | .properties => some Rule.properties
  | .reportedName => none
  | .tags => some Rule.tags

def configurable : List Field := all.filter fun f => !f.computed

def check [Host] (f : Field) (v : Value) : Except Misfit (List Defect) :=
  match f.rule? with
  | some rule => rule f.key v
  | none => .ok []

end Field

end WorkspaceLink
