import WorkspaceLink.ArmId
import WorkspaceLink.Fault

/-!
# Ids of linked services

The id of a linked service names a subscription, a resource group, a workspace and the linked
service in it.
-/

namespace WorkspaceLink

def providerName : String := "Microsoft.OperationalInsights"

def workspaceType : String := "workspaces"

/-- The type of a linked service below its workspace. -/
def linkType : String := "linkedServices"

/-- The parts of the id of a linked service. -/
structure LinkId where
  subscription : String
  group : String
  workspace : String
  name : String
  deriving DecidableEq

namespace LinkId

/-- The reasons for which an id is refused. -/
inductive Refusal where
  | invalid
  | noWorkspace
  | noLink
  | incomplete
  deriving DecidableEq

def Refusal.text : Refusal → String
  | .invalid => "not a valid Azure resource ID"
  | .noWorkspace => "missing the \x60" ++ workspaceType ++ "\x60 segment"
  | .noLink => "missing the \x60" ++ linkType ++ "\x60 segment"
  | .incomplete => "incomplete resource ID"

/-- Whether a segment is a word, whatever its case. -/
def isWord (word : String) (s : Segment) : Bool :=
  Unicode.lower s == Unicode.lower word.toList

/-- The linked service that a valid id names: the type of its resource and the type of the first
child decide, and the resource group and the name must be there. -/
def ofArmId (a : ArmId) : Except Refusal LinkId :=
  match a.resource with
  | none => .error .noWorkspace
  | some r =>
    if !isWord workspaceType r.type then .error .noWorkspace
    else
      match r.children with
      | [] => .error .noLink
      | child :: _ =>
        if !isWord linkType child.type then .error .noLink
        else if (a.group.getD []).isEmpty || child.name.isEmpty then .error .incomplete
        else
          .ok ⟨String.ofList a.subscription, String.ofList (a.group.getD []), String.ofList r.name,
            String.ofList child.name⟩

/-- Reads the id of a linked service. -/
def ofText (cs : List Char) : Except Refusal LinkId :=
  match ArmId.valid? cs with
  | none => .error .invalid
  | some a => ofArmId a

/-- Reads the id of a linked service from a value: what counts as false is no id, and anything else
has to be a text. -/
def parse (id : Value) : Except Fault LinkId :=
  if !id.truthy then .error (.malformedId id Refusal.invalid.text)
  else
    match id with
    | .str s => (ofText s.toList).mapError fun r => .malformedId id r.text
    | _ => .error (.misfit .notText)

/-- The id with these parts: it stops at the first part that is missing, but a resource group may be
left out. -/
def build? (subscription group workspace name : Option String) : Option String :=
  subscription.map fun s =>
    let child : List ArmId.Child :=
      (name.map fun n => [⟨none, linkType.toList, n.toList⟩]).getD []
    let provider : List Segment := ["providers".toList, providerName.toList]
    let scope : ArmId := ⟨s.toList, group.map String.toList, none⟩
    String.ofList <| Segment.join <| scope.segments ++ provider ++
      (workspace.map fun w => [workspaceType.toList, w.toList] ++
        child.flatMap ArmId.Child.segments).getD []

/-- Writes the id of a linked service. -/
def print (id : LinkId) : String :=
  (build? (some id.subscription) (some id.group) (some id.workspace) (some id.name)).getD ""

/-- The part of an id that a value is: nothing is a missing part. -/
def part? (v : Value) : Option String :=
  if v.isNull then none else some v.display

def build (subscription group workspace name : Value) : Except Fault String :=
  match build? (part? subscription) (part? group) (part? workspace) (part? name) with
  | some id => .ok id
  | none => .error (.misfit .missingKey)

def address (id : LinkId) : Address :=
  ⟨.str id.group, .str id.workspace, .str id.name⟩

end LinkId

end WorkspaceLink
