import WorkspaceLink.LinkId
import WorkspaceLink.Pattern

/-!
# Ids read by patterns

The rules of resource ids as patterns: one for an id, which keeps what follows its resource as a
text, and one for the children that are looked for in that text. What the patterns keep is looked up
by label, and a label may not be there.
-/

namespace WorkspaceLink

namespace ArmId

/-- What the pattern of an id keeps. -/
inductive Label where
  | subscription
  | group
  | provider
  | type
  | name
  | children
  deriving DecidableEq

/-- What the pattern of a child keeps. -/
inductive Child.Label where
  | provider
  | type
  | name
  deriving DecidableEq

/-- The group of an id. -/
def groupPattern : Pattern Label := .seq (.word "/resourceGroups/") (.segment .group)

/-- The resource of an id, and what follows it on the same line. -/
def resourcePattern : Pattern Label :=
  .seq (.word "/providers/") <| .seq (.segment .provider) <| .seq (.word "/") <| .seq (.segment .type) <|
    .seq (.word "/") <| .seq (.segment .name) (.many (some .children) (· != '\n'))

def pattern : Pattern Label :=
  .seq (.word "/subscriptions/") <| .seq (.segment .subscription) <|
    .seq (.maybe groupPattern) (.maybe resourcePattern)

/-- The type and name of a child. -/
def Child.ownPattern : Pattern Child.Label :=
  .seq (.word "/") <| .seq (.segment .type) <| .seq (.word "/") (.segment .name)

def Child.pattern : Pattern Child.Label :=
  .seq (.maybe (.seq (.word "/providers/") (.segment .provider))) Child.ownPattern

/-- The labelled parts of an id, and those of each of its children. -/
structure Parts where
  own : List (Label × List Char)
  children : List (List (Child.Label × List Char))

namespace Parts

/-- What a match kept, and what is found among its children. -/
def ofMatch (m : Match Label) : Parts :=
  ⟨m.parts, (Child.pattern.all ((m.parts.lookup .children).getD [])).map Match.parts⟩

/-- The parts of a text; one that is no id is a name as a whole. -/
def ofText (cs : List Char) : Parts :=
  match pattern.first? cs with
  | none => ⟨[(.name, cs)], []⟩
  | some m => ofMatch m

/-- The segments of children, up to one without a type or a name. -/
def childSegments : List (List (Child.Label × List Char)) → List Segment
  | [] => []
  | c :: cs =>
    ((c.lookup .provider).map fun p => ["providers".toList, p]).getD [] ++
      match c.lookup .type, c.lookup .name with
      | some t, some n => t :: n :: childSegments cs
      | _, _ => []

/-- Writes an id from its parts. It stops at the first part that is missing, but a group may be left
out and the subscription has to be there. -/
def print? (ps : Parts) : Option (List Char) :=
  (ps.own.lookup .subscription).map fun s =>
    Segment.join <| [[], "subscriptions".toList, s] ++
      ((ps.own.lookup .group).map fun g => ["resourceGroups".toList, g]).getD [] ++
      match ps.own.lookup .provider with
      | none => []
      | some p =>
        ["providers".toList, p] ++
          match ps.own.lookup .type, ps.own.lookup .name with
          | some t, some n => t :: n :: childSegments ps.children
          | _, _ => []

/-- Whether a text is written the same, up to case, as its parts are. -/
def isValid (cs : List Char) : Bool :=
  !cs.isEmpty &&
    match (ofText cs).print? with
    | some text => Unicode.lower text == Unicode.lower cs
    | none => false

end Parts

end ArmId

namespace LinkId

/-- What reading by patterns can end with instead of an id. -/
inductive Trouble where
  | refused (r : Refusal)
  /-- A part was looked up that is not there. -/
  | missing (label : ArmId.Label)
  | missingBelow (label : ArmId.Child.Label)

/-- A part that has to be there. -/
def demand {κ : Type} [BEq κ] (trouble : κ → Trouble) (parts : List (κ × List Char)) (label : κ) :
    Except Trouble (List Char) :=
  match parts.lookup label with
  | some part => .ok part
  | none => .error (trouble label)

/-- Reads the id of a linked service from the parts that the patterns keep. -/
def ofParts (cs : List Char) : Except Trouble LinkId :=
  if !ArmId.Parts.isValid cs then .error (.refused .invalid)
  else
    let own := (ArmId.Parts.ofText cs).own
    let child := (ArmId.Parts.ofText cs).children.head?.getD []
    if !isWord workspaceType ((own.lookup .type).getD []) then .error (.refused .noWorkspace)
    else if !isWord linkType ((child.lookup .type).getD []) then .error (.refused .noLink)
    else if ((own.lookup .group).getD []).isEmpty || ((child.lookup .name).getD []).isEmpty then
      .error (.refused .incomplete)
    else do
      let subscription ← demand .missing own .subscription
      let group ← demand .missing own .group
      let workspace ← demand .missing own .name
      let name ← demand .missingBelow child .name
      return ⟨String.ofList subscription, String.ofList group, String.ofList workspace,
        String.ofList name⟩

end LinkId

end WorkspaceLink
