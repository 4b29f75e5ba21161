import WorkspaceLink.Host
import WorkspaceLink.Yaml.Tag

/-!
# Nodes

What a document spells: texts, sequences and mappings, each with a tag. Nodes refer to each other by
number, so that a node can be used in several places, also inside itself.
-/

namespace WorkspaceLink.Yaml

/-- The number of a node in its document. -/
abbrev NodeId := Nat

inductive Content where
  | scalar (text : List Char)
  | sequence (items : List NodeId)
  | mapping (entries : List (NodeId × NodeId))

structure Node where
  tag : Tag
  content : Content

/-- The node where nothing is written. -/
def Node.empty : Node := ⟨.null, .scalar []⟩

/-- The nodes of a document, by number. -/
abbrev Nodes := Array Node

namespace Nodes

def node (ns : Nodes) (id : NodeId) : Node :=
  ns[id]?.getD .empty

def tag (ns : Nodes) (id : NodeId) : Tag :=
  (ns.node id).tag

/-- The entries of a node that is a mapping. -/
def entries? (ns : Nodes) (id : NodeId) : Option (List (NodeId × NodeId)) :=
  match (ns.node id).content with
  | .mapping es => some es
  | _ => none

/-- Gives a node another tag. -/
def setTag (ns : Nodes) (id : NodeId) (tag : Tag) : Nodes :=
  ns.setIfInBounds id { ns.node id with tag }

/-- Gives a node something else to hold. -/
def setContent (ns : Nodes) (id : NodeId) (content : Content) : Nodes :=
  ns.setIfInBounds id { ns.node id with content }

/-- The text of a node where so many steps are left: its own, or the one that stands for a mapping.
A mapping may be on its own way to that text, in which case there is no end to it. -/
def textIn (ns : Nodes) : Nat → NodeId → Except Fault (List Char)
  | 0, _ => .error .tooDeep
  | n + 1, id =>
    match (ns.node id).content with
    | .scalar text => .ok text
    | .sequence _ => .error .malformed
    | .mapping es =>
      match es.find? fun e => ns.tag e.1 = .value with
      | some e => ns.textIn n e.2
      | none => .error .malformed

def text [Host] (ns : Nodes) (id : NodeId) : Except Fault (List Char) :=
  ns.textIn (Host.standing + 1) id

end Nodes

/-- A document: its nodes and the one that holds the others. -/
structure Graph where
  nodes : Nodes
  root : NodeId

end WorkspaceLink.Yaml
