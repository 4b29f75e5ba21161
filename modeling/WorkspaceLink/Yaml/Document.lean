import WorkspaceLink.Yaml.Base64
import WorkspaceLink.Yaml.Node.Parser

/-!
# Documents

The value of a document. Texts announce scalars by their tags, and mappings may take over entries
from others. Scalars are built where they are met, the parts of collections later, those of the
collections met first before others; so of several faults the one nearest to the root is told.
-/

namespace WorkspaceLink.Yaml

namespace Tag

/-- The truth value of a word. -/
def boolean (cs : List Char) : Except ScalarFault Bool :=
  match booleans.lookup (String.ofList (Unicode.lower cs)) with
  | some b => .ok b
  | none => .error .unknownBool

def readBytes (cs : List Char) : Except Fault Scalar :=
  match Base64.decode? cs with
  | some bs => .ok (.bytes bs)
  | none => .error .malformed

/-- How a text is read for a tag, if the tag is one of scalars. -/
def reader? : Tag → Option (List Char → Except Fault Scalar)
  | .null => some fun _ => .ok .null
  | .bool => some fun cs => ((boolean cs).map Scalar.bool).mapError .scalar
  | .int => some fun cs => ((Number.integer cs).map Scalar.int).mapError .scalar
  | .float => some fun cs => ((Number.fraction cs).map Scalar.float).mapError .scalar
  | .binary => some readBytes
  | .timestamp => some fun cs => (Timestamp.ofText cs).mapError .scalar
  | .str => some fun cs => .ok (.str (String.ofList cs))
  | _ => none

def isCollection : Tag → Bool
  | .omap | .pairs | .set | .seq | .map => true
  | _ => false

end Tag

/-- A key of a mapping. What is not a number equals nothing but itself: one that is spelled as such
is the same everywhere, any other belongs to its node. -/
structure Key where
  scalar : Scalar
  origin : Option NodeId

def Key.same (a b : Key) : Bool :=
  a.scalar.same b.scalar ||
    (a.scalar == .float .nan && b.scalar == .float .nan && a.origin == b.origin)

/-- Sets the node of a key; a key that is there keeps its place and its spelling. -/
def Key.insert (key : Key) (id : NodeId) : List (Key × NodeId) → List (Key × NodeId)
  | [] => [(key, id)]
  | (k, v) :: rest => if k.same key then (k, id) :: rest else (k, v) :: key.insert id rest

/-- What has been built of a node; the parts of collections are named by their nodes. -/
inductive Object where
  | scalar (s : Scalar)
  | list (items : List NodeId)
  | pairs (entries : List (NodeId × NodeId))
  | map (entries : List (Key × NodeId))
  | set (members : List Key)

/-- The nodes of a document and what has been built of them. -/
structure Builder where
  nodes : Nodes
  objects : Array (Option Object)
  /-- The collections whose parts are not built, last met first. -/
  waiting : List NodeId

abbrev Build := StateT Builder (Except Fault)

namespace Builder

variable [Host]

def ofNodes (nodes : Nodes) : Builder :=
  ⟨nodes, .replicate nodes.size none, []⟩

def object? (b : Builder) (id : NodeId) : Option Object :=
  b.objects[id]?.join

/-- Notes what has been built of a node. -/
def record (id : NodeId) (o : Object) : Build Unit :=
  modify fun b => { b with objects := b.objects.setIfInBounds id (some o) }

/-- The entries of a node; it has to be a mapping. -/
def entries (id : NodeId) : Build (List (NodeId × NodeId)) := do
  match (← get).nodes.entries? id with
  | some es => return es
  | none => throw .malformed

/-- Gives a mapping other entries. -/
def setEntries (id : NodeId) (es : List (NodeId × NodeId)) : Build Unit :=
  modify fun b => { b with nodes := b.nodes.setContent id (.mapping es) }

def text (id : NodeId) : Build (List Char) := do
  (← get).nodes.text id

/-- Builds a scalar. A time cannot be spelled by a text that stands for a mapping. -/
def scalar (id : NodeId) : Build Scalar := do
  let node := (← get).nodes.node id
  match node.tag.reader?, node.content with
  | none, _ => throw .malformed
  | some read, .mapping _ => do
    let cs ← text id
    if node.tag = .timestamp then throw (.scalar .notText)
    read cs
  | some read, _ => do read (← text id)

/-- Meets a node: a scalar is built, a collection is noted. A node is built once, wherever it is
used. -/
def meet (id : NodeId) : Build (Option Scalar) := do
  let b ← get
  match b.object? id with
  | some (.scalar s) => return some s
  | some _ => return none
  | none =>
    if (b.nodes.tag id).isCollection then
      record id (.list [])
      modify fun b => { b with waiting := id :: b.waiting }
      return none
    else
      let s ← scalar id
      record id (.scalar s)
      return some s

/-- Whether a node has a text that spells what is not a number. -/
def spellsNotANumber (b : Builder) (id : NodeId) : Bool :=
  match b.nodes.text id with
  | .ok cs => Number.isNotANumber cs
  | .error _ => false

/-- Meets the key of an entry, which has to be a scalar. -/
def key (id : NodeId) : Build Key := do
  match ← meet id with
  | none => throw .malformed
  | some s =>
    let own := s == .float .nan && !(← get).spellsNotANumber id
    return ⟨s, if own then some id else none⟩

/-! ## Taking over entries -/

/-- The entries taken over from a node, which has its own taken over first: those of a mapping, or
of a sequence of mappings, of which earlier ones prevail over later ones. -/
def entriesFrom (flatten : NodeId → Build Unit) (id : NodeId) : Build (List (NodeId × NodeId)) := do
  match ((← get).nodes.node id).content with
  | .scalar _ => throw .malformed
  | .mapping _ => flatten id; entries id
  | .sequence items =>
    let parts ← items.mapM fun item => do
      let _ ← entries item
      flatten item
      entries item
    return parts.reverse.flatten

/-- Goes through the entries of a mapping, last of those passed first, and takes out the ones that
take over others. The key of the text that stands for a mapping becomes a text. When the mapping
takes over from itself on the way, nothing is left to take out. -/
def takeOver (flatten : NodeId → Build Unit) (id : NodeId) (passed : List (NodeId × NodeId)) :
    List (NodeId × NodeId) → Build (List (NodeId × NodeId))
  | [] => return []
  | (k, v) :: rest => do
    let tag := (← get).nodes.tag k
    if tag = .merge then
      let left := passed.reverse ++ rest
      setEntries id left
      let taken ← entriesFrom flatten v
      if (← entries id) = left then return taken ++ (← takeOver flatten id passed rest)
      else return taken
    else
      if tag = .value then modify fun b => { b with nodes := b.nodes.setTag k .str }
      takeOver flatten id ((k, v) :: passed) rest

/-- Puts the entries that a mapping takes over in front of its own, where so many steps to another
mapping are left. -/
def flatten : Nat → NodeId → Build Unit
  | 0, _ => throw .tooDeep
  | n + 1, id => do
    let taken ← takeOver (flatten n) id [] (← entries id)
    if !taken.isEmpty then setEntries id (taken ++ (← entries id))

/-! ## Collections -/

/-- Builds the entries of a mapping; of equal keys the first is kept, with the last value. -/
def fields (id : NodeId) : Build (List (Key × NodeId)) := do
  let _ ← entries id
  flatten (Host.merging + 1) id
  (← entries id).foldlM (fun fs e => do
    let k ← key e.1
    let _ ← meet e.2
    return k.insert e.2 fs) []

/-- Builds the pair that a mapping of one entry stands for. -/
def pair (id : NodeId) : Build (NodeId × NodeId) := do
  match ← entries id with
  | [(k, v)] =>
    let _ ← meet k
    let _ ← meet v
    return (k, v)
  | _ => throw .malformed

/-- Builds the parts of a collection. -/
def fill (id : NodeId) : Build Unit := do
  let node := (← get).nodes.node id
  match node.tag, node.content with
  | .seq, .sequence items =>
    items.forM fun item => do let _ ← meet item
    record id (.list items)
  | .omap, .sequence items | .pairs, .sequence items => record id (.pairs (← items.mapM pair))
  | .map, _ => record id (.map (← fields id))
  | .set, _ => record id (.set ((← fields id).map (·.1)))
  | _, _ => throw .malformed

/-- Builds the parts of all collections met, in rounds. Every round builds a node that was not built
before, so their number bounds the rounds. -/
def fillAll : Nat → Build Unit
  | 0 => return ()
  | n + 1 => do
    let waiting := (← get).waiting
    if waiting.isEmpty then return ()
    modify fun b => { b with waiting := [] }
    waiting.reverse.forM fill
    fillAll n

/-! ## Values -/

/-- A value and the names of the values around it that are used in it. -/
abbrev Tied := Value × List NodeId

/-- Gives a value its name, if it holds itself; a value in which another around it is used does so
by way of that one. -/
def tie (id : NodeId) (v : Value) (used : List NodeId) : Tied :=
  if used.isEmpty then (v, []) else (.knot id v, used.filter (· != id))

/-- The value of a node inside others. A node that is among those around it is told by its name, so
the number of nodes bounds the depth. -/
def value (b : Builder) : Nat → List NodeId → NodeId → Tied
  | 0, _, id => (.again id, [id])
  | n + 1, around, id =>
    if around.contains id then (.again id, [id])
    else
      let part := b.value n (id :: around)
      match b.object? id with
      | none => (.null, [])
      | some (.scalar s) => (.scalar s, [])
      | some (.set ms) => (.set (Host.arrange (ms.map (·.scalar))), [])
      | some (.list items) =>
        let parts := items.map part
        tie id (.list (parts.map (·.1))) (parts.flatMap (·.2))
      | some (.pairs es) =>
        let parts := es.map fun e => (part e.1, part e.2)
        tie id (.list (parts.map fun p => .pair p.1.1 p.2.1))
          (parts.flatMap fun p => p.1.2 ++ p.2.2)
      | some (.map es) =>
        let parts := es.map fun e => (e.1.scalar, part e.2)
        tie id (.map (parts.map fun p => (p.1, p.2.1))) (parts.flatMap (·.2.2))

end Builder

def Graph.value [Host] (g : Graph) : Except Fault Value := do
  let build : Build Unit := do
    let _ ← Builder.meet g.root
    Builder.fillAll (g.nodes.size + 1)
  let (_, b) ← build.run (.ofNodes g.nodes)
  return (b.value (g.nodes.size + 1) [] g.root).1

/-- The value of the document that a text spells; a text without a document is nothing. -/
def load [Host] (s : Source) : Except Fault Value := do
  match ← Graph.ofSource? s with
  | none => return .null
  | some g => g.value

end WorkspaceLink.Yaml
