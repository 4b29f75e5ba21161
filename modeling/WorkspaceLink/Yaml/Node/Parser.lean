import WorkspaceLink.Yaml.Node
import WorkspaceLink.Yaml.Token.Lexer

/-!
# Nodes of a text

A node is read from the tokens of a text. Where the tokens stop short because of a fault, the fault
counts only if what comes before it follows the grammar.
-/

namespace WorkspaceLink.Yaml

/-- What is left of the tokens, and the nodes and names so far. -/
structure Parser where
  tokens : List Token
  /-- What cut the tokens off. -/
  fault : Fault
  /-- The abbreviations of tags. -/
  handles : List (String × String)
  nodes : Nodes
  /-- The nodes that have a name. -/
  anchors : List (String × NodeId)
  /-- How many collections are being read. -/
  depth : Nat

/-- A step of reading. -/
abbrev Parse := StateT Parser (Except Fault)

namespace Parser

def peek : Parse Token := do
  let p ← get
  match p.tokens with
  | [] => throw p.fault
  | t :: _ => return t

/-- Moves past the next token. -/
def advance : Parse Unit :=
  modify fun p => { p with tokens := p.tokens.tail }

/-- Moves past the next token if it is a given one. -/
def accept (t : Token) : Parse Bool := do
  if (← peek) = t then
    advance
    return true
  else return false

/-- Moves past a token that has to be there. -/
def expect (t : Token) : Parse Unit := do
  if !(← accept t) then throw .malformed

/-- The abbreviations that hold without instructions. -/
def defaultHandles : List (String × String) :=
  [("!", "!"), ("!!", Tag.namespaceUri)]

/-- What is written in front of a node: a name, and the identifier of a tag. -/
structure Properties where
  anchor : Option String
  uri : Option String

namespace Properties

/-- Whether anything is written. -/
def isAny (p : Properties) : Bool :=
  p.anchor.isSome || p.uri.isSome

/-- The tag that is asked for; an exclamation mark alone asks for none. -/
def tag? (p : Properties) : Option Tag :=
  (p.uri.filter (· != "!")).map Tag.ofUri

def scalarTag (p : Properties) (text : List Char) (plain : Bool) : Tag :=
  p.tag?.getD (if plain || p.uri.isSome then .ofPlain text else .str)

end Properties

/-- The identifier that a tag spells. -/
def uriOf (handle : Option String) (suffix : String) : Parse String := do
  match handle with
  | none => return suffix
  | some h =>
    match (← get).handles.lookup h with
    | some start => return start ++ suffix
    | none => throw .malformed

def anchor? : Parse (Option String) := do
  match ← peek with
  | .anchor name => advance; return some name
  | _ => return none

def tag? : Parse (Option (Option String × String)) := do
  match ← peek with
  | .tag handle suffix => advance; return some (handle, suffix)
  | _ => return none

/-- Reads a name and a tag, in either order. -/
def properties : Parse Properties := do
  let before ← anchor?
  let tag ← tag?
  let after ← if before.isNone && tag.isSome then anchor? else pure none
  let uri ← tag.mapM fun t => uriOf t.1 t.2
  return ⟨before <|> after, uri⟩

def resolve (name : String) : Parse NodeId := do
  match (← get).anchors.lookup name with
  | some id => return id
  | none => throw .malformed

/-- Adds a node under its name, if it has one. A name is given once. -/
def add (anchor : Option String) (node : Node) : Parse NodeId := do
  let p ← get
  let id := p.nodes.size
  if anchor.any fun name => (p.anchors.lookup name).isSome then throw .malformed
  let named := anchor.toList.map fun name => (name, id)
  modify fun p => { p with nodes := p.nodes.push node, anchors := named ++ p.anchors }
  return id

/-- Adds a node where nothing is written. -/
def addEmpty : Parse NodeId :=
  add none .empty

/-- Reads a collection. Its name can be used inside it. -/
def collection [Host] (p : Properties) (tag : Tag) (read : Parse Content) : Parse NodeId := do
  if Host.nesting ≤ (← get).depth then throw .tooDeep
  let id ← add p.anchor ⟨p.tag?.getD tag, .sequence []⟩
  modify fun p => { p with depth := p.depth + 1 }
  let content ← read
  modify fun p => { p with depth := p.depth - 1, nodes := p.nodes.setContent id content }
  return id

def sequence [Host] (p : Properties) (items : Parse (List NodeId)) : Parse NodeId :=
  collection p .seq (.sequence <$> items)

def mapping [Host] (p : Properties) (entries : Parse (List (NodeId × NodeId))) : Parse NodeId :=
  collection p .map (.mapping <$> entries)

/-- A text that has been read. -/
def scalar (p : Properties) (text : List Char) (plain : Bool) : Parse NodeId :=
  add p.anchor ⟨p.scalarTag text plain, .scalar text⟩

/-- Reads a node, unless a token comes next before which nothing is written. -/
def unlessAt (stops : List Token) (read : Parse NodeId) : Parse NodeId := do
  if stops.contains (← peek) then addEmpty else read

/-- Reads the value after a key; without a colon there is nothing. -/
def valueUnlessAt (stops : List Token) (read : Parse NodeId) : Parse NodeId := do
  if ← accept .value then unlessAt stops read else addEmpty

section

variable [Host]

mutual
/-- Reads a node; sequences and mappings by indentation only where `block` says so, and
sequences that are not indented only where `indentless` says so. -/
def node (block indentless : Bool) : Nat → Parse NodeId
  | 0 => throw .malformed
  | n + 1 => do
    match ← peek with
    | .alias name => advance; resolve name
    | _ => content block indentless n (← properties)

/-- Reads a node after its properties. -/
def content (block indentless : Bool) : Nat → Properties → Parse NodeId
  | 0, _ => throw .malformed
  | n + 1, p => do
    match ← peek, block with
    | .scalar text plain, _ => advance; scalar p text.toList plain
    | .flowSequenceStart, _ => advance; sequence p (flowItems true n)
    | .flowMappingStart, _ => advance; mapping p (flowEntries true n)
    | .blockSequenceStart, true => advance; sequence p (blockItems n)
    | .blockMappingStart, true => advance; mapping p (blockEntries n)
    | t, _ =>
      if indentless && t = .blockEntry then sequence p (indentlessItems n)
      else if p.isAny then scalar p [] true
      else throw .malformed

/-- Reads the items of an indented sequence, and its end. -/
def blockItems : Nat → Parse (List NodeId)
  | 0 => throw .malformed
  | n + 1 => do
    if ← accept .blockEntry then
      let item ← unlessAt [.blockEntry, .blockEnd] (node true false n)
      return item :: (← blockItems n)
    else
      expect .blockEnd
      return []

/-- Reads the items of a sequence that is not indented. -/
def indentlessItems : Nat → Parse (List NodeId)
  | 0 => throw .malformed
  | n + 1 => do
    if ← accept .blockEntry then
      let item ← unlessAt [.blockEntry, .key, .value, .blockEnd] (node true false n)
      return item :: (← indentlessItems n)
    else return []

/-- Reads the entries of an indented mapping, and its end. -/
def blockEntries : Nat → Parse (List (NodeId × NodeId))
  | 0 => throw .malformed
  | n + 1 => do
    if ← accept .key then
      let key ← unlessAt [.key, .value, .blockEnd] (node true true n)
      let value ← valueUnlessAt [.key, .value, .blockEnd] (node true true n)
      return (key, value) :: (← blockEntries n)
    else
      expect .blockEnd
      return []

/-- Reads the items of a sequence in brackets, and its end. A key among them makes a mapping of
one entry. -/
def flowItems (first : Bool) : Nat → Parse (List NodeId)
  | 0 => throw .malformed
  | n + 1 => do
    if ← accept .flowSequenceEnd then return []
    if !first then expect .flowEntry
    if ← accept .key then
      let item ← mapping ⟨none, none⟩ do
        let key ← unlessAt [.value, .flowEntry, .flowSequenceEnd] (node false false n)
        let value ← valueUnlessAt [.flowEntry, .flowSequenceEnd] (node false false n)
        return [(key, value)]
      return item :: (← flowItems false n)
    else if ← accept .flowSequenceEnd then return []
    else
      let item ← node false false n
      return item :: (← flowItems false n)

/-- Reads the entries of a mapping in braces, and its end. -/
def flowEntries (first : Bool) : Nat → Parse (List (NodeId × NodeId))
  | 0 => throw .malformed
  | n + 1 => do
    if ← accept .flowMappingEnd then return []
    if !first then expect .flowEntry
    if ← accept .key then
      let key ← unlessAt [.value, .flowEntry, .flowMappingEnd] (node false false n)
      let value ← valueUnlessAt [.flowEntry, .flowMappingEnd] (node false false n)
      return (key, value) :: (← flowEntries false n)
    else if ← accept .flowMappingEnd then return []
    else
      let key ← node false false n
      let value ← addEmpty
      return (key, value) :: (← flowEntries false n)
end

end

/-- Takes an instruction into account: the version has to be one that is known, and nothing may be
said twice. -/
def obey (versioned : Bool) (d : Directive) : Parse Bool := do
  match d with
  | .version major _ =>
    if versioned || major != 1 then throw .malformed
    return true
  | .tagPrefix handle uri =>
    if ((← get).handles.lookup handle).isSome then throw .malformed
    modify fun p => { p with handles := (handle, uri) :: p.handles }
    return versioned
  | .other => return versioned

def directives (versioned : Bool) : Nat → Parse Unit
  | 0 => throw .malformed
  | n + 1 => do
    match ← peek with
    | .directive d =>
      advance
      let versioned ← obey versioned d
      directives versioned n
    | _ => return ()

/-- Reads instructions and the mark that starts a document. -/
def documentStart (n : Nat) : Parse Unit := do
  modify fun p => { p with handles := [] }
  directives false n
  modify fun p => { p with handles := p.handles ++ defaultHandles }
  expect .documentStart

/-- Whether a token cannot begin the content of a document. -/
def endsContent : Token → Bool
  | .directive _ | .documentStart | .documentEnd | .streamEnd => true
  | _ => false

/-- Reads the root of the first document, if there is a document. -/
def root? [Host] (n : Nat) : Parse (Option NodeId) := do
  match ← peek with
  | .streamEnd => return none
  | .directive _ | .documentStart =>
    documentStart n
    if endsContent (← peek) then return some (← addEmpty) else return some (← node true false n)
  | _ => return some (← node true false n)

/-- Reads the end of the stream: there has to be no other document. -/
def streamEnd (n : Nat) : Parse Unit := do
  modify fun p => { p with tokens := p.tokens.dropWhile (· = .documentEnd) }
  match ← peek with
  | .streamEnd => return ()
  | _ =>
    documentStart n
    throw .malformed

/-- Reads the only document, if there is one. -/
def document? [Host] (n : Nat) : Parse (Option NodeId) := do
  let root ← root? n
  streamEnd n
  return root

end Parser

/-- The document that a text spells, if it spells one. Every step of reading takes a token or opens
one of the nodes that a token begins, so the number of tokens bounds the steps. -/
def Graph.ofSource? [Host] (s : Source) : Except Fault (Option Graph) := do
  let (tokens, fault) := Token.ofSource s
  let p : Parser := ⟨tokens, fault.getD .malformed, Parser.defaultHandles, #[], [], 0⟩
  let (root, p) ← (Parser.document? (4 * tokens.length + 8)).run p
  return root.map (⟨p.nodes, ·⟩)

end WorkspaceLink.Yaml
