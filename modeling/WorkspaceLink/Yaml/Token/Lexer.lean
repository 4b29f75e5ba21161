import WorkspaceLink.Yaml.Source
import WorkspaceLink.Yaml.Token.Block
import WorkspaceLink.Yaml.Token.Quoted
import WorkspaceLink.Yaml.Token.TagName

/-!
# Tokens of a text

Indentation opens and closes blocks. Whether a token begins a key is known only at the colon after
it, so the places where a key may begin are kept until the line ends, and the tokens of a key are
put in there. Where the text was cut off, a token that reaches the cut is not read.
-/

namespace WorkspaceLink.Yaml

/-- A place where a key may begin: the number of its first token, and whether it has to be a key
because of its indentation. -/
structure PossibleKey where
  number : Nat
  required : Bool
  index : Nat
  line : Nat
  column : Nat

/-- The state of reading tokens. -/
structure Lexer where
  cursor : Cursor
  /-- What cut the text off. -/
  cut : Option Fault
  /-- How many brackets are open. -/
  flowLevel : Nat
  /-- The tokens read, last first. -/
  tokens : List Token
  count : Nat
  /-- The columns of the open blocks, innermost first. -/
  indents : List Nat
  /-- Whether a key may begin here. -/
  allowKey : Bool
  /-- Where a key may have begun, by the number of open brackets. -/
  keys : List (Nat × PossibleKey)
  done : Bool

namespace Lexer

/-- The start of a text. -/
def ofSource (s : Source) : Lexer :=
  ⟨.ofText s.chars, s.cut, 0, [], 0, [], true, [], false⟩

def emit (l : Lexer) (t : Token) : Lexer :=
  { l with tokens := t :: l.tokens, count := l.count + 1 }

/-- Puts a token in front of the one with a number. -/
def emitAt (l : Lexer) (number : Nat) (t : Token) : Lexer :=
  let later := l.count - number
  { l with
    tokens := l.tokens.take later ++ t :: l.tokens.drop later
    count := l.count + 1 }

def advance (l : Lexer) (n : Nat) : Lexer :=
  { l with cursor := l.cursor.skip n }

/-- Whether no bracket is open. -/
def inBlock (l : Lexer) : Bool :=
  l.flowLevel == 0

/-- Opens a block at a column, if it is to the right of the innermost one. -/
def openBlock (l : Lexer) (column : Nat) : Bool × Lexer :=
  if l.indents.head?.all (· < column) then (true, { l with indents := column :: l.indents })
  else (false, l)

/-- Closes all blocks to the right of a column, or all blocks. Inside brackets nothing closes. -/
def closeBlocks (l : Lexer) (column : Option Nat) : Lexer :=
  if l.inBlock then
    let isRight := fun i => column.all (· < i)
    let closed := (l.indents.takeWhile isRight).length
    { l with
      tokens := List.replicate closed .blockEnd ++ l.tokens
      count := l.count + closed
      indents := l.indents.dropWhile isRight }
  else l

/-- The place where a key may have begun inside the brackets that are open. -/
def key? (l : Lexer) : Option PossibleKey :=
  (l.keys.find? fun k => k.1 == l.flowLevel).map (·.2)

/-- Forgets the place where a key may have begun. -/
def dropKey (l : Lexer) : Lexer :=
  { l with keys := l.keys.filter fun k => k.1 != l.flowLevel }

/-- Gives up the place where a key may have begun. -/
def giveUpKey (l : Lexer) : Except Fault Lexer :=
  match l.key? with
  | some k => if k.required then .error .malformed else .ok l.dropKey
  | none => .ok l

/-- Whether a key that began at a place could still end here: on the same line, not too far on. -/
def isFresh (l : Lexer) (k : PossibleKey) : Bool :=
  k.line == l.cursor.line && l.cursor.index - k.index ≤ 1024

/-- Gives up the places where keys began that can no longer end. -/
def giveUpStale (l : Lexer) : Except Fault Lexer :=
  if l.keys.any fun k => !l.isFresh k.2 && k.2.required then .error .malformed
  else .ok { l with keys := l.keys.filter fun k => l.isFresh k.2 }

/-- Notes that a key may begin here. -/
def noteKey (l : Lexer) : Except Fault Lexer :=
  if l.allowKey then do
    let c := l.cursor
    let required := l.inBlock && l.indents.head? == some c.column
    let l ← l.giveUpKey
    let key : PossibleKey := ⟨l.count, required, c.index, c.line, c.column⟩
    return { l with keys := (l.flowLevel, key) :: l.keys }
  else .ok l

/-- The place after blanks, comments and line ends, and whether a line ended. -/
def skipBlanks : Nat → Bool → Cursor → Bool × Cursor
  | 0, ended, c => (ended, c)
  | n + 1, ended, c =>
    let c := (c.dropWhile (· == ' ')).skipComment
    if c.peek.any isBreak then skipBlanks n true c.next else (ended, c)

/-- Goes to the next token. A mark of byte order at the start of the text is skipped. -/
def toNextToken (l : Lexer) : Lexer :=
  let c := if l.cursor.index = 0 ∧ l.cursor.peek = some '\ufeff' then l.cursor.next else l.cursor
  let (ended, c) := skipBlanks (c.left + 1) false c
  { l with cursor := c, allowKey := l.allowKey || (ended && l.inBlock) }

/-- Ends the text. -/
def fetchEnd (l : Lexer) : Except Fault Lexer := do
  let l ← (l.closeBlocks none).giveUpKey
  return { l.emit .streamEnd with allowKey := false, keys := [], done := true }

def fetchDirective (l : Lexer) : Except Fault Lexer := do
  let l ← (l.closeBlocks none).giveUpKey
  let (t, c) ← TagName.directive l.cursor
  return { l.emit t with cursor := c, allowKey := false }

def fetchMark (t : Token) (l : Lexer) : Except Fault Lexer := do
  let l ← (l.closeBlocks none).giveUpKey
  return { (l.emit t).advance 3 with allowKey := false }

def fetchOpen (t : Token) (l : Lexer) : Except Fault Lexer := do
  let l ← l.noteKey
  return { (l.emit t).advance 1 with flowLevel := l.flowLevel + 1, allowKey := true }

def fetchClose (t : Token) (l : Lexer) : Except Fault Lexer := do
  let l ← l.giveUpKey
  return { (l.emit t).advance 1 with flowLevel := l.flowLevel - 1, allowKey := false }

def fetchFlowEntry (l : Lexer) : Except Fault Lexer := do
  let l ← l.giveUpKey
  return { (l.emit .flowEntry).advance 1 with allowKey := true }

/-- Opens a block where a dash, question mark or colon stands, if it is to the right of the
innermost one; outside brackets one may only stand where a key may begin. -/
def openAtSign (opening : Token) (l : Lexer) : Except Fault Lexer :=
  if l.inBlock then
    if l.allowKey then
      let (opened, l) := l.openBlock l.cursor.column
      .ok (if opened then l.emit opening else l)
    else .error .malformed
  else .ok l

def fetchBlockEntry (l : Lexer) : Except Fault Lexer := do
  let l ← l.openAtSign .blockSequenceStart
  let l ← l.giveUpKey
  return { (l.emit .blockEntry).advance 1 with allowKey := true }

/-- Reads a question mark. -/
def fetchKey (l : Lexer) : Except Fault Lexer := do
  let l ← l.openAtSign .blockMappingStart
  let l ← l.giveUpKey
  return { (l.emit .key).advance 1 with allowKey := l.inBlock }

/-- Reads a colon: what stands before it is a key if a key began there. -/
def fetchValue (l : Lexer) : Except Fault Lexer :=
  match l.key? with
  | some k => do
    let l := l.dropKey.emitAt k.number .key
    let (opened, l) := if l.inBlock then l.openBlock k.column else (false, l)
    let l := if opened then l.emitAt k.number .blockMappingStart else l
    return { (l.emit .value).advance 1 with allowKey := false }
  | none => do
    let l ← l.openAtSign .blockMappingStart
    return { (l.emit .value).advance 1 with allowKey := l.inBlock }

def fetchAnchor (token : String → Token) (l : Lexer) : Except Fault Lexer := do
  let l ← l.noteKey
  let (name, c) ← TagName.anchorName l.cursor.next
  return { l.emit (token name) with cursor := c, allowKey := false }

def fetchTag (l : Lexer) : Except Fault Lexer := do
  let l ← l.noteKey
  let (t, c) ← TagName.scan l.cursor
  return { l.emit t with cursor := c, allowKey := false }

def fetchBlockText (folded : Bool) (l : Lexer) : Except Fault Lexer := do
  let l ← l.giveUpKey
  let (cs, c) ← Block.scan folded l.indents.head? l.cursor
  return { l.emit (.scalar (String.ofList cs) false) with cursor := c, allowKey := true }

def fetchQuoted (l : Lexer) : Except Fault Lexer := do
  let l ← l.noteKey
  let (cs, c) ← Quoted.scan l.cursor
  return { l.emit (.scalar (String.ofList cs) false) with cursor := c, allowKey := false }

def fetchPlain (l : Lexer) : Except Fault Lexer := do
  let l ← l.noteKey
  let r := Plain.scan (!l.inBlock) ((l.indents.head?.map (· + 1)).getD 0) l.cursor
  return { l.emit (.scalar (String.ofList r.text) true) with
    cursor := r.cursor, allowKey := r.lineEnded }

/-- The signs that a plain text cannot begin with, unless one of the first three is followed by a
character of it. -/
def signs : List Char :=
  ['-', '?', ':', ',', '[', ']', '{', '}', '#', '&', '*', '!', '|', '>', '\'', '"', '%', '@',
    '\x60']

/-- Whether a plain text begins here. -/
def startsPlain (l : Lexer) (ch : Char) : Bool :=
  !(endsWord (some ch) || signs.contains ch) ||
    (!endsWord (l.cursor.peekAt 1) && (ch == '-' || (l.inBlock && (ch == '?' || ch == ':'))))

/-- Reads the token that begins with a character. -/
def fetchAt (l : Lexer) (ch : Char) : Except Fault Lexer :=
  let c := l.cursor
  let wordEnds := endsWord (c.peekAt 1)
  if ch = '%' ∧ c.column = 0 then l.fetchDirective
  else if c.column = 0 ∧ c.atMark "---" then l.fetchMark .documentStart
  else if c.column = 0 ∧ c.atMark "..." then l.fetchMark .documentEnd
  else if ch = '[' then l.fetchOpen .flowSequenceStart
  else if ch = '{' then l.fetchOpen .flowMappingStart
  else if ch = ']' then l.fetchClose .flowSequenceEnd
  else if ch = '}' then l.fetchClose .flowMappingEnd
  else if ch = ',' then l.fetchFlowEntry
  else if ch = '-' ∧ wordEnds then l.fetchBlockEntry
  else if ch = '?' ∧ (!l.inBlock ∨ wordEnds) then l.fetchKey
  else if ch = ':' ∧ (!l.inBlock ∨ wordEnds) then l.fetchValue
  else if ch = '*' then l.fetchAnchor .alias
  else if ch = '&' then l.fetchAnchor .anchor
  else if ch = '!' then l.fetchTag
  else if ch = '|' ∧ l.inBlock then l.fetchBlockText false
  else if ch = '>' ∧ l.inBlock then l.fetchBlockText true
  else if ch = '\'' ∨ ch = '"' then l.fetchQuoted
  else if l.startsPlain ch then l.fetchPlain
  else .error .malformed

/-- The same place, unless the text was cut off there. -/
def beforeCut (l : Lexer) : Except Fault Lexer :=
  match l.cut with
  | some f => if l.cursor.rest.isEmpty then .error f else .ok l
  | none => .ok l

/-- The fault that counts where a token could not be read: a text that ends too early because it was
cut off has the fault of the cut. -/
def faultOf (l : Lexer) : Fault → Fault
  | .truncated => l.cut.getD .truncated
  | f => f

/-- Reads the next token, with the ends of the blocks before it. -/
def fetch (l : Lexer) : Except Fault Lexer := do
  let l ← l.toNextToken.beforeCut
  let l ← l.giveUpStale
  let l := l.closeBlocks (some l.cursor.column)
  match l.cursor.peek with
  | none => l.fetchEnd
  | some ch => l.fetchAt ch

/-- The tokens that are settled: those before any place where a key may have begun. -/
def settled (l : Lexer) : List Token :=
  let open_ := (l.keys.filter fun k => l.isFresh k.2).map fun k => k.2.number
  l.tokens.reverse.take (open_.foldl min l.count)

/-- Reads tokens until the text ends, or a fault. Each step reads a character, so the length of the
text bounds their number. -/
def run : Nat → Lexer → List Token × Option Fault
  | 0, l => (l.settled, some .malformed)
  | n + 1, l =>
    match l.fetch.bind beforeCut with
    | .error f => (l.settled, some (l.faultOf f))
    | .ok l => if l.done then (l.tokens.reverse, none) else run n l

end Lexer

/-- The tokens of a text, up to the first fault. -/
def Token.ofSource (s : Source) : List Token × Option Fault :=
  (Lexer.ofSource s).run (s.chars.length + 1)

end WorkspaceLink.Yaml
