import WorkspaceLink.Yaml.Fault

/-!
# Reading a document character by character

A cursor is the text still to be read, with the place that has been reached. A mark of byte order
takes no column.
-/

namespace WorkspaceLink.Yaml

/-- The characters that end a line. -/
def isBreak (c : Char) : Bool :=
  c == '\n' || c == '\u0085' || c == '\u2028' || c == '\u2029'

/-- Spaces and tabs. -/
def isGap (c : Char) : Bool :=
  c == ' ' || c == '\t'

/-- A line end, or the end of the text. -/
def endsLine : Option Char → Bool
  | none => true
  | some c => isBreak c

/-- A space, a line end, or the end of the text. -/
def endsField : Option Char → Bool
  | none => true
  | some c => c == ' ' || isBreak c

/-- A space, a tab, a line end, or the end of the text. -/
def endsWord : Option Char → Bool
  | none => true
  | some c => isGap c || isBreak c

/-- The characters of names: letters, digits, dash and underscore. -/
def isNameChar (c : Char) : Bool :=
  c.isAlphanum || c == '-' || c == '_'

def isHexDigit (c : Char) : Bool :=
  c.isDigit || ('a' ≤ c && c ≤ 'f') || ('A' ≤ c && c ≤ 'F')

/-- What a line end contributes to a text: those that are not separators count as a newline. -/
def breakChar (c : Char) : Char :=
  if c = '\u0085' then '\n' else c

/-- A place in a text. -/
structure Cursor where
  rest : List Char
  /-- The number of characters that are still to be read. -/
  left : Nat
  index : Nat
  line : Nat
  column : Nat

namespace Cursor

def ofText (cs : List Char) : Cursor := ⟨cs, cs.length, 0, 0, 0⟩

def peek (c : Cursor) : Option Char :=
  c.rest.head?

/-- The character that comes after so many others. -/
def peekAt (c : Cursor) (n : Nat) : Option Char :=
  c.rest[n]?

/-- The place after the next character. -/
def next (c : Cursor) : Cursor :=
  match c.rest with
  | [] => c
  | ch :: rest =>
    if isBreak ch then ⟨rest, c.left - 1, c.index + 1, c.line + 1, 0⟩
    else
      ⟨rest, c.left - 1, c.index + 1, c.line,
        if ch = '\ufeff' then c.column else c.column + 1⟩

/-- The place after so many characters. -/
def skip (c : Cursor) : Nat → Cursor
  | 0 => c
  | n + 1 => skip c.next n

/-- The characters in front that have a property, and the place after them. -/
def takeWhile (c : Cursor) (p : Char → Bool) : List Char × Cursor :=
  let taken := c.rest.takeWhile p
  (taken, c.skip taken.length)

/-- The place after the characters in front that have a property. -/
def dropWhile (c : Cursor) (p : Char → Bool) : Cursor :=
  (c.takeWhile p).2

/-- The fault of a place where the text may not go on as it does. -/
def unexpected (c : Cursor) : Fault :=
  if c.rest.isEmpty then .truncated else .malformed

/-- Whether a text comes next. -/
def startsWith (c : Cursor) (text : String) : Bool :=
  text.toList.isPrefixOf c.rest

/-- Whether a mark between documents comes next: three dashes or dots, as a word. -/
def atMark (c : Cursor) (mark : String) : Bool :=
  c.startsWith mark && endsWord (c.peekAt 3)

/-- Whether either mark between documents comes next. -/
def atAnyMark (c : Cursor) : Bool :=
  c.atMark "---" || c.atMark "..."

/-- The place after a comment, if one comes next. -/
def skipComment (c : Cursor) : Cursor :=
  if c.peek = some '#' then c.dropWhile fun ch => !isBreak ch else c

end Cursor

end WorkspaceLink.Yaml
