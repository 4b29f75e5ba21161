import WorkspaceLink.Yaml.Cursor
import WorkspaceLink.Yaml.Fault

/-!
# Block texts

A text on lines of its own, more indented than what is around it. A literal block keeps its lines, a
folded one joins them; a sign in its header says what happens to the line ends after it.
-/

namespace WorkspaceLink.Yaml.Block

/-- What happens to the line ends after a block. -/
inductive Chomping where
  | strip
  | clip
  | keep
  deriving DecidableEq

/-- The header of a block: chomping, and the indentation if it is given. -/
structure Header where
  chomping : Chomping
  increment : Option Nat

def chomping? : Option Char → Option Chomping
  | some '+' => some .keep
  | some '-' => some .strip
  | _ => none

/-- A digit of indentation, which is not zero. -/
def increment? (ch : Option Char) : Except Fault (Option Nat) :=
  match ch with
  | some c =>
    if c = '0' then .error .malformed
    else if c.isDigit then .ok (some (c.toNat - '0'.toNat))
    else .ok none
  | none => .ok none

/-- The place after a character that was recognised. -/
def after {α : Type} (found : Option α) (c : Cursor) : Cursor :=
  if found.isSome then c.next else c

/-- Reads the signs of a header, in either order. -/
def signs (c : Cursor) : Except Fault (Header × Cursor) := do
  match chomping? c.peek with
  | some chomping =>
    let c := c.next
    let increment ← increment? c.peek
    return (⟨chomping, increment⟩, after increment c)
  | none =>
    let increment ← increment? c.peek
    let c := after increment c
    let chomping := if increment.isSome then chomping? c.peek else none
    return (⟨chomping.getD .clip, increment⟩, after chomping c)

/-- The place after the rest of a line that holds at most a comment. -/
def restOfLine (c : Cursor) : Except Fault Cursor :=
  let c := (c.dropWhile (· == ' ')).skipComment
  if endsLine c.peek then .ok c.next else .error .malformed

/-- Blank lines before the first line of a block: their line ends, the widest indentation met, and
the place after them. -/
def leadingBreaks : Nat → Nat → Cursor → List Char × Nat × Cursor
  | 0, widest, c => ([], widest, c)
  | n + 1, widest, c =>
    match c.peek with
    | some ch =>
      if ch = ' ' then leadingBreaks n (max widest c.next.column) c.next
      else if isBreak ch then
        let (more, widest, after) := leadingBreaks n widest c.next
        (breakChar ch :: more, widest, after)
      else ([], widest, c)
    | none => ([], widest, c)

/-- The place after the indentation in front of a line. -/
def skipIndent (indent : Nat) (c : Cursor) : Cursor :=
  c.skip (min (indent - c.column) (c.rest.takeWhile (· == ' ')).length)

/-- Blank lines between the lines of a block: their line ends and the place after them. -/
def breaks (indent : Nat) : Nat → Cursor → List Char × Cursor
  | 0, c => ([], c)
  | n + 1, c =>
    let c := skipIndent indent c
    match c.peek with
    | some ch =>
      if isBreak ch then
        let (more, after) := breaks indent n c.next
        (breakChar ch :: more, after)
      else ([], c)
    | none => ([], c)

/-- What joins a line of a block to the next: one newline between two lines that do not begin with a
gap is folded. -/
def joint (folded leadingSolid nextSolid : Bool) (lineBreak : List Char) (more : List Char) :
    List Char :=
  if folded && leadingSolid && nextSolid && lineBreak == ['\n'] then
    if more.isEmpty then [' '] else []
  else lineBreak

/-- Whether the next character is not a gap. -/
def isSolid (c : Cursor) : Bool :=
  !c.peek.any isGap

/-- Reads the lines of a block after the line ends in front of them: its text, and the line end and
the blank lines after its last line. -/
def lines (folded : Bool) (indent : Nat) :
    Nat → List Char → Cursor → List Char × List Char × List Char × Cursor
  | 0, before, c => ([], [], before, c)
  | n + 1, before, c =>
    if c.column = indent ∧ c.peek.isSome then
      let leadingSolid := isSolid c
      let (line, c) := c.takeWhile fun ch => !isBreak ch
      let lineBreak := (c.peek.map breakChar).toList
      let (more, c) := breaks indent (c.left + 1) c.next
      if c.column = indent ∧ c.peek.isSome then
        let (text, last, trailing, after) := lines folded indent n more c
        (before ++ line ++ joint folded leadingSolid (isSolid c) lineBreak more ++ text, last,
          trailing, after)
      else (before ++ line, lineBreak, more, c)
    else ([], [], before, c)

/-- Reads the block text at a place inside a block whose indentation is `parent`, if there is
one. -/
def scan (folded : Bool) (parent : Option Nat) (c : Cursor) :
    Except Fault (List Char × Cursor) := do
  let (header, c) ← signs c.next
  if !endsField c.peek then throw .malformed
  let c ← restOfLine c
  let least := (parent.map (· + 1)).getD 0 |> max 1
  let (indent, before, c) := match header.increment with
    | none =>
      let (before, widest, c) := leadingBreaks (c.left + 1) 0 c
      (max least widest, before, c)
    | some i =>
      let indent := least + i - 1
      let (before, c) := breaks indent (c.left + 1) c
      (indent, before, c)
  let (text, last, trailing, c) := lines folded indent (c.left + 1) before c
  let tail := match header.chomping with
    | .strip => []
    | .clip => last
    | .keep => last ++ trailing
  return (text ++ tail, c)

end WorkspaceLink.Yaml.Block
