import WorkspaceLink.Yaml.Cursor

/-!
# Plain texts

A text without quotes ends at a comment, at a colon in front of a gap, at the indentation of what
is around it, and inside brackets at the signs of the brackets.
-/

namespace WorkspaceLink.Yaml.Plain

/-- Whether a plain text stops at a character, before the character that follows it. -/
def stops (inFlow : Bool) (c : Char) (following : Option Char) : Bool :=
  endsWord (some c) ||
    (c == ':' && (endsWord following ||
      (inFlow && following.any fun f => [',', '[', ']', '{', '}'].contains f))) ||
    (inFlow && [',', '?', '[', ']', '{', '}'].contains c)

/-- The characters up to where a plain text stops. -/
def run (inFlow : Bool) : List Char → List Char
  | [] => []
  | c :: cs => if stops inFlow c cs.head? then [] else c :: run inFlow cs

/-- The line ends between two lines of a plain text, and the place after them; nothing if a mark
between documents follows one of them. -/
def breaks : Nat → Cursor → Option (List Char) × Cursor
  | 0, c => (some [], c)
  | n + 1, c =>
    match c.rest with
    | [] => (some [], c)
    | ch :: _ =>
      if ch = ' ' then breaks n c.next
      else if isBreak ch then
        if c.next.atAnyMark then (none, c.next)
        else
          let (more, after) := breaks n c.next
          (more.map (breakChar ch :: ·), after)
      else (some [], c)

/-- What two lines of a text are joined by: a space for one newline, the other line ends as they
are. -/
def joint (first : Char) (more : List Char) : List Char :=
  if breakChar first ≠ '\n' then breakChar first :: more
  else if more.isEmpty then [' ']
  else more

/-- The gap after a run: its text, which is empty if the plain text ends here, the place after it,
and whether a line ended in it. -/
def gap (c : Cursor) : List Char × Cursor × Bool :=
  let (spaces, c) := c.takeWhile (· == ' ')
  match c.peek with
  | some ch =>
    if isBreak ch then
      if c.next.atAnyMark then ([], c.next, true)
      else
        match breaks c.left c.next with
        | (none, c) => ([], c, true)
        | (some more, c) => (joint ch more, c, true)
    else (spaces, c, false)
  | none => (spaces, c, false)

/-- A plain text that has been read: its characters, the place after it, and whether a line ended
after its last run. -/
structure Read where
  text : List Char
  cursor : Cursor
  lineEnded : Bool

/-- Reads a plain text that is indented by `indent` columns, after the gap in front of it. -/
def read (inFlow : Bool) (indent : Nat) : Nat → List Char → Bool → Cursor → Read
  | 0, _, lineEnded, c => ⟨[], c, lineEnded⟩
  | n + 1, before, lineEnded, c =>
    let taken := run inFlow c.rest
    if c.peek = some '#' ∨ taken.isEmpty then ⟨[], c, lineEnded⟩
    else
      let (after, c, lineEnded) := gap (c.skip taken.length)
      if after.isEmpty ∨ c.peek = some '#' ∨ (!inFlow ∧ c.column < indent) then
        ⟨before ++ taken, c, lineEnded⟩
      else
        let r := read inFlow indent n after lineEnded c
        ⟨before ++ taken ++ r.text, r.cursor, r.lineEnded⟩

/-- Reads the plain text at a place. -/
def scan (inFlow : Bool) (indent : Nat) (c : Cursor) : Read :=
  read inFlow indent (c.left + 1) [] false c

end WorkspaceLink.Yaml.Plain
