import WorkspaceLink.Decimal.Reader
import WorkspaceLink.Text.Utf8
import WorkspaceLink.Yaml.Cursor
import WorkspaceLink.Yaml.Fault
import WorkspaceLink.Yaml.Token

/-!
# Names in documents

Tags, the instructions that abbreviate them, anchors and aliases.
-/

namespace WorkspaceLink.Yaml.TagName

/-- The characters of a resource identifier. -/
def isUriChar (c : Char) : Bool :=
  c.isAlphanum || "-;/?:@&=+$,_.!~*'()[]%".toList.contains c

/-- The bytes of escapes by percent signs, and the place after them. -/
def escapedBytes : Nat → Cursor → Except Fault (List UInt8 × Cursor)
  | 0, c => .ok ([], c)
  | n + 1, c =>
    match c.rest with
    | '%' :: a :: b :: _ =>
      if isHexDigit a && isHexDigit b then do
        let (more, after) ← escapedBytes n (c.skip 3)
        return (UInt8.ofNat ((Decimal.natOfDigits? 16 [a, b]).getD 0) :: more, after)
      else .error .malformed
    | '%' :: ds => .error (if ds.all isHexDigit then .truncated else .malformed)
    | _ => .ok ([], c)

/-- The pieces of a resource identifier, and the place after it. -/
def uriChars : Nat → Cursor → Except Fault (List Char × Cursor)
  | 0, c => .ok ([], c)
  | n + 1, c => do
    let (run, c) := c.takeWhile fun ch => isUriChar ch && ch != '%'
    if c.peek = some '%' then
      let (bytes, c) ← escapedBytes (c.left + 1) c
      match Text.decodeUtf8? bytes with
      | none => throw .malformed
      | some cs =>
        let (more, after) ← uriChars n c
        return (run ++ cs ++ more, after)
    else return (run, c)

/-- A resource identifier, which is not empty. -/
def uri (c : Cursor) : Except Fault (String × Cursor) := do
  let (cs, after) ← uriChars (c.left + 1) c
  if after.index = c.index then throw c.unexpected
  return (String.ofList cs, after)

/-- A handle: an exclamation mark, or a name between two of them. -/
def handle (c : Cursor) : Except Fault (String × Cursor) :=
  if c.peek ≠ some '!' then .error c.unexpected
  else if c.peekAt 1 = some ' ' then .ok ("!", c.next)
  else
    let (name, c) := c.next.takeWhile isNameChar
    if c.peek = some '!' then .ok (String.ofList ('!' :: name ++ ['!']), c.next)
    else .error c.unexpected

/-- Whether the word at a place has a second exclamation mark. -/
def hasHandle (c : Cursor) : Bool :=
  (c.next.rest.takeWhile fun ch => !endsField (some ch)).contains '!'

def scan (c : Cursor) : Except Fault (Token × Cursor) := do
  let (token, after) ←
    if c.peekAt 1 = some '<' then do
      let (suffix, c) ← uri (c.skip 2)
      if c.peek ≠ some '>' then throw c.unexpected
      pure (Token.tag none suffix, c.next)
    else if endsWord (c.peekAt 1) then pure (Token.tag none "!", c.next)
    else do
      let (name, c) ← if hasHandle c then handle c else pure ("!", c.next)
      let (suffix, c) ← uri c
      pure (Token.tag (some name) suffix, c)
  if endsField after.peek then return (token, after) else throw .malformed

/-- Reads the name of an anchor or alias, after its sign. -/
def anchorName (c : Cursor) : Except Fault (String × Cursor) :=
  let (name, c) := c.takeWhile isNameChar
  let ended := endsWord c.peek ||
    c.peek.any fun ch => ['?', ':', ',', ']', '}', '%', '@', '\x60'].contains ch
  if name.isEmpty || !ended then .error c.unexpected else .ok (String.ofList name, c)

def number (c : Cursor) : Except Fault (Nat × Cursor) :=
  let (digits, after) := c.takeWhile Char.isDigit
  if Decimal.maxWholeDigits < digits.length then .error (.scalar (.tooManyDigits digits.length))
  else
    match Decimal.natOfDigits? 10 digits with
    | some n => .ok (n, after)
    | none => .error c.unexpected

/-- The place after spaces. -/
def skipSpaces (c : Cursor) : Cursor :=
  c.dropWhile (· == ' ')

/-- The version that an instruction names. -/
def version (c : Cursor) : Except Fault (Directive × Cursor) := do
  let (major, c) ← number (skipSpaces c)
  if c.peek ≠ some '.' then throw c.unexpected
  let (minor, c) ← number c.next
  if endsField c.peek then return (.version major minor, c) else throw .malformed

/-- The abbreviation that an instruction introduces. -/
def tagPrefix (c : Cursor) : Except Fault (Directive × Cursor) := do
  let (name, c) ← handle (skipSpaces c)
  if c.peek ≠ some ' ' then throw c.unexpected
  let (text, c) ← uri (skipSpaces c)
  if endsField c.peek then return (.tagPrefix name text, c) else throw .malformed

/-- Reads an instruction and the rest of its line. -/
def directive (c : Cursor) : Except Fault (Token × Cursor) := do
  let (name, c) := c.next.takeWhile isNameChar
  if name.isEmpty || !endsField c.peek then throw c.unexpected
  let (d, c) ← match String.ofList name with
    | "YAML" => version c
    | "TAG" => tagPrefix c
    | _ => pure (.other, c.dropWhile fun ch => !isBreak ch)
  let c := (skipSpaces c).skipComment
  if endsLine c.peek then return (.directive d, c.next) else throw .malformed

end WorkspaceLink.Yaml.TagName
