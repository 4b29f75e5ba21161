/-!
# Blanks

The characters that separate words, and texts without them at either end.
-/

namespace WorkspaceLink.Text

/-- Spaces, tabs, line ends and separators. -/
def isBlank (c : Char) : Bool :=
  let n := c.toNat
  (0x9 ≤ n && n ≤ 0xd) || (0x1c ≤ n && n ≤ 0x20) || n == 0x85 || n == 0xa0 || n == 0x1680 ||
    (0x2000 ≤ n && n ≤ 0x200a) || n == 0x2028 || n == 0x2029 || n == 0x202f || n == 0x205f ||
    n == 0x3000

/-- A text without the blanks at its start. -/
def trimStart (cs : List Char) : List Char :=
  cs.dropWhile isBlank

/-- A text without the blanks at its end. -/
def trimEnd (cs : List Char) : List Char :=
  (trimStart cs.reverse).reverse

/-- A text without the blanks at its start and end. -/
def trim (cs : List Char) : List Char :=
  trimEnd (trimStart cs)

/-- A text without one newline at its end. -/
def dropLastNewline (cs : List Char) : List Char :=
  if cs.getLast? = some '\n' then cs.dropLast else cs

end WorkspaceLink.Text
