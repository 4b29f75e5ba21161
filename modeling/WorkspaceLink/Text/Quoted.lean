import WorkspaceLink.Unicode.Printable

/-!
# Quoted texts

A text between quotes, with what does not print written as an escape. A single quote encloses it,
unless the text has single quotes and no double ones.
-/

namespace WorkspaceLink.Text

/-- The hexadecimal digits of a number, zeros in front up to a length. -/
def hex (width n : Nat) : List Char :=
  let ds := Nat.toDigits 16 n
  List.replicate (width - ds.length) '0' ++ ds

def quoteFor (cs : List Char) : Char :=
  if cs.contains '\'' && !cs.contains '"' then '"' else '\''

/-- A character that has an escape of its own. -/
def shortEscape? (quote c : Char) : Option (List Char) :=
  if c = quote ∨ c = '\\' then some ['\\', c]
  else if c = '\n' then some ['\\', 'n']
  else if c = '\r' then some ['\\', 'r']
  else if c = '\t' then some ['\\', 't']
  else none

/-- An escape by code point, in the shortest of the three widths. -/
def codeEscape (n : Nat) : List Char :=
  if n < 0x100 then '\\' :: 'x' :: hex 2 n
  else if n < 0x10000 then '\\' :: 'u' :: hex 4 n
  else '\\' :: 'U' :: hex 8 n

/-- How a character is written between quotes. -/
def escapeChar (quote c : Char) : List Char :=
  (shortEscape? quote c).getD (if Unicode.isPrintable c then [c] else codeEscape c.toNat)

def quoted (cs : List Char) : List Char :=
  let q := quoteFor cs
  q :: cs.flatMap (escapeChar q) ++ [q]

/-- How a byte is written between quotes: only ASCII prints. -/
def escapeByte (quote : Char) (b : UInt8) : List Char :=
  let c := Char.ofNat b.toNat
  (shortEscape? quote c).getD
    (if 0x20 ≤ b && b < 0x7f then [c] else '\\' :: 'x' :: hex 2 b.toNat)

/-- Bytes between quotes, marked as such. -/
def quotedBytes (bs : List UInt8) : List Char :=
  let q := quoteFor (bs.map fun b => Char.ofNat b.toNat)
  'b' :: q :: bs.flatMap (escapeByte q) ++ [q]

def quotedString (s : String) : String :=
  String.ofList (quoted s.toList)

end WorkspaceLink.Text
