import WorkspaceLink.Host
import WorkspaceLink.Text.Utf8
import WorkspaceLink.Yaml.Fault

/-!
# Sources of documents

The text of a document is read in portions, each only when it is needed. A portion that cannot be
read, or that holds a character which no document may hold, cuts the text off: a fault of the
grammar before it is still found, one after it is not. How many characters can be read before bytes
that are none depends on the machine, which decodes ahead.
-/

namespace WorkspaceLink.Yaml

/-- A text and what cut it off, if it goes on after its characters. -/
structure Source where
  chars : List Char
  cut : Option Fault

namespace Source

/-- The number of characters that are read at once. -/
def portion : Nat := 4096

/-- Where the portion begins that holds the character at a place; the first two portions are read
together. -/
def portionStart (place : Nat) : Nat :=
  if place < 2 * portion then 0 else place / portion * portion

/-- Whether a character may stand in a document. -/
def isAllowed (c : Char) : Bool :=
  let n := c.toNat
  n == 0x9 || n == 0xa || n == 0xd || (0x20 ≤ n && n ≤ 0x7e) || n == 0x85 ||
    (0xa0 ≤ n && n ≤ 0xfffd) || 0x10000 ≤ n

/-- The text of bytes, up to the first portion that cannot be used. -/
def ofBytes [Host] (bytes : List UInt8) : Source :=
  let d := Text.decode bytes
  let cs := Text.unifyNewlines (d.chars.map (·.1))
  let undecodable := d.stop.map fun _ => portionStart (Host.decoded bytes)
  let forbidden := (cs.findIdx? fun c => !isAllowed c).map portionStart
  match undecodable, forbidden with
  | none, none => ⟨cs, none⟩
  | some n, none => ⟨cs.take n, some .undecodable⟩
  | none, some m => ⟨cs.take m, some .malformed⟩
  | some n, some m =>
    if n ≤ m then ⟨cs.take n, some .undecodable⟩ else ⟨cs.take m, some .malformed⟩

end Source

end WorkspaceLink.Yaml
