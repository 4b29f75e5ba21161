import WorkspaceLink.Text.Utf8
import WorkspaceLink.Value

/-!
# The machine that runs the program

What the program leaves to the machine: the order of a set, how much of a file has been decoded when
its bytes turn out to be no characters, and how far calls may be nested in one another. The room for
nested calls is what is left of it where the program begins.
-/

namespace WorkspaceLink

/-- A machine that runs the program. -/
class Host where
  /-- The members of a set in its own order; they are given in the order in which they were put
  in. -/
  arrange : List Scalar → List Scalar
  arrange_perm : ∀ members, (arrange members).Perm members
  /-- The number of characters that have been decoded when bytes are met that are none. -/
  decoded : List UInt8 → Nat
  decoded_le : ∀ bytes, decoded bytes ≤ (Text.decode bytes).chars.length
  /-- How many levels of a value can be written in a message about a name. -/
  nameRoom : Nat
  /-- How many levels of the value of a tag can be written. -/
  tagRoom : Nat
  /-- How many collections of a document may be read inside one another. -/
  nesting : Nat
  /-- How many mappings may take over entries, each from the next. -/
  merging : Nat
  /-- How many mappings a text may stand for, each inside the next. -/
  standing : Nat

end WorkspaceLink
