import WorkspaceLink.Host
import WorkspaceLink.Value.Misfit
import WorkspaceLink.Value.Printer

/-!
# Tags

The tags of a configuration are texts; those of a remote object are taken as they are.
-/

namespace WorkspaceLink

/-- Tags in order, each with a text. -/
abbrev Tags := List (Scalar × String)

namespace Tags

/-- The text of a tag's value: nothing is the empty text. -/
def textOf (v : Value) : String :=
  if v.isNull then "" else v.display

/-- The text of a tag's value, if it can be written. -/
def text [Host] (v : Value) : Except Misfit String :=
  if v.isNull then .ok "" else v.shown Host.tagRoom

/-- Turns the values of a mapping into texts; anything that counts as false has no tags. -/
def expand [Host] (v : Value) : Except Misfit Tags :=
  if v.truthy then
    match v.unrolled with
    | .map fs => fs.mapM fun f => do return (f.1, ← text f.2)
    | _ => .error .notMapping
  else .ok []

/-- The entries of a mapping as they are; anything that counts as false has none. -/
def flatten (v : Value) : Except Misfit Fields :=
  if v.truthy then
    match v.unrolled with
    | .map fs => .ok fs
    | _ => .error .notMapping
  else .ok []

def toFields (tags : Tags) : Fields :=
  tags.map fun t => (t.1, .str t.2)

def toValue (tags : Tags) : Value :=
  .map tags.toFields

@[simp] theorem expand_nil [Host] : expand (.map []) = .ok [] := rfl

end Tags

end WorkspaceLink
