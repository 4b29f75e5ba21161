import WorkspaceLink.Value
import WorkspaceLink.Value.Misfit

/-!
# Named arguments

Arguments are given by name, in any order. Those that are not given take their default, and one
without a default has to be given.
-/

namespace WorkspaceLink

/-- The names of the arguments that are taken, with their defaults. -/
abbrev Signature := List (String × Option Value)

/-- The value of every argument that is taken. -/
abbrev Arguments := List (String × Value)

namespace Signature

def takes (s : Signature) (name : Scalar) : Bool :=
  s.any fun p => name.same (.str p.1)

def valueOf (given : Fields) (p : String × Option Value) : Except Misfit (String × Value) :=
  match given.field? p.1 <|> p.2 with
  | some v => .ok (p.1, v)
  | none => .error .wrongArguments

def bind (s : Signature) (given : Fields) : Except Misfit Arguments :=
  if given.keys.all s.takes then s.mapM (valueOf given) else .error .wrongArguments

end Signature

def Arguments.value (a : Arguments) (name : String) : Value :=
  (a.lookup name).getD .null

end WorkspaceLink
