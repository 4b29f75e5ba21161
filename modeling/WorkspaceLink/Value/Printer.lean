import WorkspaceLink.Decimal.Shortest
import WorkspaceLink.Decimal.Whole
import WorkspaceLink.Text.Quoted
import WorkspaceLink.Value
import WorkspaceLink.Value.Misfit

/-!
# The text of values

A value is displayed as its literal, except that a text, a date and a time stand for themselves.
Where a collection holds itself its literal is cut short. Whole numbers of very many digits have no
text at all, and neither have collections that are nested more deeply than there is room for.
-/

namespace WorkspaceLink

/-- Numbers are positional from `0.0001` up to, but not including, `1e16`; whole ones end in `.0`,
and an exponent has a sign and at least two digits. -/
def numberFormat : Decimal.Format := ⟨-3, 16, ".0", 2⟩

def Binary64.text : Binary64 → String
  | .nan => "nan"
  | .infinite s => (if s then "-" else "") ++ "inf"
  | .finite s m e =>
    let digits := if m = 0 then "0.0".toList else numberFormat.write (Decimal.shortest m e)
    (if s then "-" else "") ++ String.ofList digits

namespace Scalar

def literal : Scalar → String
  | .null => "None"
  | .bool true => "True"
  | .bool false => "False"
  | .int n => toString n
  | .float x => x.text
  | .str s => Text.quotedString s
  | .date d => d.literal
  | .dateTime t => t.literal
  | .bytes bs => String.ofList (Text.quotedBytes bs)

/-- A scalar as it is shown on its own. -/
def display : Scalar → String
  | .str s => s
  | .date d => d.text
  | .dateTime t => t.text
  | s => s.literal

/-- How many levels a scalar takes where it is written inside a collection: a time is written with
its time zone, and that with its distance from universal time. -/
def levels : Scalar → Nat
  | .dateTime t =>
    match t.offset with
    | none => 1
    | some m => if m = 0 then 2 else 3
  | _ => 1

/-- Whether a scalar can be written: whole numbers only up to a number of digits. -/
def isWritable : Scalar → Bool
  | .int n => n.natAbs < Nat.pow 10 Decimal.maxWholeDigits
  | _ => true

def shown (s : Scalar) : Except Misfit String :=
  if s.isWritable then .ok s.display else .error .unwritable

@[simp] theorem shown_str (s : String) : shown (.str s) = .ok s := rfl

end Scalar

namespace Value

/-- What stands for a collection inside itself. -/
def outline : Value → String
  | .list _ => "[...]"
  | .map _ => "\x7b...\x7d"
  | _ => "..."

mutual
/-- The literal of a value inside knots, each with what stands for it. -/
def literalIn (around : List (Nat × String)) : Value → String
  | .scalar s => s.literal
  | .list xs => "[" ++ ", ".intercalate (literals around xs) ++ "]"
  | .map fs => "\x7b" ++ ", ".intercalate (fieldLiterals around fs) ++ "\x7d"
  | .pair a b => "(" ++ literalIn around a ++ ", " ++ literalIn around b ++ ")"
  | .set [] => "set()"
  | .set ms => "\x7b" ++ ", ".intercalate (ms.map Scalar.literal) ++ "\x7d"
  | .knot n v =>
    match around.lookup n with
    | some text => text
    | none => literalIn ((n, v.outline) :: around) v
  | .again n => (around.lookup n).getD ""

/-- The literals of the elements of a list. -/
def literals (around : List (Nat × String)) : List Value → List String
  | [] => []
  | x :: xs => literalIn around x :: literals around xs

/-- The literals of the entries of a mapping. -/
def fieldLiterals (around : List (Nat × String)) : List (Scalar × Value) → List String
  | [] => []
  | (k, v) :: rest => (k.literal ++ ": " ++ literalIn around v) :: fieldLiterals around rest
end

def literal (v : Value) : String :=
  literalIn [] v

/-- A value as it is shown on its own. -/
def display : Value → String
  | .scalar s => s.display
  | v => v.literal

@[simp] theorem display_str (s : String) : display (.str s) = s := rfl

mutual
/-- What is met when a value inside knots is written, in order, each with its level: the scalars in
it, and each collection before its parts, like nothing. The members of a set are written as a
list. -/
def visitsIn (around : List Nat) (level : Nat) : Value → List (Nat × Scalar)
  | .scalar s => [(level + s.levels, s)]
  | .list xs => (level + 1, .null) :: listVisits around (level + 1) xs
  | .map fs => (level + 1, .null) :: fieldVisits around (level + 1) fs
  | .pair a b =>
    (level + 1, .null) :: (visitsIn around (level + 1) a ++ visitsIn around (level + 1) b)
  | .set ms => (level + 1, .null) :: ms.map fun s => (level + 2 + s.levels, s)
  | .knot n v => if n ∈ around then [(level + 1, .null)] else visitsIn (n :: around) level v
  | .again _ => [(level + 1, .null)]

/-- What is met in the elements of a list. -/
def listVisits (around : List Nat) (level : Nat) : List Value → List (Nat × Scalar)
  | [] => []
  | x :: xs => visitsIn around level x ++ listVisits around level xs

/-- What is met in the entries of a mapping. -/
def fieldVisits (around : List Nat) (level : Nat) : List (Scalar × Value) → List (Nat × Scalar)
  | [] => []
  | (k, v) :: rest =>
    (level + k.levels, k) :: (visitsIn around level v ++ fieldVisits around level rest)
end

/-- What is met when a value is shown on its own; a scalar then takes no room. -/
def visits : Value → List (Nat × Scalar)
  | .scalar s => [(0, s)]
  | v => visitsIn [] 0 v

/-- Whether a value can be written where there is room for so many levels: none of its parts lies
deeper, and every scalar in it can be written. -/
def isWritable (room : Nat) (v : Value) : Bool :=
  v.visits.all fun p => p.1 ≤ room && p.2.isWritable

/-- What stands in the way of writing a value where there is room for so many levels: the first part
that lies too deep or cannot be written. -/
def obstacle? (room : Nat) (v : Value) : Option Misfit :=
  v.visits.findSome? fun p =>
    if room < p.1 then some .tooDeep else if p.2.isWritable then none else some .unwritable

def shown (room : Nat) (v : Value) : Except Misfit String :=
  match v.obstacle? room with
  | none => .ok v.display
  | some m => .error m

@[simp] theorem shown_str (room : Nat) (s : String) : shown room (.str s) = .ok s := rfl

end Value

end WorkspaceLink
