import WorkspaceLink.Binary64
import WorkspaceLink.Calendar

/-!
# Loosely typed values

Configuration and remote data before they are checked: scalars, lists and mappings that keep the
order of their keys. Numbers of different kinds that are equal count as the same key. A value may
hold itself: it is a knot then, and `Value.unrolled` opens it one turn.
-/

namespace WorkspaceLink

/-- A value without parts. -/
inductive Scalar where
  | null
  | bool (b : Bool)
  | int (n : Int)
  | float (x : Binary64)
  | str (s : String)
  | date (d : Date)
  | dateTime (t : DateTime)
  | bytes (bs : List UInt8)
  deriving DecidableEq

/-- A scalar, a collection, or a collection that holds itself. -/
inductive Value where
  | scalar (s : Scalar)
  | list (xs : List Value)
  /-- A mapping from scalars. -/
  | map (fields : List (Scalar × Value))
  | pair (first second : Value)
  | set (members : List Scalar)
  /-- A value with a name, which stands for the value inside it. -/
  | knot (name : Nat) (body : Value)
  /-- The value around this one that has the name. -/
  | again (name : Nat)

/-- The keys and values of a mapping, in order. -/
abbrev Fields := List (Scalar × Value)

namespace Scalar

/-- The number that a scalar is, if it is a finite one; truth values are 0 and 1. -/
def number? : Scalar → Option Dyadic
  | .bool b => some (.ofInt b.toNat)
  | .int n => some (.ofInt n)
  | .float x => x.toDyadic?
  | _ => none

/-- Equality of scalars: by number among numbers and truth values, else by kind and content. -/
def same : Scalar → Scalar → Bool
  | .null, .null => true
  | .str a, .str b => a == b
  | .date a, .date b => a == b
  | .dateTime a, .dateTime b => a.same b
  | .bytes a, .bytes b => a == b
  | .float (.infinite s), .float (.infinite t) => s == t
  | a, b =>
    match a.number?, b.number? with
    | some x, some y => x.same y
    | _, _ => false

/-- Whether a scalar counts as true: all but nothing, false, zero and the empty texts. -/
def truthy : Scalar → Bool
  | .null => false
  | .bool b => b
  | .int n => n != 0
  | .float x => !x.isZero
  | .str s => s != ""
  | .bytes bs => !bs.isEmpty
  | .date _ | .dateTime _ => true

@[simp] theorem same_str (a b : String) : same (.str a) (.str b) = (a == b) := rfl

theorem same_str_iff {a : String} {k : Scalar} : same k (.str a) = true ↔ k = .str a := by
  cases k with
  | str s => simp
  | float x => cases x <;> simp [same, number?]
  | _ => simp [same, number?]

end Scalar

namespace Fields

def get? (fields : Fields) (key : Scalar) : Option Value :=
  (fields.find? fun f => f.1.same key).map (·.2)

/-- The value of a key that is a string. -/
def field? (fields : Fields) (name : String) : Option Value :=
  fields.get? (.str name)

/-- Sets the value of a key; a key that is there keeps its place and its spelling. -/
def insert (fields : Fields) (key : Scalar) (value : Value) : Fields :=
  match fields with
  | [] => [(key, value)]
  | (k, v) :: rest => if k.same key then (k, value) :: rest else (k, v) :: insert rest key value

/-- Sets several keys in order. -/
def insertAll (fields : Fields) (entries : Fields) : Fields :=
  entries.foldl (fun acc e => acc.insert e.1 e.2) fields

/-- The mapping with these entries: of equal keys the first is kept, with the last value. -/
def ofEntries (entries : Fields) : Fields :=
  insertAll [] entries

def keys (fields : Fields) : List Scalar :=
  fields.map (·.1)

end Fields

namespace Value

@[match_pattern] abbrev null : Value := .scalar .null
@[match_pattern] abbrev bool (b : Bool) : Value := .scalar (.bool b)
@[match_pattern] abbrev int (n : Int) : Value := .scalar (.int n)
@[match_pattern] abbrev str (s : String) : Value := .scalar (.str s)

instance : Inhabited Value := ⟨null⟩

mutual
/-- Puts a value in the place of a name. A knot of the same name keeps what is inside it. -/
def replace (name : Nat) (w : Value) : Value → Value
  | .scalar s => .scalar s
  | .list xs => .list (replaceList name w xs)
  | .map fs => .map (replaceFields name w fs)
  | .pair a b => .pair (replace name w a) (replace name w b)
  | .set ms => .set ms
  | .knot n v => .knot n (if n = name then v else replace name w v)
  | .again n => if n = name then w else .again n

/-- Puts a value in the place of a name in the elements of a list. -/
def replaceList (name : Nat) (w : Value) : List Value → List Value
  | [] => []
  | x :: xs => replace name w x :: replaceList name w xs

/-- Puts a value in the place of a name in the entries of a mapping. -/
def replaceFields (name : Nat) (w : Value) : List (Scalar × Value) → List (Scalar × Value)
  | [] => []
  | (k, v) :: rest => (k, replace name w v) :: replaceFields name w rest
end

/-- A value whose parts can be looked at: a knot is opened by putting it in the place of its
name. -/
def unrolled : Value → Value
  | .knot n v => replace n (.knot n v) v
  | v => v

@[simp] theorem unrolled_scalar (s : Scalar) : unrolled (.scalar s) = .scalar s := rfl

@[simp] theorem unrolled_list (xs : List Value) : unrolled (.list xs) = .list xs := rfl

@[simp] theorem unrolled_map (fs : Fields) : unrolled (.map fs) = .map fs := rfl

mutual
/-- Equality of values: lists by position, mappings by key whatever their order. Knots equal
nothing. -/
def same : Value → Value → Bool
  | .scalar a, .scalar b => a.same b
  | .list xs, .list ys => sameList xs ys
  | .map fs, .map gs => fs.length == gs.length && sameFields fs gs
  | .pair a b, .pair c d => same a c && same b d
  | .set xs, .set ys => xs.length == ys.length && xs.all fun x => ys.any x.same
  | _, _ => false

/-- Equality of lists, position by position. -/
def sameList : List Value → List Value → Bool
  | [], [] => true
  | x :: xs, y :: ys => same x y && sameList xs ys
  | _, _ => false

/-- Whether a second mapping has an equal value for every key of a first. -/
def sameFields : List (Scalar × Value) → Fields → Bool
  | [], _ => true
  | (k, v) :: rest, gs =>
    (match gs.get? k with
      | some w => same v w
      | none => false) && sameFields rest gs
end

/-- Whether a value counts as true. -/
def truthy : Value → Bool
  | .scalar s => s.truthy
  | .list xs => !xs.isEmpty
  | .map fs => !fs.isEmpty
  | .set ms => !ms.isEmpty
  | .pair _ _ | .knot _ _ | .again _ => true

def isNull : Value → Bool
  | .null => true
  | _ => false

/-- The elements that going through a value meets: the keys of a mapping, the characters of a text,
the bytes of a byte string. -/
def elements? (v : Value) : Option (List Value) :=
  match v.unrolled with
  | .list xs => some xs
  | .map fs => some ((Fields.keys fs).map .scalar)
  | .pair a b => some [a, b]
  | .set ms => some (ms.map .scalar)
  | .str s => some (s.toList.map fun c => .str c.toString)
  | .scalar (.bytes bs) => some (bs.map fun b => .int b.toNat)
  | _ => none

def record (fields : List (String × Value)) : Value :=
  .map (fields.map fun f => (.str f.1, f.2))

def ofString? : Option String → Value
  | some s => .str s
  | none => .null

end Value

/-- A mapping whose entries may hold the mapping itself, by a name. -/
structure RootMap where
  name : Option Nat
  fields : Fields

namespace RootMap

/-- A mapping that does not hold itself. -/
def ofFields (fields : Fields) : RootMap := ⟨none, fields⟩

def ofValue? : Value → Option RootMap
  | .map fields => some (ofFields fields)
  | .knot n (.map fields) => some ⟨some n, fields⟩
  | _ => none

/-- The entries, with the mapping in the place of its name. -/
def unrolled (r : RootMap) : Fields :=
  match r.name with
  | none => r.fields
  | some n => Value.replaceFields n (.knot n (.map r.fields)) r.fields

@[simp] theorem unrolled_ofFields (fields : Fields) : (ofFields fields).unrolled = fields := rfl

end RootMap

end WorkspaceLink
