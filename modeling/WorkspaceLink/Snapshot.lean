import WorkspaceLink.Fault
import WorkspaceLink.Schema

/-!
# Snapshots

What is known of a linked service: that it is absent, or its id and data.
-/

namespace WorkspaceLink

/-- What is known of a linked service. -/
inductive Snapshot where
  | absent
  | present (id : Value) (data : Fields)

namespace Snapshot

/-- The entry that an element of a list stands for. -/
def entryOf (index : Nat) (v : Value) : Except Misfit (Scalar × Value) :=
  match v.elements? with
  | some [.scalar k, v] => .ok (k, v)
  | some [_, _] => .error .unhashable
  | some parts => .error (.notPair index parts.length)
  | none => .error .notIterable

/-- The entries that the elements of a list stand for, from an index on. -/
def entriesOf : Nat → List Value → Except Misfit Fields
  | _, [] => .ok []
  | i, v :: vs => do
    let e ← entryOf i v
    return e :: (← entriesOf (i + 1) vs)

/-- The data of a value: a mapping, or pairs of keys and values; what counts as false is empty. -/
def dataOf (v : Value) : Except Misfit Fields :=
  if !v.truthy then .ok []
  else
    match v with
    | .map fs => .ok fs
    | v =>
      match v.elements? with
      | some vs => (entriesOf 0 vs).map Fields.ofEntries
      | none => .error .notIterable

/-- The snapshot of an id and data: absent if the id counts as false. -/
def ofParts (id data : Value) : Except Fault Snapshot := do
  if id.truthy then return .present id (← Fault.ofMisfit (dataOf data)) else return .absent

/-- The snapshot of an id and data that says that something is there. -/
def ofPresent (id data : Value) : Except Fault Snapshot :=
  if id.truthy then ofParts id data else .error .snapshotWithoutId

def isPresent : Snapshot → Bool
  | .absent => false
  | .present _ _ => true

def id : Snapshot → Value
  | .absent => .null
  | .present id _ => id

/-- The data, empty if nothing is there. -/
def data : Snapshot → Fields
  | .absent => []
  | .present _ data => data

/-- Id and data in one mapping. -/
def toFields : Snapshot → Fields
  | .absent => []
  | .present id data => Fields.insertAll [(.str "id", id)] data

/-- Whether two snapshots are of the same id and data. -/
def same (a b : Snapshot) : Bool :=
  a.id.same b.id && (Value.map a.data).same (.map b.data)

def text : Snapshot → String
  | .absent => "<ResourceState absent>"
  | .present id _ => "<ResourceState present " ++ id.display ++ ">"

end Snapshot

end WorkspaceLink
