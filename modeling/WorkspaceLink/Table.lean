import WorkspaceLink.Schema

/-!
# Tables

A linked service as a row of named columns.
-/

namespace WorkspaceLink

namespace Table

/-- A row: columns and values in order. -/
abbrev Row := List (String × Value)

/-- An entry of a value, nothing if it has no such entry. -/
def entry (v : Value) (name : String) : Value :=
  match v with
  | .map fs => (Fields.field? fs name).getD .null
  | _ => .null

/-- The row of a value; nothing has no row. -/
def row (v : Value) : Option Row :=
  if v.isNull then none
  else
    some [("name", entry v Field.reportedName.key),
      ("workspaceName", entry v Field.workspace.key),
      ("resourceGroup", entry v Field.group.key),
      ("resourceId", entry (entry v Field.properties.key) resourceIdKey)]

def ofOne (v : Value) : List (Option Row) :=
  [row v]

/-- The table of the elements of a value. -/
def ofList (v : Value) : Except Misfit (List (Option Row)) :=
  match v.elements? with
  | some vs => .ok (vs.map row)
  | none => .error .notIterable

end Table

end WorkspaceLink
