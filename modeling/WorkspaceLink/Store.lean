import WorkspaceLink.Client

/-!
# Stores

A service in memory: linked services under a subscription, one for each resource group, workspace
and name, whatever their case. The items are kept in the order of their keys.
-/

namespace WorkspaceLink

namespace Store

/-- The names that tell an item, in lower case. -/
structure Key where
  group : String
  workspace : String
  name : String
  deriving DecidableEq

/-- A linked service as it was last written. -/
structure Item where
  group : String
  workspace : String
  name : String
  resourceId : Value
  tags : Value

namespace Key

def of (group workspace name : String) : Key :=
  ⟨Unicode.lowerString group, Unicode.lowerString workspace, Unicode.lowerString name⟩

/-- The order of keys: by group, then workspace, then name. -/
def before (a b : Key) : Bool :=
  if a.group ≠ b.group then a.group < b.group
  else if a.workspace ≠ b.workspace then a.workspace < b.workspace
  else a.name < b.name

/-- The key of an address that is made of texts. -/
def ofAddress? : Address → Option Key
  | ⟨.str g, .str w, .str n⟩ => some (of g w n)
  | _ => none

end Key

def Item.key (i : Item) : Key :=
  .of i.group i.workspace i.name

abbrev Items := List (Key × Item)

namespace Items

def find? (items : Items) (k : Key) : Option Item :=
  (List.find? (fun e => e.1 == k) items).map (·.2)

/-- Puts an item at its place, instead of the one that has its key. -/
def insert (k : Key) (i : Item) : Items → Items
  | [] => [(k, i)]
  | (l, j) :: rest =>
    if k = l then (k, i) :: rest
    else if k.before l then (k, i) :: (l, j) :: rest
    else (l, j) :: insert k i rest

/-- Takes an item away. -/
def erase (items : Items) (k : Key) : Items :=
  items.filter fun e => e.1 != k

end Items

end Store

/-- A service in memory. -/
structure Store where
  subscription : String
  items : Store.Items

namespace Store

/-- The failure for an item that is not there. -/
def absence : Failure :=
  ⟨.notFound, some "Operation returned an invalid status 'Not Found'", .null⟩

/-- The failure for an address that is not made of texts. -/
def unsupported : Failure :=
  ⟨.unsupportedAddress, none, .null⟩

/-- The id of an item, spelled as it was last written. -/
def idOf (s : Store) (i : Item) : LinkId :=
  ⟨s.subscription, i.group, i.workspace, i.name⟩

/-- An item as the service answers with it. -/
def remoteOf (s : Store) (i : Item) : Remote :=
  ⟨.str (s.idOf i).print, some (.str i.name), i.resourceId, some i.tags⟩

def put (s : Store) (i : Item) : Store :=
  { s with items := s.items.insert i.key i }

def remove (s : Store) (k : Key) : Store :=
  { s with items := s.items.erase k }

/-- A store that holds these items, of which later ones replace earlier ones. -/
def ofItems (subscription : String) (items : List Item) : Store :=
  items.foldl put ⟨subscription, []⟩

/-- Answers a question for an item. -/
def get (a : Address) (s : Store) : Except Failure (Option Remote) × Store :=
  match Key.ofAddress? a with
  | none => (.error unsupported, s)
  | some k =>
    match s.items.find? k with
    | some i => (.ok (some (s.remoteOf i)), s)
    | none => (.error absence, s)

/-- The item that a payload makes of an address. -/
def itemOf? (a : Address) (p : Payload) : Option Item :=
  match a with
  | ⟨.str g, .str w, .str n⟩ => some ⟨g, w, n, Value.ofString? p.resourceId, p.tags.toValue⟩
  | _ => none

def write (a : Address) (p : Payload) (s : Store) : Except Failure Unit × Store :=
  match itemOf? a p with
  | some i => (.ok (), s.put i)
  | none => (.error unsupported, s)

def delete (a : Address) (s : Store) : Except Failure Unit × Store :=
  match Key.ofAddress? a with
  | none => (.error unsupported, s)
  | some k =>
    match s.items.find? k with
    | some _ => (.ok (), s.remove k)
    | none => (.error absence, s)

/-- Whether an item is in a workspace. -/
def Key.isIn (group workspace : String) (k : Key) : Bool :=
  k.group == Unicode.lowerString group && k.workspace == Unicode.lowerString workspace

/-- Answers a question for all items of a workspace. -/
def list (group workspace : Value) (s : Store) : Except Failure (List (Option Remote)) × Store :=
  match group, workspace with
  | .str g, .str w =>
    (.ok ((s.items.filter fun e => e.1.isIn g w).map fun e => some (s.remoteOf e.2)), s)
  | _, _ => (.error unsupported, s)

def client : Client Store := ⟨get, write, delete, list⟩

end Store

end WorkspaceLink
