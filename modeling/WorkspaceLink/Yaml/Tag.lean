import WorkspaceLink.Yaml.Number
import WorkspaceLink.Yaml.Timestamp

/-!
# Tags of nodes

A tag says what kind of value a node announces. A plain text that has none is given one by its
spelling.
-/

namespace WorkspaceLink.Yaml

/-- What kind of value a node announces. -/
inductive Tag where
  | null
  | bool
  | int
  | float
  | binary
  | timestamp
  | omap
  | pairs
  | set
  | str
  | seq
  | map
  /-- The key of entries that are taken over from other mappings. -/
  | merge
  /-- The key of the text that stands for a whole mapping. -/
  | value
  | other (uri : String)
  deriving DecidableEq

namespace Tag

/-- The namespace of the known kinds. -/
def namespaceUri : String := "tag:yaml.org,2002:"

/-- The known kinds by name. -/
def known : List (String × Tag) :=
  [("null", .null), ("bool", .bool), ("int", .int), ("float", .float), ("binary", .binary),
    ("timestamp", .timestamp), ("omap", .omap), ("pairs", .pairs), ("set", .set), ("str", .str),
    ("seq", .seq), ("map", .map), ("merge", .merge), ("value", .value)]

def ofUri (uri : String) : Tag :=
  match known.find? fun k => namespaceUri ++ k.1 == uri with
  | some k => k.2
  | none => .other uri

/-- The words for true and false, with their values. -/
def booleans : List (String × Bool) :=
  [("yes", true), ("no", false), ("true", true), ("false", false), ("on", true), ("off", false)]

/-- Whether a text is a word: all in small letters, with a capital or in capitals. -/
def isWord (word : String) (cs : List Char) : Bool :=
  let small := word.toList
  let capital := small.map Char.toUpper
  cs == small || cs == capital || cs == capital.take 1 ++ small.drop 1

/-- The tag of a plain text. One newline at its end does not count. -/
def ofPlain (text : List Char) : Tag :=
  let cs := Text.dropLastNewline text
  if text.isEmpty then .null
  else if booleans.any fun b => isWord b.1 cs then .bool
  else if Number.isFraction cs then .float
  else if Number.isInteger cs then .int
  else if cs == "<<".toList then .merge
  else if cs == ['~'] || isWord "null" cs then .null
  else if Timestamp.isSpelled cs then .timestamp
  else if cs == ['='] then .value
  else if cs == ['!'] || cs == ['&'] || cs == ['*'] then .other (namespaceUri ++ "yaml")
  else .str

end Tag

end WorkspaceLink.Yaml
