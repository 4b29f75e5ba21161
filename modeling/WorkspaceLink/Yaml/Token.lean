/-!
# Tokens

The words and marks of a document. Indentation is told by tokens of its own.
-/

namespace WorkspaceLink.Yaml

/-- A line of instructions before a document. -/
inductive Directive where
  | version (major minor : Nat)
  | tagPrefix (handle uri : String)
  | other
  deriving DecidableEq

inductive Token where
  | directive (d : Directive)
  | documentStart
  | documentEnd
  | streamEnd
  | blockSequenceStart
  | blockMappingStart
  | blockEnd
  | flowSequenceStart
  | flowSequenceEnd
  | flowMappingStart
  | flowMappingEnd
  | flowEntry
  | blockEntry
  | key
  | value
  | alias (name : String)
  | anchor (name : String)
  | tag (handle : Option String) (suffix : String)
  /-- A text; it is plain if it is neither quoted nor a block. -/
  | scalar (text : String) (plain : Bool)
  deriving DecidableEq

end WorkspaceLink.Yaml
