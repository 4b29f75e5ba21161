import WorkspaceLink.Fault
import WorkspaceLink.Text.Split
import WorkspaceLink.Yaml.Document

/-!
# Configuration files

A file of arguments, found by its path from a directory. The file holds one mapping as a document;
an empty file is an empty mapping.
-/

namespace WorkspaceLink

/-- What a name in a directory stands for. A directory in it is empty. -/
inductive File where
  | text (content : String)
  | bytes (content : List UInt8)
  | directory

/-- A directory, by names. -/
abbrev Files := List (String × File)

namespace Files

/-- Where the way of a path has led: the directory itself, an empty directory in it, or somewhere
outside, where nothing is known to be. -/
inductive Place where
  | here
  | inside
  | outside

def Place.above : Place → Place
  | .inside => .here
  | .here | .outside => .outside

/-- The longest name in bytes. -/
def maxNameSize : Nat := 255

/-- The longest path in bytes. -/
def maxPathSize : Nat := 4095

/-- Goes on from a place by names; a file has to come last. -/
def walk (files : Files) : Place → List String → Except FileProblem File
  | _, [] => .error .isDirectory
  | place, name :: rest =>
    if name = "" ∨ name = "." then walk files place rest
    else if name = ".." then walk files place.above rest
    else if maxNameSize < name.utf8ByteSize then .error .nameTooLong
    else
      match place, files.lookup name with
      | .here, some .directory => walk files .inside rest
      | .here, some file => if rest.isEmpty then .ok file else .error .notDirectory
      | _, _ => .error .noSuchFile

def find (files : Files) (path : String) : Except FileProblem File :=
  if path = "" then .error .noSuchFile
  else if maxPathSize < path.utf8ByteSize then .error .nameTooLong
  else
    walk files (if path.toList.head? = some '/' then .outside else .here)
      ((Text.split '/' path.toList).map String.ofList)

end Files

namespace ConfigFile

def bytesOf : File → List UInt8
  | .text content => content.toUTF8.toList
  | .bytes content => content
  | .directory => []

/-- How a fault of the document is told. -/
def documentFault (path : String) : Yaml.Fault → Fault
  | .malformed | .truncated => .unusableFile path .notYaml
  | .undecodable => .undecodableFile
  | .tooDeep => .tooDeepFile
  | .scalar fault => .scalar fault

/-- The arguments that a document holds. -/
def ofDocument [Host] (path : String) (s : Yaml.Source) : Except Fault RootMap := do
  let v ← (Yaml.load s).mapError (documentFault path)
  if v.isNull then return .ofFields []
  match RootMap.ofValue? v with
  | some root => return root
  | none => throw (.unusableFile path .notMapping)

/-- Loads the file that a path leads to. -/
def load [Host] (files : Files) (path : String) : Except Fault RootMap := do
  if path.toList.contains '\x00' then throw .nullCharacter
  let file ← (files.find path).mapError (.unusableFile path)
  ofDocument path (.ofBytes (bytesOf file))

end ConfigFile

end WorkspaceLink
