import WorkspaceLink.Defect
import WorkspaceLink.Failure
import WorkspaceLink.Settings
import WorkspaceLink.Value.Misfit
import WorkspaceLink.Yaml.Fault

/-!
# Faults

Everything that an operation can end with instead of a result, by cause, and the message of each.
-/

namespace WorkspaceLink

/-- Where a linked service is, as the service is told. -/
structure Address where
  group : Value
  workspace : Value
  name : Value

/-- An address between quotes, for messages. -/
def Address.describe (a : Address) : String :=
  a.name.literal ++ " (Workspace " ++ a.workspace.literal ++ " / Resource Group " ++
    a.group.literal ++ ")"

/-- The kind of resource that is managed, which is also the group of its commands. -/
def resourceTypeName : String := "loganalytics linked-service"

inductive Request where
  | checking (a : Address)
  | creating (a : Address)
  | reading (a : Address)
  | deleting (a : Address)
  | listing (group workspace : Value)

/-- What a failed request is told as. -/
def Request.describe : Request → String
  | .checking a => "Error checking for presence of existing Linked Service " ++ a.describe
  | .creating a => "Error creating Linked Service " ++ a.describe
  | .reading a => "Error making Read request on Log Analytics Linked Service " ++ a.describe
  | .deleting a => "Error deleting Linked Service " ++ a.describe
  | .listing group workspace =>
    "Error listing Linked Services (Workspace " ++ workspace.literal ++ " / Resource Group " ++
      group.literal ++ ")"

/-- Why a file of arguments cannot be used. -/
inductive FileProblem where
  | noSuchFile
  | isDirectory
  | notDirectory
  | nameTooLong
  | notYaml
  | notMapping
  deriving DecidableEq

/-- What an operation can end with instead of a result. -/
inductive Fault where
  /-- A configuration has defects. -/
  | invalidConfig (defects : List Defect)
  /-- An id does not name a linked service. -/
  | malformedId (id : Value) (reason : String)
  /-- A resource is there already and must be imported first. -/
  | alreadyExists (resourceType id : Value)
  /-- A request failed. -/
  | requestFailed (request : Request) (cause : Failure)
  /-- What was written could not be read back. -/
  | unverified (a : Address) (cause : Option Failure)
  /-- A linked service is not where a command was told to look. -/
  | notFound (a : Address)
  /-- There is nothing to import. -/
  | nothingToImport (id : Value)
  /-- A file of arguments cannot be used. -/
  | unusableFile (path : String) (problem : FileProblem)
  /-- The bytes of a file are no text. -/
  | undecodableFile
  /-- The document in a file nests too deeply. -/
  | tooDeepFile
  /-- The name of a file or a variable of the environment holds a null character. -/
  | nullCharacter
  /-- A scalar of a document cannot be built. -/
  | scalar (fault : Yaml.ScalarFault)
  /-- A snapshot of something that exists needs an id. -/
  | snapshotWithoutId
  /-- The settings file cannot be used. -/
  | settings (fault : Settings.Fault)
  /-- A setting is neither true nor false. -/
  | notBoolean (text : String)
  /-- A failure that is not handled. -/
  | failure (f : Failure)
  /-- A value has the wrong shape. -/
  | misfit (m : Misfit)

namespace Fault

/-- Families of faults, from the general to the particular. -/
inductive Kind where
  | user
  | validation
  | serviceResponse
  | malformedId
  | alreadyExists
  | requestFailed
  | unverified
  deriving DecidableEq

/-- The families that a family belongs to, nearest first. -/
def Kind.ancestors : Kind → List Kind
  | .user => []
  | .validation | .serviceResponse | .alreadyExists => [.user]
  | .malformedId => [.validation, .user]
  | .requestFailed => [.serviceResponse, .user]
  | .unverified => [.requestFailed, .serviceResponse, .user]

def fileMessage (path : String) : FileProblem → String
  | .notYaml => "Configuration file " ++ Text.quotedString path ++ " is not valid YAML: "
  | .notMapping =>
    "Configuration file " ++ Text.quotedString path ++
      " must contain a mapping of linked service arguments."
  | .noSuchFile => unreadable "[Errno 2] No such file or directory"
  | .isDirectory => unreadable "[Errno 21] Is a directory"
  | .notDirectory => unreadable "[Errno 20] Not a directory"
  | .nameTooLong => unreadable "[Errno 36] File name too long"
where
  unreadable (reason : String) : String :=
    "Unable to read configuration file " ++ Text.quotedString path ++ ": " ++ reason ++ ": " ++
      Text.quotedString path

/-- The message of a fault; most misfits and some files that cannot be used have none. -/
def message : Fault → String
  | .invalidConfig defects =>
    "Invalid linked service configuration:\n  " ++
      "\n  ".intercalate (defects.map Defect.message)
  | .malformedId id reason =>
    "Cannot parse linked service ID " ++ id.literal ++ ": " ++ reason
  | .alreadyExists resourceType id =>
    "A resource with the ID " ++ id.literal ++ " already exists - to be managed via this " ++
      "command it needs to be imported into the state. Please see the documentation for " ++
      resourceType.literal ++ " for more information."
  | .requestFailed request cause => request.describe ++ ": " ++ cause.text
  | .unverified a (some cause) =>
    "Error retrieving Linked Service " ++ a.describe ++ ": " ++ cause.text
  | .unverified a none => "Cannot read Linked Service " ++ a.describe ++ " ID"
  | .notFound a =>
    "Linked Service \"" ++ a.name.display ++ "\" was not found in Workspace \"" ++
      a.workspace.display ++ "\" / Resource Group \"" ++ a.group.display ++ "\"."
  | .nothingToImport id =>
    "Cannot import non-existent remote object \"" ++ id.display ++ "\"."
  | .unusableFile path problem => fileMessage path problem
  | .scalar fault => fault.message
  | .snapshotWithoutId => "A present resource state requires an ID."
  | .notBoolean text => "Not a boolean: " ++ text
  | .failure f => f.text
  | .nullCharacter => "embedded null byte"
  | .misfit .unwritable => Decimal.tooManyDigits ""
  | .misfit (.notPair index parts) =>
    "dictionary update sequence element #" ++ toString index ++ " has length " ++ toString parts ++
      "; 2 is required"
  | .undecodableFile | .tooDeepFile | .settings _ | .misfit _ => ""

/-- What the user is told to do about a fault. -/
def recommendations : Fault → List String
  | .alreadyExists _ id => ["az " ++ resourceTypeName ++ " import --id " ++ id.display]
  | _ => []

def cause? : Fault → Option Failure
  | .requestFailed _ cause => some cause
  | .unverified _ cause => cause
  | _ => none

def resourceId? : Fault → Option Value
  | .malformedId id _ => some id
  | .alreadyExists _ id => some id
  | _ => none

end Fault

/-- A computation that needs a value of the right shape, as part of an operation. -/
def Fault.ofMisfit {α : Type} (x : Except Misfit α) : Except Fault α :=
  x.mapError .misfit

end WorkspaceLink
