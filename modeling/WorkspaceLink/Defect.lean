import WorkspaceLink.Value.Printer

/-!
# Defects of a configuration

What can be wrong with a field, and the message that tells it. A message names the field by the key
it was checked under.
-/

namespace WorkspaceLink

/-- The longest name of a resource group. -/
def maxGroupLength : Nat := 90

/-- The shortest name of a workspace. -/
def minWorkspaceLength : Nat := 4

/-- The longest name of a workspace. -/
def maxWorkspaceLength : Nat := 63

/-- The most tags of a resource. -/
def maxTagCount : Nat := 50

def maxTagKeyLength : Nat := 512

def maxTagValueLength : Nat := 256

/-- The name of a linked service that is given none. -/
def defaultName : String := "automation"

/-- The names that a linked service may have. -/
def allowedNames : List String := [defaultName]

/-- The one entry of the properties: the id of the linked resource. -/
def resourceIdKey : String := "resource_id"

/-- One thing that is wrong with a configuration. -/
inductive Defect where
  | unsupported (key : Scalar)
  | computed (key : String)
  | required (key : String)
  | notText (key : String)
  | groupTooLong (key : String)
  | groupEndsWithPeriod (key : String)
  | groupCharacters (key : String)
  | workspaceCharacters (key : String)
  | workspaceLength (key : String)
  | notAllowed (key : String) (value : Value)
  | notAnId (key : String) (value : String)
  | notTagMap (key : String)
  | tooManyTags
  | tagKeyTooLong (tag : Scalar) (length : Nat)
  | tagValueTooLong (tag : Scalar) (length : Nat)
  | notPropertyMap (key : String)
  | unexpectedProperties (key : String) (unknown : List String)
  | propertyRequired (key : String)

namespace Defect

def message : Defect → String
  | .unsupported key => "unsupported argument \x60" ++ key.display ++ "\x60"
  | .computed key => "\x60" ++ key ++ "\x60 is computed and cannot be configured"
  | .required key => "\x60" ++ key ++ "\x60 is required"
  | .notText key => key ++ " must be a non-empty string"
  | .groupTooLong key =>
    key ++ " may not exceed " ++ toString maxGroupLength ++ " characters in length"
  | .groupEndsWithPeriod key => key ++ " cannot end with a period"
  | .groupCharacters key =>
    key ++ " may only contain alphanumeric characters, dash, underscores, parentheses and periods"
  | .workspaceCharacters key =>
    key ++ " can only contain alphabet, number, and '-' character. You can not use '-' as the start"
      ++ " and end of the name"
  | .workspaceLength key =>
    key ++ " can only be between " ++ toString minWorkspaceLength ++ " and " ++
      toString maxWorkspaceLength ++ " letters"
  | .notAllowed key value =>
    "expected " ++ key ++ " to be one of " ++ (Value.list (allowedNames.map .str)).display ++
      ", got " ++ value.display
  | .notAnId key value =>
    key ++ " must be a valid Azure resource ID, got " ++ Text.quotedString value
  | .notTagMap key => key ++ " must be a map of strings"
  | .tooManyTags =>
    "a maximum of " ++ toString maxTagCount ++ " tags can be applied to each ARM resource"
  | .tagKeyTooLong tag length =>
    "the maximum length for a tag key is " ++ toString maxTagKeyLength ++ " characters: " ++
      tag.literal ++ " is " ++ toString length ++ " characters"
  | .tagValueTooLong tag length =>
    "the maximum length for a tag value is " ++ toString maxTagValueLength ++
      " characters: the value for " ++ tag.literal ++ " is " ++ toString length ++ " characters"
  | .notPropertyMap key => key ++ " must be a map"
  | .unexpectedProperties key unknown =>
    key ++ " only supports \x60" ++ resourceIdKey ++ "\x60, got unexpected keys: " ++
      ", ".intercalate unknown
  | .propertyRequired key => key ++ "." ++ resourceIdKey ++ " is required"

end Defect

end WorkspaceLink
