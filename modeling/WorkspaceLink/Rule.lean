import WorkspaceLink.ArmId
import WorkspaceLink.Defect
import WorkspaceLink.Host
import WorkspaceLink.Text.Blank
import WorkspaceLink.Unicode.Word
import WorkspaceLink.Value.Misfit

/-!
# Rules for the fields of a configuration

A rule lists the defects of a value, none if the value is fit. The key under which the value was
found is only for the messages. A value that cannot be shown has no list of defects.
-/

namespace WorkspaceLink

/-- The characters of the name of a resource group. -/
def isGroupChar (c : Char) : Bool :=
  c == '-' || c == '.' || c == '(' || c == ')' || Unicode.isWord c

/-- Whether a text is spelled like the name of a resource group; one line end may follow it. -/
def isGroupName (cs : List Char) : Bool :=
  let body := Text.dropLastNewline cs
  !body.isEmpty && body.all isGroupChar

/-- The characters of the name of a workspace. -/
def isWorkspaceChar (c : Char) : Bool :=
  c == '-' || c.isAlphanum

/-- Whether a text is spelled like the name of a workspace, at least three characters that neither
begin nor end with a dash; one line end may follow it. -/
def isWorkspaceName (cs : List Char) : Bool :=
  let body := Text.dropLastNewline cs
  3 ≤ body.length && body.all isWorkspaceChar && body.head? != some '-' &&
    body.getLast? != some '-'

namespace Rule

def groupName (key : String) : Value → List Defect
  | .str s =>
    if s = "" then [.notText key]
    else
      (if maxGroupLength < s.length then [.groupTooLong key] else []) ++
        (if s.toList.getLast? = some '.' then [.groupEndsWithPeriod key] else []) ++
        (if isGroupName s.toList then [] else [.groupCharacters key])
  | _ => [.notText key]

def workspaceName (key : String) : Value → List Defect
  | .str s =>
    if s = "" then [.notText key]
    else
      (if isWorkspaceName s.toList then [] else [.workspaceCharacters key]) ++
        (if minWorkspaceLength ≤ s.length ∧ s.length ≤ maxWorkspaceLength then []
         else [.workspaceLength key])
  | _ => [.notText key]

def serviceName [Host] (key : String) (v : Value) : Except Misfit (List Defect) := do
  if allowedNames.any fun n => v.same (.str n) then return []
  let _ ← v.shown Host.nameRoom
  return [.notAllowed key v]

def resourceId (key : String) : Value → List Defect
  | .str s =>
    if s = "" then [.notText key]
    else if ArmId.isValid s.toList then []
    else [.notAnId key s]
  | _ => [.notText key]

def tag [Host] (k : Scalar) (v : Value) : Except Misfit (List Defect) := do
  let keyLength := (← k.shown).length
  let length := (← v.shown Host.tagRoom).length
  return (if maxTagKeyLength < keyLength then [.tagKeyTooLong k keyLength] else []) ++
    (if !v.isNull && maxTagValueLength < length then [.tagValueTooLong k length] else [])

def tags [Host] (key : String) (v : Value) : Except Misfit (List Defect) :=
  if v.isNull then .ok []
  else
    match v.unrolled with
    | .map fs => do
      let ofTags ← fs.mapM fun f => tag f.1 f.2
      return (if maxTagCount < fs.length then [.tooManyTags] else []) ++ ofTags.flatten
    | _ => .ok [.notTagMap key]

/-- The texts among keys, if all are. -/
def textKeys? (keys : List Scalar) : Option (List String) :=
  keys.mapM fun
    | .str s => some s
    | _ => none

/-- The properties of a linked service: only the id of the linked resource, which must be there.
Keys that are not texts cannot be listed. -/
def properties (key : String) (v : Value) : Except Misfit (List Defect) :=
  match v.unrolled with
  | .map fs =>
    match textKeys? ((Fields.keys fs).filter fun k => !k.same (.str resourceIdKey)) with
    | none => .error .untextualKeys
    | some [] =>
      match (Fields.field? fs resourceIdKey).getD .null with
      | .null => .ok [.propertyRequired key]
      | v => .ok (resourceId (key ++ "." ++ resourceIdKey) v)
    | some unknown => .ok [.unexpectedProperties key (unknown.mergeSort (· ≤ ·))]
  | _ => .ok [.notPropertyMap key]

end Rule

end WorkspaceLink
