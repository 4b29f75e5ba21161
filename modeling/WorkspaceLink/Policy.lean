import WorkspaceLink.Fault
import WorkspaceLink.Unicode.Lower

/-!
# The import policy

Whether existing linked services must be imported is a setting of the user, from the environment or
else from the settings file, and off if it is in neither. The settings file has to be in order even
where the environment prevails.
-/

namespace WorkspaceLink

namespace Policy

/-- The section of the settings file. -/
def sectionName : String := "linkedservice"

def settingName : String := "require_import"

/-- The truth value that a word spells, whatever its case. -/
def boolean (word : String) : Except Fault Bool :=
  match Unicode.lowerString word with
  | "1" | "yes" | "true" | "on" => .ok true
  | "0" | "no" | "false" | "off" => .ok false
  | _ => .error (.notBoolean word)

/-- A settings file that has been given the setting, as it is written. -/
def settingsText (value : String) : String :=
  "[" ++ sectionName ++ "]\n" ++ settingName ++ " = " ++ value ++ "\n"

/-- The settings of the user, where the setting has been given. -/
def settings (value : String) : Except Fault Settings :=
  (Settings.ofText (settingsText value).toList).mapError .settings

/-- The setting from a variable of the environment and from what the settings file was given for
it. -/
def requireImport (environment file : Option String) : Except Fault Bool := do
  if environment.any (·.toList.contains '\x00') then throw .nullCharacter
  let settings ← file.mapM settings
  match environment, settings with
  | some word, _ => boolean word
  | none, none => return false
  | none, some s =>
    match ← (s.get? sectionName settingName).mapError .settings with
    | some word => boolean (String.ofList word)
    | none => return false

end Policy

end WorkspaceLink
