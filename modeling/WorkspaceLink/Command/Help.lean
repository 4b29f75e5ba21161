import WorkspaceLink.Command
import WorkspaceLink.LinkId
import WorkspaceLink.Policy

/-!
# Help

The help pages of the commands and of their groups, and the text of a page.
-/

namespace WorkspaceLink

namespace Help

/-- What a page is about. -/
inductive Subject where
  | group
  | command
  deriving DecidableEq

/-- An example: what it does, and the lines of the command. -/
structure Example where
  name : String
  lines : List String

structure Page where
  subject : Subject
  summary : String
  details : List String
  examples : List Example

def Subject.text : Subject → String
  | .group => "group"
  | .command => "command"

/-- A line that is indented by so many columns. -/
def line (indent : Nat) (text : String) : String :=
  String.ofList (List.replicate indent ' ') ++ text ++ "\n"

/-- A folded text under a key: the key, and its lines further in. -/
def folded (indent : Nat) (key : String) (lines : List String) : String :=
  line indent (key ++ ": >") ++ String.join (lines.map (line (indent + 2)))

def Example.text (e : Example) : String :=
  line 8 ("- name: " ++ e.name) ++ folded 10 "text" e.lines

def Page.text (p : Page) : String :=
  "\n" ++ line 4 ("type: " ++ p.subject.text) ++ line 4 ("short-summary: " ++ p.summary) ++
    (if p.details.isEmpty then ""
     else line 4 "long-summary: >" ++ String.join (p.details.map (line 8))) ++
    (if p.examples.isEmpty then ""
     else line 4 "examples:" ++ String.join (p.examples.map Example.text))

def invocation (c : Command) (options : String) : String :=
  "az " ++ c.name ++ " " ++ options

/-- The resource group of the ids in examples. -/
def exampleGroup : String :=
  "/subscriptions/00000000-0000-0000-0000-000000000000/resourceGroups/rg1"

def ofCommand : Command → Page
  | .create =>
    ⟨.command, "Link a resource, such as an Automation account, to a Log Analytics workspace.",
      ["When the \x60" ++ Policy.sectionName ++ "." ++ Policy.settingName ++
        "\x60 configuration option is enabled, creating a linked service that already",
        "exists fails and the existing linked service must be imported instead."],
      [⟨"Link an Automation account to a workspace.",
          [invocation .create "-g rg1 -w ws1 --resource-id",
            exampleGroup ++ "/providers/Microsoft.Automation/automationAccounts/acct1"]⟩,
        ⟨"Create a linked service from a configuration file.",
          [invocation .create "--config-file linked-service.yaml"]⟩]⟩
  | .update =>
    ⟨.command,
      "Update a linked service. Changing the linked resource replaces the linked service.", [],
      [⟨"Update the tags of a linked service.",
          [invocation .update "-g rg1 -w ws1 --tags env=prod"]⟩]⟩
  | .read => ⟨.command, "Get details of a linked service.", [], []⟩
  | .list => ⟨.command, "List the linked services of a workspace.", [], []⟩
  | .delete =>
    ⟨.command,
      "Delete a linked service. Deleting a linked service that no longer exists succeeds.", [], []⟩
  | .importExisting =>
    ⟨.command, "Import an existing linked service by its ID.", [],
      [⟨"Import an existing linked service.",
          [invocation .importExisting "--id",
            exampleGroup ++ "/providers/" ++ providerName ++ "/" ++ workspaceType ++ "/ws1/" ++
              linkType ++ "/" ++ defaultName]⟩]⟩

/-- The group that holds the group of the commands. -/
def outerGroup : String := "loganalytics"

def groups : List (String × Page) :=
  [(outerGroup, ⟨.group, "Commands to manage Log Analytics workspace resources.", [], []⟩),
    (resourceTypeName,
      ⟨.group, "Commands to Create, Update, Get, List, Import and Delete Log Analytics " ++
        "workspace linked services.", [], []⟩)]

def page? (name : String) : Option Page :=
  groups.lookup name <|> (Command.ofName? name).map ofCommand

end Help

end WorkspaceLink
