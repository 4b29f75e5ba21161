import WorkspaceLink.Text.Blank
import WorkspaceLink.Text.Split
import WorkspaceLink.Text.Utf8
import WorkspaceLink.Unicode.Lower

/-!
# Settings files

A settings file has sections of named settings, one a line; a value goes on in lines that are
indented further than its name. A value may refer to others of its section, or of the section of
defaults, which are put in when it is asked for.
-/

namespace WorkspaceLink

structure Settings where
  defaults : List (String × List Char)
  sections : List (String × List (String × List Char))

namespace Settings

/-- What can be wrong with a settings file or with a value in it. -/
inductive Fault where
  | repeatedSection
  | repeatedSetting
  /-- A setting stands before any section. -/
  | outsideSections
  /-- A line is neither a section nor a setting. -/
  | unknownLine
  /-- A reference is not spelled like one. -/
  | malformedReference
  /-- A reference is to a setting that is not there. -/
  | missingReference
  /-- References lead too far. -/
  | endlessReference
  deriving DecidableEq

/-! ## Reading -/

/-- The name of the section that the others fall back to. -/
def defaultsName : String := "DEFAULT"

/-- A setting and the lines of its value, last first. -/
structure Entry where
  name : String
  lines : List (List Char)

/-- What has been read of a file, last first. -/
structure Reader where
  defaults : List Entry
  sections : List (String × List Entry)
  /-- The section that is being read. -/
  current : Option String
  /-- Whether the last setting of the section can go on. -/
  goesOn : Bool
  /-- How far the last name was indented. -/
  indent : Nat
  /-- Whether some line could not be read. -/
  faulty : Bool

namespace Reader

/-- The entries of the section that is being read. -/
def entries (r : Reader) : List Entry :=
  match r.current with
  | none => []
  | some name =>
    if name = defaultsName then r.defaults else (r.sections.lookup name).getD []

/-- Gives the section that is being read other entries. -/
def setEntries (r : Reader) (es : List Entry) : Reader :=
  match r.current with
  | none => r
  | some name =>
    if name = defaultsName then { r with defaults := es }
    else { r with sections := r.sections.map fun s => if s.1 = name then (name, es) else s }

/-- Adds a line to the last setting. -/
def goOn (r : Reader) (line : List Char) : Reader :=
  match r.entries with
  | [] => r
  | e :: es => r.setEntries ({ e with lines := line :: e.lines } :: es)

/-- The name of the section that a line opens: it stands between the first bracket and the last
one. -/
def sectionName? : List Char → Option (List Char)
  | '[' :: cs =>
    let name := ((cs.reverse.dropWhile (· != ']')).drop 1).reverse
    if name.isEmpty then none else some name
  | _ => none

def openSection (r : Reader) (name : String) : Except Fault Reader :=
  let r := { r with current := some name, goesOn := false }
  if name = defaultsName then .ok r
  else if (r.sections.lookup name).isSome then .error .repeatedSection
  else .ok { r with sections := (name, []) :: r.sections }

/-- Reads a setting: its name stands before the first equals sign or colon. A name is used once in a
section, whatever its case. -/
def setting (r : Reader) (line : List Char) : Except Fault Reader :=
  let isMark := fun c : Char => c == '=' || c == ':'
  let name := line.takeWhile fun c => !isMark c
  match line.dropWhile fun c => !isMark c with
  | [] => .ok { r with faulty := true }
  | _ :: value =>
    let key := String.ofList (Unicode.lower (Text.trim name))
    if r.entries.any (·.name = key) then .error .repeatedSetting
    else
      let r := r.setEntries (⟨key, [Text.trim value]⟩ :: r.entries)
      .ok { r with goesOn := !name.isEmpty, faulty := r.faulty || name.isEmpty }

/-- Reads a line. One that is blank belongs to a value that goes on, a remark to none. -/
def line (r : Reader) (line : List Char) : Except Fault Reader :=
  let indent := (line.takeWhile Text.isBlank).length
  match Text.trim line with
  | [] => .ok (if r.goesOn then r.goOn [] else r)
  | c :: cs =>
    if c = '#' ∨ c = ';' then .ok r
    else if r.goesOn ∧ r.indent < indent then .ok (r.goOn (c :: cs))
    else
      let r := { r with indent }
      match sectionName? (c :: cs), r.current with
      | some name, _ => r.openSection (String.ofList name)
      | none, none => .error .outsideSections
      | none, some _ => r.setting (c :: cs)

/-- The values of settings: their lines without blanks at the end. -/
def values (es : List Entry) : List (String × List Char) :=
  es.reverse.map fun e => (e.name, Text.trimEnd (Text.join '\n' e.lines.reverse))

end Reader

def ofText (text : List Char) : Except Fault Settings := do
  let start : Reader := ⟨[], [], none, false, 0, false⟩
  let r ← (Text.split '\n' (Text.unifyNewlines text)).foldlM Reader.line start
  if r.faulty then throw .unknownLine
  return ⟨Reader.values r.defaults, r.sections.reverse.map fun s => (s.1, Reader.values s.2)⟩

/-! ## Values -/

inductive Piece where
  | char (c : Char)
  | reference (name : String)
  /-- A percent sign that begins nothing; what follows it is not looked at. -/
  | malformed

/-- The pieces of a value: a percent sign begins a reference, or it is written twice. -/
def pieces : List Char → List Piece
  | [] => []
  | '%' :: '%' :: cs => .char '%' :: pieces cs
  | '%' :: '(' :: cs =>
    let name := cs.takeWhile (· != ')')
    match h : cs.dropWhile (· != ')') with
    | ')' :: 's' :: rest =>
      have : rest.length < cs.length := by
        have := (List.dropWhile_sublist (l := cs) (· != ')')).length_le
        simp [h] at this
        omega
      if name.isEmpty then [.malformed]
      else .reference (Unicode.lowerString (String.ofList name)) :: pieces rest
    | _ => [.malformed]
  | '%' :: _ => [.malformed]
  | c :: cs => .char c :: pieces cs
termination_by cs => cs.length

/-- The most references that may lead from one to the next. -/
def maxReferences : Nat := 10

/-- Puts in what the references of a value stand for. -/
def expand (values : List (String × List Char)) : Nat → List Char → Except Fault (List Char)
  | 0, _ => .error .endlessReference
  | n + 1, cs => do
    let parts ← (pieces cs).mapM fun
      | .char c => pure [c]
      | .malformed => .error .malformedReference
      | .reference name =>
        match values.lookup name with
        | none => .error .missingReference
        | some value => if value.contains '%' then expand values n value else pure value
    return parts.flatten

/-- The value of a setting, if the section is there and it or the defaults have the setting. -/
def get? (s : Settings) (heading name : String) : Except Fault (Option (List Char)) :=
  match s.sections.lookup heading with
  | none => .ok none
  | some own =>
    let values := own ++ s.defaults
    match values.lookup name with
    | none => .ok none
    | some value => some <$> expand values maxReferences value

end Settings

end WorkspaceLink
