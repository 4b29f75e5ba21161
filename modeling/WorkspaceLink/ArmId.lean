import WorkspaceLink.Text.Split
import WorkspaceLink.Unicode.Lower

/-!
# Resource ids

The id of a resource is a path of segments between slashes: a subscription, optionally a resource
group, and optionally a provider with the type and name of a resource, below which children have
types and names of their own. This module reads ids, writes them, and says which are valid: those
that are written the same, up to case, as what was read from them.
-/

namespace WorkspaceLink

/-- The text between two slashes. -/
abbrev Segment := List Char

namespace Segment

/-- The segments of a text, split at its slashes. -/
abbrev split (cs : List Char) : List Segment := Text.split '/' cs

abbrev join (segments : List Segment) : List Char := Text.join '/' segments

/-- The lower-case letter that a character is taken for in a keyword. -/
def foldKeywordChar (c : Char) : Char :=
  if c = 'ſ' then 's'
  else if c = 'İ' ∨ c = 'ı' then 'i'
  else if c = '\u212a' then 'k'
  else if c.toNat < 0x80 then c.toLower
  else c

/-- Whether a segment is a keyword, whatever its case; look-alikes of letters count as letters. -/
def isKeyword (keyword : String) (s : Segment) : Bool :=
  s.map foldKeywordChar == keyword.toList.map foldKeywordChar

/-- The segments up to the end of the first line. -/
def firstLine : List Segment → List Segment
  | [] => []
  | s :: ss => if s.contains '\n' then [s.takeWhile (· != '\n')] else s :: firstLine ss

end Segment

namespace ArmId

/-- A resource below another: its type and name, under a provider of its own if it has one. -/
structure Child where
  provider : Option Segment
  type : Segment
  name : Segment
  deriving DecidableEq

/-- A resource: its provider, type and name, and the resources that lead from it to the one
meant. -/
structure Resource where
  provider : Segment
  type : Segment
  name : Segment
  children : List Child
  deriving DecidableEq

end ArmId

/-- The parts of a resource id. -/
structure ArmId where
  subscription : Segment
  group : Option Segment
  resource : Option ArmId.Resource
  deriving DecidableEq

namespace ArmId

/-- Reads children: a type and a name each, with a provider in front where two more segments
follow it. What is left over is dropped. -/
def childrenOf : List Segment → List Child
  | p :: ns :: t :: n :: rest =>
    if Segment.isKeyword "providers" p then ⟨some ns, t, n⟩ :: childrenOf rest
    else ⟨none, p, ns⟩ :: childrenOf (t :: n :: rest)
  | t :: n :: _ => [⟨none, t, n⟩]
  | _ => []
termination_by structural segments => segments

/-- Reads the resource of an id, if the segments begin with one. -/
def resourceOf? : List Segment → Option Resource
  | p :: ns :: t :: n :: rest =>
    if Segment.isKeyword "providers" p then some ⟨ns, t, n, childrenOf (Segment.firstLine rest)⟩
    else none
  | _ => none

/-- Reads what follows the subscription. -/
def scopeOf (subscription : Segment) : List Segment → ArmId
  | g :: name :: rest =>
    if Segment.isKeyword "resourceGroups" g then ⟨subscription, some name, resourceOf? rest⟩
    else ⟨subscription, none, resourceOf? (g :: name :: rest)⟩
  | rest => ⟨subscription, none, resourceOf? rest⟩

def ofSegments? : List Segment → Option ArmId
  | [] :: s :: subscription :: rest =>
    if Segment.isKeyword "subscriptions" s then some (scopeOf subscription rest) else none
  | _ => none

/-- Reads an id; what does not belong to it is dropped from its end. -/
def parse? (cs : List Char) : Option ArmId :=
  ofSegments? (Segment.split cs)

def Child.segments (c : Child) : List Segment :=
  (c.provider.map fun p => ["providers".toList, p]).getD [] ++ [c.type, c.name]

def Resource.segments (r : Resource) : List Segment :=
  ["providers".toList, r.provider, r.type, r.name] ++ r.children.flatMap Child.segments

def segments (a : ArmId) : List Segment :=
  [[], "subscriptions".toList, a.subscription] ++
    (a.group.map fun g => ["resourceGroups".toList, g]).getD [] ++
    (a.resource.map Resource.segments).getD []

def print (a : ArmId) : List Char :=
  Segment.join a.segments

/-- Reads a valid id: not empty, and written the same as what was read from it, up to case. -/
def valid? (cs : List Char) : Option ArmId :=
  (parse? cs).filter fun a => !cs.isEmpty && Unicode.lower a.print == Unicode.lower cs

def isValid (cs : List Char) : Bool :=
  (valid? cs).isSome

end ArmId

end WorkspaceLink
