import WorkspaceLink.Decimal.Reader
import WorkspaceLink.Value
import WorkspaceLink.Yaml.Cursor
import WorkspaceLink.Yaml.Fault

/-!
# Times of documents

A day, optionally followed by a time of day, its fraction and its offset from universal time.
-/

namespace WorkspaceLink.Yaml

/-- How a time names its offset from universal time. -/
inductive Timestamp.Zone where
  | unknown
  | universal
  | offset (negative : Bool) (hours minutes : Nat)

/-- A time of day as it is written. -/
structure Timestamp.Clock where
  hour : Nat
  minute : Nat
  second : Nat
  /-- The digits after the point. -/
  fraction : List Char
  zone : Timestamp.Zone

/-- A day as it is written, with a time of day or without. -/
structure Timestamp where
  year : Nat
  month : Nat
  day : Nat
  clock : Option Timestamp.Clock

namespace Timestamp

/-- Reads as many digits as there are, from `least` to `most`. -/
def digits? (least most : Nat) (cs : List Char) : Option (Nat × List Char) := do
  let ds := (cs.take most).takeWhile Char.isDigit
  if ds.length < least then none
  else return ((← Decimal.natOfDigits? 10 ds), cs.drop ds.length)

def mark? (c : Char) : List Char → Option (List Char)
  | d :: cs => if c = d then some cs else none
  | [] => none

/-- Reads what stands between a day and a time: a letter, or a gap. -/
def separator? : List Char → Option (List Char)
  | [] => none
  | c :: cs =>
    if c = 'T' ∨ c = 't' then some cs
    else if isGap c then some (cs.dropWhile isGap)
    else none

/-- Reads an offset, which ends the text. -/
def zone? (cs : List Char) : Option Zone :=
  match cs.dropWhile isGap with
  | ['Z'] => some .universal
  | c :: rest =>
    if c = '-' ∨ c = '+' then do
      let (hours, rest) ← digits? 1 2 rest
      if rest.isEmpty then return .offset (c == '-') hours 0
      let (minutes, rest) ← digits? 2 2 (← mark? ':' rest)
      if rest.isEmpty then return .offset (c == '-') hours minutes else none
    else none
  | [] => if cs.isEmpty then some .unknown else none

/-- Reads the fraction of a second, if there is one. -/
def fraction : List Char → List Char × List Char
  | '.' :: rest => Decimal.spanDigits rest
  | rest => ([], rest)

/-- Reads a time of day, which ends the text. -/
def clock? (cs : List Char) : Option Clock := do
  let (hour, rest) ← digits? 1 2 cs
  let (minute, rest) ← digits? 2 2 (← mark? ':' rest)
  let (second, rest) ← digits? 2 2 (← mark? ':' rest)
  let (fraction, rest) := fraction rest
  return ⟨hour, minute, second, fraction, ← zone? rest⟩

/-- Reads a text that is spelled like a time. -/
def read? (cs : List Char) : Option Timestamp := do
  let (year, rest) ← digits? 4 4 cs
  let (month, rest) ← digits? 1 2 (← mark? '-' rest)
  let (day, rest) ← digits? 1 2 (← mark? '-' rest)
  if rest.isEmpty then return ⟨year, month, day, none⟩
  else return ⟨year, month, day, some (← clock? (← separator? rest))⟩

/-- Whether a plain text is a time. A day alone has two digits for its month and two for itself. -/
def isSpelled (cs : List Char) : Bool :=
  match read? cs with
  | some t => t.clock.isSome || cs.length == "yyyy-mm-dd".length
  | none => false

/-- The microseconds of a fraction; digits after the sixth are dropped. -/
def microseconds (ds : List Char) : Nat :=
  (Decimal.natOfDigits? 10 ((ds ++ List.replicate 6 '0').take 6)).getD 0

/-- The offset in minutes, if it is known. -/
def Zone.minutes? : Zone → Option Int
  | .unknown => none
  | .universal => some 0
  | .offset negative hours minutes =>
    let m : Int := hours * 60 + minutes
    some (if negative then -m else m)

/-- The day or time that is written. -/
def build (t : Timestamp) : Except CalendarFault Scalar :=
  match t.clock with
  | none => (Date.ofParts t.year t.month t.day).map .date
  | some c =>
    (DateTime.ofParts t.year t.month t.day c.hour c.minute c.second (microseconds c.fraction)
      c.zone.minutes?).map .dateTime

/-- The day or time that a text spells. -/
def ofText (cs : List Char) : Except ScalarFault Scalar :=
  match read? (Text.dropLastNewline cs) with
  | some t => t.build.mapError .calendar
  | none => .error .notTime

end Timestamp

end WorkspaceLink.Yaml
