/-!
# Dates and times

Days of the Gregorian calendar, times of day and offsets from universal time.
-/

namespace WorkspaceLink

structure Date where
  year : Nat
  month : Nat
  day : Nat
  deriving DecidableEq

/-- A day and a time, with the offset from universal time in minutes if it is known. -/
structure DateTime where
  date : Date
  hour : Nat
  minute : Nat
  second : Nat
  microsecond : Nat
  offset : Option Int
  deriving DecidableEq

/-- What is wrong with the parts of a date or time. -/
inductive CalendarFault where
  | year (n : Nat)
  | month
  | day
  | hour
  | minute
  | second
  | offset (minutes : Int)
  deriving DecidableEq

/-- A number, zeros in front up to a length. -/
def padded (width n : Nat) : String :=
  let ds := Nat.toDigits 10 n
  String.ofList (List.replicate (width - ds.length) '0' ++ ds)

/-- A list of parts between parentheses after a name. -/
def callText (name : String) (parts : List String) : String :=
  name ++ "(" ++ ", ".intercalate parts ++ ")"

/-- The literal of a length of time in minutes: whole days, which may be negative, and seconds. -/
def durationLiteral (minutes : Int) : String :=
  let days := minutes / 1440
  let seconds := minutes % 1440 * 60
  let parts := (if days = 0 then [] else ["days=" ++ toString days]) ++
    (if seconds = 0 then [] else ["seconds=" ++ toString seconds])
  callText "datetime.timedelta" (if parts.isEmpty then ["0"] else parts)

namespace CalendarFault

def message : CalendarFault → String
  | .year n => "year " ++ toString n ++ " is out of range"
  | .month => "month must be in 1..12"
  | .day => "day is out of range for month"
  | .hour => "hour must be in 0..23"
  | .minute => "minute must be in 0..59"
  | .second => "second must be in 0..59"
  | .offset m =>
    "offset must be a timedelta strictly between -timedelta(hours=24) and timedelta(hours=24), not "
      ++ durationLiteral m ++ "."

end CalendarFault

namespace Date

/-- Whether February has 29 days. -/
def isLeap (year : Nat) : Bool :=
  year % 4 == 0 && (year % 100 != 0 || year % 400 == 0)

def daysIn (year month : Nat) : Nat :=
  match month with
  | 2 => if isLeap year then 29 else 28
  | 4 | 6 | 9 | 11 => 30
  | _ => 31

def ofParts (year month day : Nat) : Except CalendarFault Date :=
  if year = 0 ∨ 9999 < year then .error (.year year)
  else if month = 0 ∨ 12 < month then .error .month
  else if day = 0 ∨ daysIn year month < day then .error .day
  else .ok ⟨year, month, day⟩

/-- The days in the months before one. -/
def daysBefore (year : Nat) : Nat → Nat
  | 0 => 0
  | 1 => 0
  | m + 2 => daysBefore year (m + 1) + daysIn year (m + 1)

/-- The number of a day, counted from the first day of the year 1. -/
def dayNumber (d : Date) : Int :=
  let y := d.year - 1
  (365 * y + y / 4 - y / 100 + y / 400 + daysBefore d.year d.month + d.day : Nat)

/-- Year, month and day between dashes. -/
def text (d : Date) : String :=
  padded 4 d.year ++ "-" ++ padded 2 d.month ++ "-" ++ padded 2 d.day

def literal (d : Date) : String :=
  callText "datetime.date" [toString d.year, toString d.month, toString d.day]

end Date

namespace DateTime

/-- The time with these parts; the offset lies within a day of universal time. -/
def ofParts (year month day hour minute second microsecond : Nat) (offset : Option Int) :
    Except CalendarFault DateTime := do
  if let some m := offset then
    if m ≤ -1440 ∨ 1440 ≤ m then throw (.offset m)
  let date ← Date.ofParts year month day
  if 23 < hour then throw .hour
  if 59 < minute then throw .minute
  if 59 < second then throw .second
  return ⟨date, hour, minute, second, microsecond, offset⟩

/-- The microseconds since the first day of the year 1, by the clock shown. -/
def clockMicroseconds (t : DateTime) : Int :=
  ((t.date.dayNumber * 24 + t.hour) * 60 + t.minute) * 60000000 + t.second * 1000000 +
    t.microsecond

/-- Whether two times are the same: the same instant if both offsets are known, the same reading of
the clock if neither is. -/
def same (a b : DateTime) : Bool :=
  match a.offset, b.offset with
  | none, none => a == b
  | some x, some y => a.clockMicroseconds - x * 60000000 == b.clockMicroseconds - y * 60000000
  | _, _ => false

/-- Sign, hours and minutes of an offset. -/
def offsetText (minutes : Int) : String :=
  (if minutes < 0 then "-" else "+") ++ padded 2 (minutes.natAbs / 60) ++ ":" ++
    padded 2 (minutes.natAbs % 60)

/-- Date, time, the fraction of a second if it is not zero, and the offset if it is known. -/
def text (t : DateTime) : String :=
  t.date.text ++ " " ++ padded 2 t.hour ++ ":" ++ padded 2 t.minute ++ ":" ++ padded 2 t.second ++
    (if t.microsecond = 0 then "" else "." ++ padded 6 t.microsecond) ++
    (t.offset.map offsetText).getD ""

def offsetLiteral (minutes : Int) : String :=
  if minutes = 0 then "datetime.timezone.utc"
  else callText "datetime.timezone" [durationLiteral minutes]

/-- The time as a literal: seconds and their fraction are left out where they are zero. -/
def literal (t : DateTime) : String :=
  let fraction := if t.microsecond = 0 then [] else [toString t.microsecond]
  let seconds := if t.second = 0 ∧ t.microsecond = 0 then [] else toString t.second :: fraction
  callText "datetime.datetime"
    ([toString t.date.year, toString t.date.month, toString t.date.day, toString t.hour,
      toString t.minute] ++ seconds ++
      (t.offset.map fun m => ["tzinfo=" ++ offsetLiteral m]).getD [])

end DateTime

end WorkspaceLink
