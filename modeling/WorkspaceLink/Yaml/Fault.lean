import WorkspaceLink.Calendar
import WorkspaceLink.Decimal.Whole
import WorkspaceLink.Text.Quoted

/-!
# Faults of documents

A document that does not follow the grammar, and scalars that announce a kind of value but do not
spell one.
-/

namespace WorkspaceLink.Yaml

/-- Why the value that a scalar announces cannot be built. -/
inductive ScalarFault where
  | calendar (fault : CalendarFault)
  | notInteger (base : Nat) (text : String)
  | tooManyDigits (count : Nat)
  | notNumber (text : String)
  /-- An escape that names a code point beyond the last one. -/
  | codePoint
  /-- An escape or number that no machine word holds. -/
  | overflow
  /-- A truth value of an unknown spelling. -/
  | unknownBool
  /-- A number without a first character. -/
  | emptyNumber
  /-- A time of an unknown spelling. -/
  | notTime
  /-- A time that is spelled inside a mapping. -/
  | notText

/-- The most characters of a text that is not a whole number, with its quotes, that are shown. -/
def maxShownText : Nat := 200

/-- The message of a fault; some have none. -/
def ScalarFault.message : ScalarFault → String
  | .calendar fault => fault.message
  | .notInteger base text =>
    "invalid literal for int() with base " ++ toString base ++ ": " ++
      String.ofList ((Text.quoted text.toList).take maxShownText)
  | .tooManyDigits count =>
    Decimal.tooManyDigits (": value has " ++ toString count ++ " digits")
  | .notNumber text => "could not convert string to float: " ++ Text.quotedString text
  | .codePoint => "chr() arg not in range(0x110000)"
  | .overflow | .unknownBool | .emptyNumber | .notTime | .notText => ""

/-- Why there is no document. -/
inductive Fault where
  /-- The text does not follow the grammar. -/
  | malformed
  /-- The text ends too early. -/
  | truncated
  /-- The text cannot be read on: its bytes are no characters. -/
  | undecodable
  /-- Collections hold one another too deeply, or a text stands for itself. -/
  | tooDeep
  /-- A scalar does not spell what it announces. -/
  | scalar (fault : ScalarFault)

end WorkspaceLink.Yaml
