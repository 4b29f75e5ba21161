import WorkspaceLink.Decimal.Reader
import WorkspaceLink.Text.Split
import WorkspaceLink.Unicode.Lower
import WorkspaceLink.Yaml.Cursor
import WorkspaceLink.Yaml.Fault

/-!
# Numbers of documents

Which plain texts are whole numbers or fractions, and the number that a text spells. Digits may be
grouped by underscores, and a number may be written in base 60 with colons.
-/

namespace WorkspaceLink.Yaml.Number

/-- A digit or an underscore. -/
def isGrouped (c : Char) : Bool :=
  c.isDigit || c == '_'

/-- A digit, and grouped digits after it. -/
def isRun : List Char → Bool
  | [] => false
  | c :: cs => c.isDigit && cs.all isGrouped

/-- Up to two digits that write a number below 60. -/
def isSixtieth : List Char → Bool
  | [c] => c.isDigit
  | [t, c] => '0' ≤ t && t ≤ '5' && c.isDigit
  | _ => false

/-- A number in base 60 whose first part fits a test. -/
def isSexagesimal (first : List Char → Bool) (cs : List Char) : Bool :=
  match Text.split ':' cs with
  | p :: q :: qs => first p && (q :: qs).all isSixtieth
  | _ => false

/-- A run that does not begin with zero. -/
def isPositiveRun (cs : List Char) : Bool :=
  isRun cs && cs.head? != some '0'

/-- Whether a text without its sign is spelled like a whole number. -/
def isUnsignedInteger (cs : List Char) : Bool :=
  cs == ['0'] || isPositiveRun cs || isSexagesimal isPositiveRun cs ||
    match cs with
    | '0' :: 'b' :: c :: ds => (c :: ds).all fun d => d == '0' || d == '1' || d == '_'
    | '0' :: 'x' :: c :: ds => (c :: ds).all fun d => isHexDigit d || d == '_'
    | '0' :: c :: ds => (c :: ds).all fun d => ('0' ≤ d && d ≤ '7') || d == '_'
    | _ => false

/-- Whether a text is spelled like a whole number. -/
def isInteger (cs : List Char) : Bool :=
  isUnsignedInteger (Decimal.splitSign cs).2

/-- An exponent with its sign, or nothing. -/
def isExponent : List Char → Bool
  | [] => true
  | e :: s :: d :: ds =>
    (e == 'e' || e == 'E') && (s == '-' || s == '+') && (d :: ds).all Char.isDigit
  | _ => false

/-- Whether a text without its sign is spelled like a fraction. -/
def isUnsignedFraction (cs : List Char) : Bool :=
  let whole := cs.takeWhile (· != '.')
  match cs.dropWhile (· != '.') with
  | [] => false
  | _ :: rest =>
    (isRun whole && isExponent (rest.dropWhile isGrouped)) ||
      (isSexagesimal isRun whole && rest.all isGrouped) ||
      (whole.isEmpty && ["inf", "Inf", "INF"].contains (String.ofList rest))

/-- Whether a text is spelled like a fraction that begins with its point, or like not-a-number;
neither has a sign. -/
def isPointed : List Char → Bool
  | '.' :: rest =>
    (isRun (rest.takeWhile isGrouped) && isExponent (rest.dropWhile isGrouped)) ||
      ["nan", "NaN", "NAN"].contains (String.ofList rest)
  | _ => false

/-- Whether a text is spelled like a fraction, an infinity or not-a-number. -/
def isFraction (cs : List Char) : Bool :=
  isUnsignedFraction (Decimal.splitSign cs).2 || isPointed cs

/-- The number of decimal digits in front of a whole number, after its sign. -/
def leadingDigits (cs : List Char) : Nat :=
  ((Decimal.splitSign (Decimal.asciiDigits (Text.trim cs))).2.takeWhile Char.isDigit).length

/-- The whole number that a text spells in a base. -/
def integerIn (base : Nat) (cs : List Char) : Except ScalarFault Int :=
  if base = 10 ∧ Decimal.maxWholeDigits < leadingDigits cs then
    .error (.tooManyDigits (leadingDigits cs))
  else
    match Decimal.readInt? base cs with
    | some n => .ok n
    | none => .error (.notInteger base (String.ofList cs))

/-- The whole number that a text without its sign spells. -/
def unsignedInteger (cs : List Char) : Except ScalarFault Int :=
  match cs with
  | [] => .error .emptyNumber
  | ['0'] => .ok 0
  | '0' :: 'b' :: ds => integerIn 2 ds
  | '0' :: 'x' :: ds => integerIn 16 ds
  | '0' :: _ => integerIn 8 cs
  | _ =>
    if cs.contains ':' then do
      let parts ← (Text.split ':' cs).mapM (integerIn 10)
      return parts.foldl (fun n d => n * 60 + d) 0
    else integerIn 10 cs

/-- The whole number that a text spells. -/
def integer (cs : List Char) : Except ScalarFault Int := do
  let (negative, body) := Decimal.splitSign (cs.filter (· != '_'))
  let n ← unsignedInteger body
  return if negative then -n else n

/-- The double that a text spells on its own. -/
def simpleFraction (cs : List Char) : Except ScalarFault Binary64 :=
  match Decimal.readBinary64? cs with
  | some x => .ok x
  | none => .error (.notNumber (String.ofList cs))

/-- The sum of digits in base 60, last digit first, added up from the last. -/
def sumSixtieths : Nat → Binary64 → List Binary64 → Except ScalarFault Binary64
  | _, sum, [] => .ok sum
  | weight, sum, d :: ds =>
    match Binary64.ofRatio false weight 1 with
    | .infinite _ => .error .overflow
    | w => sumSixtieths (weight * 60) (sum.add (d.mul w)) ds

/-- Whether a text spells what is not a number, with a sign or without. -/
def isNotANumber (cs : List Char) : Bool :=
  (Decimal.splitSign (Unicode.lower (cs.filter (· != '_')))).2 == ".nan".toList

/-- The double that a text without its sign spells. -/
def unsignedFraction (cs : List Char) : Except ScalarFault Binary64 :=
  match String.ofList cs with
  | ".inf" => .ok (.infinite false)
  | ".nan" => .ok .nan
  | _ =>
    if cs.contains ':' then do
      let parts ← (Text.split ':' cs).mapM simpleFraction
      sumSixtieths 1 (.zero false) parts.reverse
    else simpleFraction cs

/-- The double that a text spells. -/
def fraction (cs : List Char) : Except ScalarFault Binary64 := do
  let cs := Unicode.lower (cs.filter (· != '_'))
  if cs.isEmpty then throw .emptyNumber
  let (negative, body) := Decimal.splitSign cs
  let x ← unsignedFraction body
  return if negative then x.neg else x

end WorkspaceLink.Yaml.Number
