import WorkspaceLink.Binary64
import WorkspaceLink.Text.Blank
import WorkspaceLink.Unicode.Digit

/-!
# Reading numbers

Whole numbers in a base and decimal fractions, as words: blanks around them do not count, and the
digits may be of any script.
-/

namespace WorkspaceLink.Decimal

/-- Digits of every script turned into ASCII digits. -/
def asciiDigits (cs : List Char) : List Char :=
  cs.map fun c =>
    match Unicode.digitValue? c with
    | some d => Char.ofNat ('0'.toNat + d)
    | none => c

/-- The value of a digit or letter, below 36. -/
def digitOf? (c : Char) : Option Nat :=
  if c.isDigit then some (c.toNat - '0'.toNat)
  else if c.isLower then some (c.toNat - 'a'.toNat + 10)
  else if c.isUpper then some (c.toNat - 'A'.toNat + 10)
  else none

/-- The number that a nonempty run of digits of the base writes. -/
def natOfDigits? (base : Nat) : List Char → Option Nat
  | [] => none
  | cs => cs.foldl (fun acc c => do
      let n ← acc
      let d ← digitOf? c
      if d < base then some (n * base + d) else none) (some 0)

/-- A sign in front of a text. -/
def splitSign : List Char → Bool × List Char
  | '-' :: cs => (true, cs)
  | '+' :: cs => (false, cs)
  | cs => (false, cs)

/-- A text without the marker of its base, which is optional where the base is given. -/
def dropBaseMarker (base : Nat) : List Char → List Char
  | '0' :: c :: cs =>
    let marked := match base with
      | 2 => c == 'b' || c == 'B'
      | 8 => c == 'o' || c == 'O'
      | 16 => c == 'x' || c == 'X'
      | _ => false
    if marked then cs else '0' :: c :: cs
  | cs => cs

def readInt? (base : Nat) (cs : List Char) : Option Int :=
  let (negative, body) := splitSign (asciiDigits (Text.trim cs))
  (natOfDigits? base (dropBaseMarker base body)).map fun n => if negative then -n else n

/-- The digits in front of a text and what follows them. -/
def spanDigits (cs : List Char) : List Char × List Char :=
  (cs.takeWhile Char.isDigit, cs.dropWhile Char.isDigit)

/-- An exponent part, or nothing. -/
def readExponent? : List Char → Option Int
  | [] => some 0
  | c :: cs =>
    if c == 'e' || c == 'E' then
      let (negative, body) := splitSign cs
      if body.all Char.isDigit then
        (natOfDigits? 10 body).map fun n => if negative then -n else n
      else none
    else none

/-- Reads an unsigned decimal fraction: at least one digit before or after the point. -/
def readUnsigned? (negative : Bool) (cs : List Char) : Option Binary64 := do
  let (whole, rest) := spanDigits cs
  let (fraction, rest) := match rest with
    | '.' :: rest => spanDigits rest
    | rest => ([], rest)
  let digits ← natOfDigits? 10 (whole ++ fraction)
  let exponent ← readExponent? rest
  return Binary64.ofDecimal negative digits (exponent - fraction.length)

/-- Reads a number, an infinity or not-a-number. -/
def readBinary64? (cs : List Char) : Option Binary64 :=
  let (negative, body) := splitSign (asciiDigits (Text.trim cs))
  match String.ofList (body.map Char.toLower) with
  | "inf" | "infinity" => some (.infinite negative)
  | "nan" => some .nan
  | _ => readUnsigned? negative body

end WorkspaceLink.Decimal
