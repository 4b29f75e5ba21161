import WorkspaceLink.Binary64

/-!
# The shortest decimal that reads back

The digits of a double are the fewest that still round to it; among those with as many digits, the
nearest. They are found on the decimal grids `10 ^ k`, coarsest first: the first grid with a point
in the interval of numbers that round to the double has the fewest digits.
-/

namespace WorkspaceLink.Decimal

/-- The number `digits · 10 ^ exponent`. -/
structure Scientific where
  digits : Nat
  exponent : Int

/-- The numbers that round to a double, all over one denominator. -/
structure RoundingInterval where
  low : Nat
  value : Nat
  high : Nat
  den : Nat
  closed : Bool

namespace RoundingInterval

/-- The interval of `mantissa · 2 ^ exponent`: half a unit above and half a unit below, where the
unit below a power of two is half as large. Its ends belong to it if the mantissa is even. -/
def ofBinary (mantissa : Nat) (exponent : Int) : RoundingInterval :=
  let e := exponent - 2
  let below := if mantissa = Nat.pow 2 52 ∧ Binary64.minExponent < exponent then 1 else 2
  let up := Nat.pow 2 e.toNat
  ⟨(4 * mantissa - below) * up, 4 * mantissa * up, (4 * mantissa + 2) * up,
    Nat.pow 2 (-e).toNat, mantissa % 2 == 0⟩

/-- Whether `digits · 10 ^ exponent` lies in the interval. -/
def has (i : RoundingInterval) (s : Scientific) : Bool :=
  let num := s.digits * Nat.pow 10 s.exponent.toNat * i.den
  let den := Nat.pow 10 (-s.exponent).toNat
  if i.closed then i.low * den ≤ num && num ≤ i.high * den
  else i.low * den < num && num < i.high * den

/-- The grid point of `10 ^ k` that lies in the interval and is nearest to its value. -/
def nearestOn? (i : RoundingInterval) (k : Int) : Option Scientific :=
  let num := i.value * Nat.pow 10 (-k).toNat
  let den := i.den * Nat.pow 10 k.toNat
  let d := num / den
  let r := num % den
  let above : Scientific := ⟨d + 1, k⟩
  let below : Scientific := ⟨d, k⟩
  let hitBelow := d != 0 && i.has below
  let hitAbove := i.has above
  if hitBelow && hitAbove then
    some (if 2 * r < den ∨ (2 * r = den ∧ d % 2 = 0) then below else above)
  else if hitBelow then some below
  else if hitAbove then some above
  else none

/-- Tries the grids from `10 ^ k` downwards. -/
def search (i : RoundingInterval) : Nat → Int → Scientific
  | 0, k => ⟨i.value * Nat.pow 10 (-k).toNat / (i.den * Nat.pow 10 k.toNat), k⟩
  | n + 1, k => (i.nearestOn? k).getD (search i n (k - 1))

end RoundingInterval

/-- The shortest decimal of `mantissa · 2 ^ exponent`, for a positive mantissa. A double needs at
most 17 digits, and the search starts at most three grids above its first digit. -/
def shortest (mantissa : Nat) (exponent : Int) : Scientific :=
  let bits := (mantissa.log2 : Int) + 1 + exponent
  (RoundingInterval.ofBinary mantissa exponent).search 24 (bits * 1233 / 4096 + 2)

/-- How a decimal is written: positional between two powers of ten, else with an exponent. -/
structure Format where
  /-- Positional notation is used from `10 ^ (positionalFrom - 1)` … -/
  positionalFrom : Int
  /-- … up to, but not including, `10 ^ positionalTo`. -/
  positionalTo : Int
  /-- What follows the digits of a whole number in positional notation. -/
  wholeSuffix : String
  /-- The fewest digits of an exponent. -/
  exponentDigits : Nat

def digitChars (n : Nat) : List Char :=
  Nat.toDigits 10 n

/-- Zeros put in front up to a length. -/
def padZeros (n : Nat) (cs : List Char) : List Char :=
  List.replicate (n - cs.length) '0' ++ cs

/-- Writes `digits · 10 ^ exponent`. -/
def Format.write (f : Format) (s : Scientific) : List Char :=
  let ds := digitChars s.digits
  let point := (ds.length : Int) + s.exponent
  if f.positionalFrom ≤ point ∧ point ≤ f.positionalTo then
    if point ≤ 0 then '0' :: '.' :: (List.replicate (-point).toNat '0' ++ ds)
    else if (ds.length : Int) ≤ point then
      ds ++ List.replicate (point - ds.length).toNat '0' ++ f.wholeSuffix.toList
    else ds.take point.toNat ++ '.' :: ds.drop point.toNat
  else
    let e := point - 1
    let fraction := ds.drop 1
    ds.take 1 ++ (if fraction.isEmpty then [] else '.' :: fraction) ++
      'e' :: (if e < 0 then '-' else '+') :: padZeros f.exponentDigits (digitChars e.natAbs)

end WorkspaceLink.Decimal
