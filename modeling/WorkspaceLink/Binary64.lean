/-!
# Double-precision numbers

A double is `± mantissa · 2 ^ exponent`, an infinity or not a number. All arithmetic here is exact
arithmetic on whole numbers followed by one rounding to the nearest double, ties to even.
-/

namespace WorkspaceLink

/-- The number `mantissa · 2 ^ exponent`. -/
structure Dyadic where
  mantissa : Int
  exponent : Int

namespace Dyadic

/-- A whole number. -/
def ofInt (n : Int) : Dyadic := ⟨n, 0⟩

/-- The mantissa that writes the same number with a smaller or equal exponent. -/
def mantissaAt (d : Dyadic) (e : Int) : Int :=
  d.mantissa * Int.pow 2 (d.exponent - e).toNat

/-- Whether two dyadics are the same number. -/
def same (a b : Dyadic) : Bool :=
  let e := min a.exponent b.exponent
  a.mantissaAt e == b.mantissaAt e

/-- The exact sum. -/
def add (a b : Dyadic) : Dyadic :=
  let e := min a.exponent b.exponent
  ⟨a.mantissaAt e + b.mantissaAt e, e⟩

/-- The exact product. -/
def mul (a b : Dyadic) : Dyadic :=
  ⟨a.mantissa * b.mantissa, a.exponent + b.exponent⟩

theorem same_refl (a : Dyadic) : a.same a = true := by
  simp [same]

end Dyadic

/-- The quotient of two whole numbers to the nearest whole number, a half to the even neighbour. -/
def roundDiv (num den : Nat) : Nat :=
  let q := num / den
  let r := num % den
  if den < 2 * r ∨ (2 * r = den ∧ q % 2 = 1) then q + 1 else q

/-- A double-precision number. -/
inductive Binary64 where
  | nan
  | infinite (negative : Bool)
  | finite (negative : Bool) (mantissa : Nat) (exponent : Int)
  deriving DecidableEq

namespace Binary64

/-- The exponent of the subnormal numbers. -/
def minExponent : Int := -1074

def maxExponent : Int := 971

def signed (negative : Bool) (magnitude : Nat) : Int :=
  if negative then -magnitude else magnitude

/-- Zero of either sign. -/
def zero (negative : Bool) : Binary64 := .finite negative 0 minExponent

/-- `mantissa · 2 ^ exponent` with a carry out of 53 bits moved into the exponent. -/
def normal (negative : Bool) (mantissa : Nat) (exponent : Int) : Binary64 :=
  let (m, e) :=
    if mantissa = Nat.pow 2 53 then (Nat.pow 2 52, exponent + 1) else (mantissa, exponent)
  if maxExponent < e then .infinite negative else .finite negative m e

/-- The double nearest to `num / den`, for a positive `den`. -/
def ofRatio (negative : Bool) (num den : Nat) : Binary64 :=
  if num = 0 then zero negative
  else
    let scaled (e : Int) : Nat × Nat := (num * Nat.pow 2 (-e).toNat, den * Nat.pow 2 e.toNat)
    let e₀ := max minExponent ((num.log2 : Int) - den.log2 - 53)
    let e := if Nat.pow 2 53 ≤ (scaled e₀).1 / (scaled e₀).2 then e₀ + 1 else e₀
    normal negative (roundDiv (scaled e).1 (scaled e).2) e

/-- The number of decimal digits, `0` for zero. -/
def decimalLength (n : Nat) : Nat :=
  if n = 0 then 0 else (Nat.toDigits 10 n).length

/-- The double nearest to `digits · 10 ^ exponent`. -/
def ofDecimal (negative : Bool) (digits : Nat) (exponent : Int) : Binary64 :=
  let magnitude := (decimalLength digits : Int) + exponent
  if digits = 0 ∨ magnitude < -330 then zero negative
  else if 310 < magnitude then .infinite negative
  else ofRatio negative (digits * Nat.pow 10 exponent.toNat) (Nat.pow 10 (-exponent).toNat)

/-- The double nearest to a dyadic; a zero has the sign asked for. -/
def ofDyadic (zeroNegative : Bool) (d : Dyadic) : Binary64 :=
  if d.mantissa = 0 then zero zeroNegative
  else
    ofRatio (d.mantissa < 0) (d.mantissa.natAbs * Nat.pow 2 d.exponent.toNat)
      (Nat.pow 2 (-d.exponent).toNat)

/-- The exact value of a finite double. -/
def toDyadic? : Binary64 → Option Dyadic
  | .finite s m e => some ⟨signed s m, e⟩
  | _ => none

/-- The double with the opposite sign. -/
def neg : Binary64 → Binary64
  | .nan => .nan
  | .infinite s => .infinite !s
  | .finite s m e => .finite (!s) m e

/-- The rounded sum of two doubles, for sums that do not cancel to a signed zero. -/
def add : Binary64 → Binary64 → Binary64
  | .nan, _ | _, .nan => .nan
  | .infinite s, .infinite t => if s = t then .infinite s else .nan
  | .infinite s, _ | _, .infinite s => .infinite s
  | .finite s m e, .finite t n f =>
    ofDyadic (s && t) (Dyadic.add ⟨signed s m, e⟩ ⟨signed t n, f⟩)

/-- The rounded product of two doubles. -/
def mul : Binary64 → Binary64 → Binary64
  | .nan, _ | _, .nan => .nan
  | .infinite s, .infinite t => .infinite (s != t)
  | .infinite s, .finite t m _ | .finite t m _, .infinite s =>
    if m = 0 then .nan else .infinite (s != t)
  | .finite s m e, .finite t n f =>
    ofDyadic (s != t) (Dyadic.mul ⟨signed s m, e⟩ ⟨signed t n, f⟩)

/-- Numeric equality: not a number differs from itself, and the zeros are equal. -/
def same : Binary64 → Binary64 → Bool
  | .infinite s, .infinite t => s == t
  | .finite s m e, .finite t n f =>
    Dyadic.same ⟨signed s m, e⟩ ⟨signed t n, f⟩
  | _, _ => false

def isZero : Binary64 → Bool
  | .finite _ m _ => m == 0
  | _ => false

end Binary64

end WorkspaceLink
