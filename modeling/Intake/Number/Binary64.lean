import Intake.Text.Basic

/-!
# Floating-point numbers

A floating-point number is kept as what it is: an exact dyadic fraction, or one of the special
values. Dyadic fractions have one representation each, so two numbers have the same value exactly
when they are the same fraction; the only exception is the negative zero, which is a value of its own
here and equal to zero under comparison. No machine arithmetic is involved, so comparisons with
integers of any size are exact.

Reading a decimal rounds to the nearest number of 53 binary digits (ties go to the even one), with
the smallest step 2⁻¹⁰⁷⁴ and infinity from 2¹⁰²⁴ on. A power with a negative exponent gives one here, so
that a fraction is written with a power of either sign by one factor above and one below.
-/

namespace Intake

/-- The power of two, or one. -/
def twoTo (k : Int) : Nat := Nat.pow 2 k.toNat

/-- The power of ten, or one. -/
def tenTo (k : Int) : Nat := Nat.pow 10 k.toNat

/-- The first whole number that is too large for a signed word of 64 bits. -/
def wordLimit : Int := 9223372036854775808

/-- A whole number fits into a signed word of 64 bits. -/
def fitsWord (n : Int) : Bool := decide (-wordLimit ≤ n) && decide (n < wordLimit)

/-- A floating-point number. -/
inductive Binary64 where
  | nan
  | infinite (negative : Bool)
  | negZero
  | finite (value : Dyadic)
  deriving DecidableEq

namespace Binary64

/-- The exact value, when there is a finite one. -/
def value? : Binary64 → Option Dyadic
  | finite x => some x
  | negZero => some 0
  | _ => none

/-- The number is a whole number. -/
def isIntegral : Binary64 → Bool
  | finite .zero => true
  | finite (.ofOdd _ k _) => decide (k ≤ 0)
  | negZero => true
  | _ => false

/-- The number without its fraction, when it is finite: rounding is toward zero. -/
def truncate? : Binary64 → Option Int
  | finite .zero => some 0
  | finite (.ofOdd n k _) =>
    if k ≤ 0 then some (n * twoTo (-k)) else some (Int.tdiv n (twoTo k))
  | negZero => some 0
  | _ => none

/-- Equality of numbers: a NaN equals nothing, the two zeros are equal. -/
def numEq : Binary64 → Binary64 → Bool
  | infinite s, infinite t => s == t
  | x, y => match x.value?, y.value? with
    | some a, some b => decide (a = b)
    | _, _ => false

/-- Equality with an integer is equality of the exact values. -/
def eqInt (x : Binary64) (n : Int) : Bool :=
  match x.value? with
  | some a => decide (a = (n : Dyadic))
  | none => false

/-- Strictly above zero. -/
def isPositive : Binary64 → Bool
  | infinite negative => !negative
  | finite x => decide (0 < x)
  | _ => false

/-- Neither an infinity nor a NaN. -/
def isFinite (x : Binary64) : Bool := x.value?.isSome

/-- A half or more rounds up, except that an exact half goes to the even neighbour. -/
def roundDiv (num den : Nat) : Nat :=
  let q := num / den
  let r := num % den
  if 2 * r < den then q
  else if 2 * r = den then q + q % 2
  else q + 1

/-- `⌊log₂ (num / den)⌋` for positive arguments. -/
def floorLog2 (num den : Nat) : Int :=
  let e : Int := (num.log2 : Int) - den.log2
  let below := if 0 ≤ e then num < den * twoTo e else num * twoTo (-e) < den
  if below then e - 1 else e

/-- Zero of a sign. -/
def signedZero (negative : Bool) : Binary64 := if negative then negZero else finite 0

/-- The floating-point number nearest to `num / den`. -/
def ofFraction (negative : Bool) (num den : Nat) : Binary64 :=
  if num = 0 then signedZero negative
  else
    let unit : Int := max (floorLog2 num den - 52) (-1074)
    let m := if 0 ≤ unit then roundDiv num (den * twoTo unit)
      else roundDiv (num * twoTo (-unit)) den
    if m = 0 then signedZero negative
    else if 1024 ≤ floorLog2 m 1 + unit then infinite negative
    else finite (.ofIntWithPrec (if negative then -(m : Int) else m) (-unit))

/-- The floating-point number nearest to `digits · 10 ^ exponent`. Exponents far outside the range
are settled by the number of digits alone. -/
def ofDecimal (negative : Bool) (digits : Nat) (exponent : Int) : Binary64 :=
  let size : Int := (digits.log2 : Int) * 30103 / 100000 + exponent
  if digits = 0 then signedZero negative
  else if 320 < size then infinite negative
  else if size < -400 then signedZero negative
  else if 0 ≤ exponent then ofFraction negative (digits * tenTo exponent) 1
  else ofFraction negative digits (tenTo (-exponent))

/-- The floating-point number nearest to an integer. -/
def ofInt (n : Int) : Binary64 := ofFraction (decide (n < 0)) n.natAbs 1

/-! ### First laws -/

@[simp] theorem numEq_nan_left (x : Binary64) : numEq nan x = false := by
  cases x <;> rfl

@[simp] theorem numEq_nan_right (x : Binary64) : numEq x nan = false := by
  cases x <;> rfl

end Binary64
end Intake
