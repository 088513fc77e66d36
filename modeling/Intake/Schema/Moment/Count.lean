import Intake.Number.Typed
import Intake.Schema.Moment.Basic
import Intake.Schema.Scalar

/-!
# Moments read from counts

A number counts seconds since 1970, or milliseconds when it is too large for that. A count may be whole
or floating-point, and it may be typed as text.
-/

namespace Intake.Moment

/-- The first second of the year 0. -/
def earliest : Int := -62167219200

/-- The last second of the year 9999. -/
def latest : Int := 253402300799

/-- The largest count of seconds: what lies beyond it on either side is a count of milliseconds. -/
def maxSeconds : Nat := 20000000000

/-- The moment so many seconds and microseconds after 1970; microseconds may fill more than a second. -/
def ofParts (seconds : Int) (micros : Nat) : Except Unreadable Moment :=
  let whole := seconds + (micros / 1000000 : Nat)
  if whole < earliest then .error .tooEarly
  else if latest < whole then .error .tooLate
  else .ok ⟨whole, micros % 1000000, some 0⟩

/-- The moment that a whole count gives. -/
def ofCount (count : Int) : Except Unreadable Moment :=
  if count.natAbs ≤ maxSeconds then ofParts count 0
  else ofParts (Int.fdiv count 1000) ((Int.fmod count 1000).toNat * 1000)

/-- The largest whole number that is not above a finite floating-point number. -/
def floor (x : Dyadic) : Int :=
  match x with
  | .zero => 0
  | .ofOdd n k _ => if k ≤ 0 then n * twoTo (-k) else Int.fdiv n (twoTo k)

/-- A product of a positive floating-point number and a whole one, rounded to a floating-point number
and then to a whole number, halves upwards. -/
def roundedProduct (x : Binary64) (factor : Nat) : Nat :=
  match x.value? with
  | some (.ofOdd n k _) =>
    match (Binary64.ofFraction false (n.natAbs * factor * twoTo (-k)) (twoTo k)).value? with
    | some (.ofOdd m j _) => (2 * m.natAbs * twoTo (-j) + twoTo j) / (2 * twoTo j)
    | _ => 0
  | _ => 0

/-- What a number has above its floor, as a floating-point number. -/
def aboveFloor (x : Dyadic) : Binary64 :=
  match x with
  | .zero => .finite 0
  | .ofOdd n k _ =>
    if k ≤ 0 then .finite 0 else Binary64.ofFraction false (Int.fmod n (twoTo k)).toNat (twoTo k)

/-- The moment that a floating-point count gives. -/
def ofReal (x : Binary64) : Except Unreadable Moment :=
  match x with
  | .nan => .error .notANumber
  | .infinite negative => .error (if negative then .tooEarly else .tooLate)
  | .negZero => ofParts 0 0
  | .finite v =>
    if -((maxSeconds : Int) : Dyadic) ≤ v ∧ v ≤ ((maxSeconds : Int) : Dyadic) then
      ofParts (floor v) (roundedProduct (aboveFloor v) 1000000)
    else
      ofParts (Int.fdiv (floor v) 1000)
        ((Int.fmod (floor v) 1000).toNat * 1000 + roundedProduct (aboveFloor v) 1000)

/-- A count that was typed. -/
inductive TypedCount where
  | whole (n : Int)
  | real (x : Binary64)

/-- The digits of an exponent with an optional sign; none at all where nothing is left. -/
def typedExponent? : Text → Option Int
  | [] => some 0
  | mark :: t =>
    let s := Typed.signed t
    if (mark = 101 ∨ mark = 69) ∧ s.2 ≠ [] ∧ s.2.all CodePoint.isDigit then
      some (if s.1 then -(Text.digitsValue s.2 : Int) else Text.digitsValue s.2)
    else none

/-- A count that was typed: digits with an optional sign. A point makes it a floating-point number,
which may lack digits on one side of the point and may end in an exponent. -/
def typedCount? (t : Text) : Option TypedCount :=
  let s := Typed.signed t
  let whole := s.2.takeWhile CodePoint.isDigit
  match s.2.dropWhile CodePoint.isDigit with
  | [] =>
    let n : Int := if s.1 then -(Text.digitsValue whole : Int) else Text.digitsValue whole
    if whole ≠ [] ∧ fitsWord n then some (.whole n) else none
  | 46 :: rest =>
    let places := rest.takeWhile CodePoint.isDigit
    match typedExponent? (rest.dropWhile CodePoint.isDigit) with
    | some e =>
      if whole = [] ∧ places = [] then none
      else some (.real (Binary64.ofDecimal s.1 (Text.digitsValue (whole ++ places))
        (e - places.length)))
    | none => none
  | _ => none

end Intake.Moment
