import Intake.Number.Binary64

/-!
# Shortest decimals

A floating-point number is written with the fewest digits that read back as the same number, and of
those with the digits nearest to it. All reals between the two half-way points to its neighbours read
back; the half-way points themselves do exactly when its last binary digit is even. On each decimal
grid, from the coarsest on, only the two grid points around the number can be nearest, so testing
these two finds the answer.

The written form is positional for decimal exponents from -4 to 15 and scientific otherwise, and a
whole number keeps one zero after the point.
-/

namespace Intake.Binary64

/-- Decimal digits and the power of ten of the last one. -/
structure Decimal where
  digits : Nat
  exponent : Int

/-- The reals between two ends, both given in units of a power of two over four. -/
structure Interval where
  low : Nat
  high : Nat
  closed : Bool
  unit : Int

/-- `a · 2 ^ (unit - 2)` compared with `d · 10 ^ p`, both brought to whole numbers. -/
def scaled (a : Nat) (unit : Int) (d : Nat) (p : Int) : Nat × Nat :=
  let e := unit - 2
  let left := a * twoTo e * tenTo (-p)
  let right := d * tenTo p * twoTo (-e)
  (left, right)

/-- The decimal lies in the interval. -/
def Interval.holds (i : Interval) (d : Nat) (p : Int) : Bool :=
  let l := scaled i.low i.unit d p
  let h := scaled i.high i.unit d p
  if i.closed then decide (l.1 ≤ l.2) && decide (h.2 ≤ h.1)
  else decide (l.1 < l.2) && decide (h.2 < h.1)

/-- The reals that read back as `m · 2 ^ unit`, where `m` has at most 53 binary digits. -/
def readBack (m : Nat) (unit : Int) : Interval :=
  { low := if m = twoTo 52 ∧ -1074 < unit then 4 * m - 1 else 4 * m - 2
    high := 4 * m + 2
    closed := m % 2 == 0
    unit := unit }

/-- The grid point of `10 ^ p` that reads back and is nearest to the number, if there is one. A number in
the middle between two goes to the even one. -/
def onGrid (m : Nat) (unit : Int) (p : Int) : Option Decimal :=
  let i := readBack m unit
  let num := m * twoTo unit * tenTo (-p)
  let den := tenTo p * twoTo (-unit)
  let below := num / den
  match i.holds below p, i.holds (below + 1) p with
  | true, true => some ⟨roundDiv num den, p⟩
  | true, false => some ⟨below, p⟩
  | false, true => some ⟨below + 1, p⟩
  | false, false => none

/-- The first hit on the grids `10 ^ p`, `10 ^ (p - 1)`, … -/
def firstHit (m : Nat) (unit : Int) : Nat → Int → Decimal
  | 0, p => ⟨0, p⟩
  | tries + 1, p => (onGrid m unit p).getD (firstHit m unit tries (p - 1))

/-- The shortest decimal that reads back as `num / den`. -/
def shortest (num den : Nat) : Decimal :=
  let log := floorLog2 num den
  let unit : Int := max (log - 52) (-1074)
  let m := if 0 ≤ unit then num / (den * twoTo unit) else num * twoTo (-unit) / den
  firstHit m unit 22 (log * 30103 / 100000 + 2)

/-- How decimals are laid out: the decimal exponent from which on notation is scientific, and whether
its mantissa has a point even when nothing follows it. -/
structure Layout where
  limit : Int
  pointed : Bool

/-- Shortest decimals are positional below `10 ^ 16`, and a mantissa of one digit has no point. -/
def Layout.short : Layout := ⟨16, false⟩

/-- The decimal exponents that are written positionally. -/
def Layout.positional (l : Layout) (leading : Int) : Bool :=
  decide (-4 ≤ leading) && decide (leading < l.limit)

/-- The digits of a mantissa with its point. -/
def Layout.mantissa (l : Layout) (digits : Text) : Text :=
  if digits.length = 1 then (if l.pointed then digits ++ (".0" : Text) else digits)
  else digits.take 1 ++ ("." : Text) ++ digits.drop 1

/-- A digit string with its decimal point, or in scientific notation. -/
def Decimal.render (l : Layout) (d : Decimal) : Text :=
  let ds := Text.ofNat d.digits
  let leading : Int := d.exponent + ds.length - 1
  if l.positional leading then
    if 0 ≤ d.exponent then ds ++ List.replicate d.exponent.toNat 48 ++ (".0" : Text)
    else if 0 ≤ leading then
      ds.take (leading.toNat + 1) ++ ("." : Text) ++ ds.drop (leading.toNat + 1)
    else ("0." : Text) ++ List.replicate (-leading - 1).toNat 48 ++ ds
  else
    let size := Text.ofNat leading.natAbs
    l.mantissa ds ++ (if leading < 0 then ("e-" : Text) else "e+") ++
      (if size.length < 2 then 48 :: size else size)

/-- The written form of a number, with the given names of infinity and of the NaN. -/
def renderWith (infinity notANumber : Text) : Binary64 → Text
  | nan => notANumber
  | infinite negative => if negative then ("-" : Text) ++ infinity else infinity
  | negZero => "-0.0"
  | finite .zero => "0.0"
  | finite (.ofOdd n k _) =>
    let d := if 0 ≤ k then shortest n.natAbs (twoTo k) else shortest (n.natAbs * twoTo (-k)) 1
    (if n < 0 then ("-" : Text) else []) ++ d.render Layout.short

/-- The written form with the short names `inf` and `nan`. -/
def render (x : Binary64) : Text := renderWith "inf" "nan" x

end Intake.Binary64
