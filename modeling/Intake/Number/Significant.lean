import Intake.Number.Shortest

/-!
# Fifteen digits

In a column of texts a floating-point number is stored with fifteen significant digits, zeros at the end
left out. So a number that needs more digits does not read back as the same number. Notation is
positional below `10 ^ 15`, and every mantissa has a point. Zero has no sign, and a NaN is no text.
-/

namespace Intake.Binary64

/-- A mantissa has a point, and fifteen digits are positional. -/
def Layout.wide : Layout := ⟨15, true⟩

/-- The whole number nearest to `num / den` in units of `10 ^ p`. -/
def unitsOf (num den : Nat) (p : Int) : Nat := roundDiv (num * tenTo (-p)) (den * tenTo p)

/-- The decimal of fifteen digits nearest to `num / den`, where `p` is the exponent of the last digit, or
off by one. -/
def fifteenAt (num den : Nat) (p : Int) : Decimal :=
  if tenTo 15 ≤ unitsOf num den p then ⟨unitsOf num den (p + 1), p + 1⟩
  else if unitsOf num den p < tenTo 14 then ⟨unitsOf num den (p - 1), p - 1⟩
  else ⟨unitsOf num den p, p⟩

/-- The decimal without zeros at the end, of which there are at most as many as the first argument
tells. -/
def dropZeros : Nat → Decimal → Decimal
  | 0, d => d
  | n + 1, d => if d.digits % 10 = 0 then dropZeros n ⟨d.digits / 10, d.exponent + 1⟩ else d

/-- The decimal of fifteen digits nearest to `num / den`. -/
def fifteen (num den : Nat) : Decimal :=
  dropZeros 15 (fifteenAt num den (floorLog2 num den * 30103 / 100000 - 14))

/-- The text of a number in a column. -/
def columnText? : Binary64 → Option Text
  | nan => none
  | infinite negative => some (if negative then "-Inf" else "Inf")
  | negZero => some "0.0"
  | finite .zero => some "0.0"
  | finite (.ofOdd n k _) =>
    let d := if 0 ≤ k then fifteen n.natAbs (twoTo k) else fifteen (n.natAbs * twoTo (-k)) 1
    some ((if n < 0 then ("-" : Text) else []) ++ d.render Layout.wide)

end Intake.Binary64
