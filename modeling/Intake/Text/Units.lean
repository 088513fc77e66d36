import Intake.Text.Utf8

/-!
# Sixteen- and thirty-two-bit units

Octets are grouped into units of either byte order. In UTF-16 a high half followed by a low half is
one code point and a half on its own stands for itself; in UTF-32 every unit is a code point.
-/

namespace Intake.Units

/-- Which octet of a unit comes first. -/
inductive ByteOrder where
  | big
  | little
  deriving DecidableEq

/-- Groups octets in twos; a last octet on its own is refused. -/
def pairs (order : ByteOrder) : Octets → Option (List Nat)
  | [] => some []
  | [_] => none
  | a :: b :: rest =>
    (pairs order rest).map ((match order with
      | .big => a.val * 256 + b.val
      | .little => b.val * 256 + a.val) :: ·)

/-- Groups octets in fours; left-over octets are refused. -/
def quads (order : ByteOrder) : Octets → Option (List Nat)
  | [] => some []
  | a :: b :: c :: d :: rest =>
    (quads order rest).map ((match order with
      | .big => ((a.val * 256 + b.val) * 256 + c.val) * 256 + d.val
      | .little => ((d.val * 256 + c.val) * 256 + b.val) * 256 + a.val) :: ·)
  | _ => none

/-- The code point of a surrogate pair. -/
def paired (high low : Nat) : CodePoint :=
  CodePoint.ofNat (0x10000 + (high - 0xD800) * 1024 + (low - 0xDC00))

/-- The number is the first half of a pair. -/
def isHigh (u : Nat) : Bool := decide (0xD800 ≤ u) && decide (u ≤ 0xDBFF)

/-- The number is the second half of a pair. -/
def isLow (u : Nat) : Bool := decide (0xDC00 ≤ u) && decide (u ≤ 0xDFFF)

/-- The text of sixteen-bit units; `high` is a first half that waits for the second. -/
def ofUnits16 : Option Nat → List Nat → Text
  | none, [] => []
  | some h, [] => [CodePoint.ofNat h]
  | none, u :: rest => if isHigh u then ofUnits16 (some u) rest else CodePoint.ofNat u :: ofUnits16 none rest
  | some h, u :: rest =>
    if isLow u then paired h u :: ofUnits16 none rest
    else CodePoint.ofNat h ::
      (if isHigh u then ofUnits16 (some u) rest else CodePoint.ofNat u :: ofUnits16 none rest)

/-- The text of thirty-two-bit units, if all are code points. -/
def ofUnits32 : List Nat → Option Text
  | [] => some []
  | u :: rest => if h : u < 0x110000 then (ofUnits32 rest).map (⟨u, h⟩ :: ·) else none

/-- Reads UTF-16 of a byte order. -/
def decode16? (order : ByteOrder) (bytes : Octets) : Option Text :=
  (pairs order bytes).map (ofUnits16 none)

/-- Reads UTF-32 of a byte order. -/
def decode32? (order : ByteOrder) (bytes : Octets) : Option Text :=
  (quads order bytes).bind ofUnits32

/-- The sixteen-bit units of a code point. -/
def toUnits16 (c : CodePoint) : List Nat :=
  if c.val < 0x10000 then [c.val]
  else [0xD800 + (c.val - 0x10000) / 1024, 0xDC00 + (c.val - 0x10000) % 1024]

end Intake.Units
