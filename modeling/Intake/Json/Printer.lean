import Intake.Json.Value
import Intake.Text.Units

/-!
# Writing JSON

A value is written in ASCII: every code point outside the printable ASCII range is an escape, and one
above U+FFFF is the escapes of its two halves. Whole numbers are written digit by digit, floating-point
numbers with the fewest digits that read back, and the special numbers by the names `NaN`, `Infinity`
and `-Infinity`. The only freedom is what separates items and what separates a key from its value.
Whole numbers of any size and values of any depth are written; bounds that an interpreter may set on either
are no part of this.
-/

namespace Intake.Json

/-- What stands between items and between a key and its value. -/
structure Layout where
  comma : Text
  colon : Text

/-- Separators with one blank after them: the layout of the stored columns and of requests. -/
def Layout.spaced : Layout := ⟨", ", ": "⟩

/-- Separators without blanks. -/
def Layout.compact : Layout := ⟨",", ":"⟩

/-- The escape of a sixteen-bit unit. -/
def unitEscape (u : Nat) : Text :=
  [92, 117, CodePoint.ofHexDigit (u / 4096 % 16), CodePoint.ofHexDigit (u / 256 % 16),
    CodePoint.ofHexDigit (u / 16 % 16), CodePoint.ofHexDigit (u % 16)]

/-- A code point inside a string. -/
def escape (c : CodePoint) : Text :=
  if c = 34 then [92, 34]
  else if c = 92 then [92, 92]
  else if c = 10 then [92, 110]
  else if c = 13 then [92, 114]
  else if c = 9 then [92, 116]
  else if c = 12 then [92, 102]
  else if c = 8 then [92, 98]
  else if 0x20 ≤ c.val ∧ c.val ≤ 0x7E then [c]
  else (Units.toUnits16 c).flatMap unitEscape

/-- A string with its quotes. -/
def writeText (t : Text) : Text := 34 :: (t.flatMap escape ++ [34])

/-- A floating-point number. -/
def writeReal (x : Binary64) : Text := x.renderWith "Infinity" "NaN"

mutual
/-- The written form of a value. -/
def write (l : Layout) : Value → Text
  | .null => "null"
  | .bool true => "true"
  | .bool false => "false"
  | .int n => Text.ofInt n
  | .real x => writeReal x
  | .str s => writeText s
  | .arr items => 91 :: (writeItems l items ++ [93])
  | .obj ms => 123 :: (writeMembers l ms ++ [125])
/-- Items with commas between them. -/
def writeItems (l : Layout) : List Value → Text
  | [] => []
  | v :: vs => write l v ++ writeMoreItems l vs
/-- Items that each follow a comma. -/
def writeMoreItems (l : Layout) : List Value → Text
  | [] => []
  | v :: vs => l.comma ++ write l v ++ writeMoreItems l vs
/-- Members with commas between them. -/
def writeMembers (l : Layout) : List (Text × Value) → Text
  | [] => []
  | (k, v) :: rest => writeText k ++ l.colon ++ write l v ++ writeMoreMembers l rest
/-- Members that each follow a comma. -/
def writeMoreMembers (l : Layout) : List (Text × Value) → Text
  | [] => []
  | (k, v) :: rest => l.comma ++ writeText k ++ l.colon ++ write l v ++ writeMoreMembers l rest
end

end Intake.Json
