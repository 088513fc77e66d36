import Intake.Json.Value
import Intake.Text.Printable

/-!
# Displaying values

The text of a value in a message or where a value stands in for a name. A string is its own text; any
other value is displayed with quoted strings, blanks after commas and colons, and the words `None`,
`True` and `False`. Quotes are single ones unless the text holds a single quote and no double one, and what
cannot be shown as itself is an escape with the fewest hexadecimal digits of two, four or eight.

Whole numbers and nested values are displayed whatever their size. A bound on the digits of a number or on
the depth of nesting, as an interpreter may set one, is no part of this.
-/

/-! ### Quoted texts -/

namespace Intake.Text

/-- The lowest `n` hexadecimal digits of a number. -/
def hexDigits : Nat → Nat → Text
  | 0, _ => []
  | n + 1, v => hexDigits n (v / 16) ++ [CodePoint.ofHexDigit (v % 16)]

/-- A code point between two marks. -/
def quoteOne (mark c : CodePoint) : Text :=
  if c = mark ∨ c = 92 then [92, c]
  else if c = 9 then [92, 116]
  else if c = 10 then [92, 110]
  else if c = 13 then [92, 114]
  else if c.isPrintable then [c]
  else if c.val < 0x100 then [92, 120] ++ hexDigits 2 c.val
  else if c.val < 0x10000 then [92, 117] ++ hexDigits 4 c.val
  else [92, 85] ++ hexDigits 8 c.val

/-- The mark that a text is quoted with. -/
def quoteMark (t : Text) : CodePoint := if t.contains 39 && !t.contains 34 then 34 else 39

/-- A text in quotes. -/
def quoted (t : Text) : Text := quoteMark t :: (t.flatMap (quoteOne (quoteMark t)) ++ [quoteMark t])

end Intake.Text

/-! ### Values -/

namespace Intake.Value

mutual
/-- A value as part of a larger one. -/
def inspect : Value → Text
  | null => "None"
  | bool true => "True"
  | bool false => "False"
  | int n => Text.ofInt n
  | real x => x.render
  | str s => s.quoted
  | arr items => 91 :: (inspectItems items ++ [93])
  | obj ms => 123 :: (inspectMembers ms ++ [125])
/-- Items with commas between them. -/
def inspectItems : List Value → Text
  | [] => []
  | [v] => inspect v
  | v :: w :: vs => inspect v ++ (", " : Text) ++ inspectItems (w :: vs)
/-- Members with commas between them. -/
def inspectMembers : List (Text × Value) → Text
  | [] => []
  | [(k, v)] => k.quoted ++ (": " : Text) ++ inspect v
  | (k, v) :: e :: rest =>
    k.quoted ++ (": " : Text) ++ inspect v ++ (", " : Text) ++ inspectMembers (e :: rest)
end

/-- The text that a value stands for. -/
def display : Value → Text
  | str s => s
  | v => inspect v

@[simp] theorem display_str (s : Text) : display (str s) = s := rfl

end Intake.Value
