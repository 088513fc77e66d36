import Intake.Json.Printer

/-!
# The text a value is searched as

A containment test compares texts, so a condition value that is not a text is turned into one the way
a form shows it: whole numbers without a fraction, lists as their items with commas and nothing for a
null, objects as compact JSON. Whole numbers of any size and values of any depth are shown; bounds that an
interpreter may set on either are no part of this.
-/

namespace Intake.Value

/-- A floating-point number, without a fraction when it is whole. -/
def shownReal (x : Binary64) : Text :=
  match x.isIntegral, x.truncate? with
  | true, some n => Text.ofInt n
  | _, _ => x.render

mutual
/-- The text of a value. -/
def shown : Value → Text
  | str s => s
  | null => "null"
  | bool true => "true"
  | bool false => "false"
  | int n => Text.ofInt n
  | real x => shownReal x
  | arr items => shownItems items
  | obj ms => Json.write .compact (obj ms)
/-- Items with commas between them; a null item leaves its place empty. -/
def shownItems : List Value → Text
  | [] => []
  | [v] => if v.isNull then [] else shown v
  | v :: w :: vs => (if v.isNull then [] else shown v) ++ 44 :: shownItems (w :: vs)
end

end Intake.Value
