import Intake.Number.Binary64
import Intake.Text.Blank
import Intake.Text.Digit

/-!
# Numbers typed by hand

A setting or a status that arrives as text is read generously: white space around it, digits of any
script, one underscore between two digits, and for floating-point numbers a missing whole part or
fraction and the names of the special values in any case.
-/

namespace Intake.Typed

/-- An underscore stands nowhere at the end or beside another one. -/
def groupedWell : Text → Bool
  | [] => true
  | [c] => c != 95
  | c :: d :: rest => !(c == 95 && d == 95) && groupedWell (d :: rest)

/-- Without the underscores that group digits, unless one is misplaced. -/
def ungroup? (t : Text) : Option Text :=
  if t.head? ≠ some 95 ∧ groupedWell t then some (t.filter (· != 95)) else none

/-- Digits with grouping, possibly none at all. -/
def digits? (t : Text) : Option Text :=
  (ungroup? t).bind fun ds => if ds.all CodePoint.isDigit then some ds else none

/-- Trimmed, with the digits of every script as ASCII digits. -/
def plain (t : Text) : Text :=
  (Text.stripWhile CodePoint.isSpace t).map fun c => (c.decimalValue?.map CodePoint.ofDigit).getD c

/-- A leading sign and the rest. -/
def signed (t : Text) : Bool × Text :=
  match t with
  | c :: rest => if c = 45 then (true, rest) else if c = 43 then (false, rest) else (false, t)
  | [] => (false, [])

/-- A whole number. -/
def whole? (t : Text) : Option Int :=
  let s := signed (plain t)
  match digits? s.2 with
  | some (d :: ds) =>
    let n : Int := Text.digitsValue (d :: ds)
    some (if s.1 then -n else n)
  | _ => none

/-- The text up to an exponent mark, and what follows the mark. -/
def cutExponent : Text → Text × Option Text
  | [] => ([], none)
  | c :: rest =>
    if c = 101 then ([], some rest) else (c :: (cutExponent rest).1, (cutExponent rest).2)

/-- An exponent; none at all counts as zero. -/
def exponent? : Option Text → Option Int
  | none => some 0
  | some t =>
    let s := signed t
    match digits? s.2 with
    | some (d :: ds) =>
      let n : Int := Text.digitsValue (d :: ds)
      some (if s.1 then -n else n)
    | _ => none

/-- An unsigned floating-point number in lower case. -/
def magnitude? (negative : Bool) (t : Text) : Option Binary64 :=
  if t = "inf" ∨ t = "infinity" then some (.infinite negative)
  else if t = "nan" then some .nan
  else
    let parts := cutExponent t
    let point := Text.cut 46 parts.1
    match digits? point.1, digits? (point.2.getD []), exponent? parts.2 with
    | some whole, some places, some e =>
      if whole = [] ∧ places = [] then none
      else some (Binary64.ofDecimal negative (Text.digitsValue (whole ++ places)) (e - places.length))
    | _, _, _ => none

/-- A floating-point number in plain ASCII digits without grouping, and nothing around it. -/
def decimal? (t : Text) : Option Binary64 :=
  if t.contains 95 then none
  else
    let s := signed t
    magnitude? s.1 (s.2.map CodePoint.asciiLower)

/-- A floating-point number. -/
def real? (t : Text) : Option Binary64 :=
  let s := signed (plain t)
  magnitude? s.1 (s.2.map CodePoint.asciiLower)

end Intake.Typed
