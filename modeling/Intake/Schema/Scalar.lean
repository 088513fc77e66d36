import Intake.Schema.Issue
import Intake.Number.Typed

/-!
# Scalar fields

Texts, yes-or-no fields and whole numbers. A text must be a string; the other two also take the usual
spellings: `yes` and `off` for a yes-or-no field, digits with a sign, grouping underscores and an empty
fraction for a whole number.
-/

namespace Intake.Schema

/-- A string. -/
def text : Value → Checked Text
  | .str s => .ok s
  | _ => Checked.fault .notText

/-- A string that some Unicode encoding can carry. -/
def unicodeText : Value → Checked Text
  | .str s => if s.encodable then .ok s else Checked.fault .notUnicode
  | _ => Checked.fault .notText

/-- A string with at least one code point. -/
def nonEmptyText (v : Value) : Checked Text :=
  match unicodeText v with
  | .ok [] => Checked.fault .tooShort
  | r => r

/-- One of the named choices. -/
def choice {α : Type} (names : List Text) (ofName? : Text → Option α) : Value → Checked α
  | .str s =>
    if s.encodable then
      match ofName? s with
      | some a => .ok a
      | none => Checked.fault (.notOneOf names)
    else Checked.fault .notUnicode
  | _ => Checked.fault (.notOneOf names)

/-- The spellings of yes. -/
def yesWords : List Text := ["1", "on", "t", "true", "y", "yes"]

/-- The spellings of no. -/
def noWords : List Text := ["0", "off", "f", "false", "n", "no"]

/-- A yes-or-no field. -/
def flag : Value → Checked Bool
  | .bool b => .ok b
  | .int n =>
    if n = 0 then .ok false
    else if n = 1 then .ok true
    else if fitsWord n then Checked.fault .unclearBool
    else Checked.fault .notBool
  | .real x =>
    if x.eqInt 0 then .ok false
    else if x.eqInt 1 then .ok true
    else match x.isIntegral, x.truncate? with
      | true, some n =>
        if -wordLimit < n ∧ n < wordLimit then Checked.fault .unclearBool else Checked.fault .notBool
      | _, _ => Checked.fault .notBool
  | .str s =>
    if !s.encodable then Checked.fault .notUnicode
    else if yesWords.contains (s.map CodePoint.asciiLower) then .ok true
    else if noWords.contains (s.map CodePoint.asciiLower) then .ok false
    else Checked.fault .unclearBool
  | _ => Checked.fault .notBool

/-! ### Whole numbers -/

/-- Plain digits without leading zeros, after an optional minus sign. -/
def plainWhole? (t : Text) : Option (Bool × Text) :=
  let signed : Bool × Text := match t with
    | c :: rest => if c = 45 then (true, rest) else (false, t)
    | [] => (false, [])
  match signed.2 with
  | [] => none
  | c :: rest =>
    if (c :: rest).all CodePoint.isDigit && (c != 48 || rest.isEmpty) then some signed else none

/-- The rest of a number after its leading zeros, among which underscores may stand. The code point
before is kept where the number ends, and before a point; a minus sign may follow the zeros. -/
def afterZeros (before : CodePoint) : Text → Option Text
  | [] => some [before]
  | c :: rest =>
    if c = 48 ∨ c = 95 then afterZeros c rest
    else if c = 46 then some (before :: c :: rest)
    else if c = 45 ∨ 49 ≤ c.val ∧ c.val ≤ 57 then some (c :: rest)
    else none

/-- A number without its leading zeros; anything that begins otherwise is refused. -/
def dropZeros : Text → Option Text
  | [] => none
  | c :: rest =>
    if c = 48 then afterZeros 48 rest
    else if c = 45 ∨ 49 ≤ c.val ∧ c.val ≤ 57 then some (c :: rest)
    else none

/-- A number without a fraction of one or more zeros. -/
def dropFraction (t : Text) : Text :=
  match Text.cut 46 t with
  | (whole, some (c :: fraction)) => if (c :: fraction).all (· == 48) then whole else t
  | _ => t

/-- A number without its grouping underscores, unless they are misplaced. -/
def dropGrouping (t : Text) : Text :=
  (Typed.ungroup? t).getD t

/-- The usual liberties with a typed number removed: blanks around it, a plus sign, leading zeros, a
fraction of zeros, grouping. A minus sign stays in front. -/
def tidy? (t : Text) : Option Text :=
  let t := Text.stripWhile CodePoint.isSpace t
  let t := match t with
    | 43 :: rest => if rest.head? = some 45 then t else rest
    | _ => t
  match t with
  | 45 :: rest => (dropZeros rest).map fun t => 45 :: dropGrouping (dropFraction t)
  | _ => (dropZeros t).map fun t => dropGrouping (dropFraction t)

/-- The most digits that a typed whole number may have. -/
def maxDigits : Nat := 4300

/-- More digits in front, zeros apart, than a typed whole number may have. -/
def isOversized (t : Text) : Bool :=
  let digits := if t.head? = some 45 then t.tail else t
  digits.head? != some 48 && decide (maxDigits < (digits.takeWhile CodePoint.isDigit).length)

/-- The number that digits with an optional minus sign write. -/
def ofDigits (signed : Bool × Text) : Int :=
  let n : Int := Text.digitsValue signed.2
  if signed.1 then -n else n

/-- A whole number that was typed as text. -/
def typedWhole (s : Text) : Checked Int :=
  if isOversized s then Checked.fault .tooLarge
  else match plainWhole? s with
  | some signed => .ok (ofDigits signed)
  | none =>
    match tidy? s with
    | none => Checked.fault .unclearWhole
    | some t =>
      if isOversized t then Checked.fault .tooLarge
      else match plainWhole? t with
      | some signed => .ok (ofDigits signed)
      | none => Checked.fault .unclearWhole

/-- A whole number. -/
def whole : Value → Checked Int
  | .int n => .ok n
  | .bool b => .ok (if b then 1 else 0)
  | .real x =>
    match x.isFinite, x.isIntegral, x.truncate? with
    | false, _, _ => Checked.fault .notFinite
    | true, true, some n =>
      if -wordLimit < n ∧ n < wordLimit then .ok n else Checked.fault .tooLarge
    | true, _, _ => Checked.fault .fractional
  | .str s => if s.encodable then typedWhole s else Checked.fault .notUnicode
  | _ => Checked.fault .notWhole

end Intake.Schema
