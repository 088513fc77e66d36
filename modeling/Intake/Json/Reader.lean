import Intake.Json.Value
import Intake.Text.Units

/-!
# Reading JSON

A recursive descent over the list of code points. Every function returns what it read and what is
left, and recursion is on a supply of steps that the length of the text pays for, so the reader is
total and never runs dry on a text of its own length. Beyond the standard grammar it knows the names
`NaN`, `Infinity` and `-Infinity`. A number with a fraction or an exponent is a floating-point number
and any other one a whole number of any size; a repeated key keeps its first place and its last value.

Neither the digits of a whole number nor the depth of nesting are bounded. An interpreter may refuse a number
of very many digits and a value nested very deeply; such bounds are no part of this.
-/

namespace Intake.Json

/-- The blanks that may stand between tokens. -/
def isSpace (c : CodePoint) : Bool := c == 32 || c == 9 || c == 10 || c == 13

/-- The text from the first code point that is no blank. -/
def skip (t : Text) : Text := t.dropWhile isSpace

/-- A piece of a string: a code point as it stands, or an escaped sixteen-bit unit. -/
inductive Piece where
  | plain (c : CodePoint)
  | unit (u : Nat)

/-- The code point that a one-letter escape names. -/
def simpleEscape? (c : CodePoint) : Option CodePoint :=
  if c = 34 ∨ c = 92 ∨ c = 47 then some c
  else if c = 98 then some 8
  else if c = 102 then some 12
  else if c = 110 then some 10
  else if c = 114 then some 13
  else if c = 116 then some 9
  else none

/-- The value of four hexadecimal digits. -/
def hexUnit? (a b c d : CodePoint) : Option Nat :=
  match a.hexValue?, b.hexValue?, c.hexValue?, d.hexValue? with
  | some a, some b, some c, some d => some (((a * 16 + b) * 16 + c) * 16 + d)
  | _, _, _, _ => none

/-- Puts a piece before what was read after it. -/
def consPiece (p : Piece) (r : Option (List Piece × Text)) : Option (List Piece × Text) :=
  r.map fun (ps, rest) => (p :: ps, rest)

/-- The pieces of a string up to its closing quote, which is passed. -/
def readPieces : Text → Option (List Piece × Text)
  | [] => none
  | c :: rest =>
    if c = 34 then some ([], rest)
    else if c = 92 then
      match rest with
      | [] => none
      | e :: rest =>
        if e = 117 then
          match rest with
          | w :: x :: y :: z :: rest =>
            match hexUnit? w x y z with
            | some u => consPiece (.unit u) (readPieces rest)
            | none => none
          | _ => none
        else match simpleEscape? e with
          | some d => consPiece (.plain d) (readPieces rest)
          | none => none
    else if c.val < 0x20 then none
    else consPiece (.plain c) (readPieces rest)

/-- The text of the pieces: an escaped high half right before an escaped low half is one code
point; `high` is an escaped high half that waits. -/
def ofPieces : Option Nat → List Piece → Text
  | none, [] => []
  | some h, [] => [CodePoint.ofNat h]
  | none, .plain c :: rest => c :: ofPieces none rest
  | none, .unit u :: rest =>
    if Units.isHigh u then ofPieces (some u) rest else CodePoint.ofNat u :: ofPieces none rest
  | some h, .plain c :: rest => CodePoint.ofNat h :: c :: ofPieces none rest
  | some h, .unit u :: rest =>
    if Units.isLow u then Units.paired h u :: ofPieces none rest
    else CodePoint.ofNat h ::
      (if Units.isHigh u then ofPieces (some u) rest else CodePoint.ofNat u :: ofPieces none rest)

/-- A string after its opening quote. -/
def readText (t : Text) : Option (Text × Text) :=
  (readPieces t).map fun (ps, rest) => (ofPieces none ps, rest)

/-- The decimal digits at the front, and the rest. -/
def spanDigits (t : Text) : Text × Text :=
  (t.takeWhile CodePoint.isDigit, t.dropWhile CodePoint.isDigit)

/-- The digits after a decimal point; a point without digits is not part of the number. -/
def readFraction (t : Text) : Option (Text × Text) :=
  match t with
  | c :: rest =>
    if c = 46 ∧ (spanDigits rest).1 ≠ [] then some (spanDigits rest) else none
  | [] => none

/-- A signed exponent; an `e` without digits is not part of the number. -/
def readExponent (t : Text) : Option (Int × Text) :=
  match t with
  | c :: rest =>
    if c = 101 ∨ c = 69 then
      let signed := match rest with
        | s :: more => if s = 45 then (true, more) else if s = 43 then (false, more) else (false, rest)
        | [] => (false, rest)
      let digits := spanDigits signed.2
      if digits.1 = [] then none
      else
        let n : Int := Text.digitsValue digits.1
        some (if signed.1 then -n else n, digits.2)
    else none
  | [] => none

/-- A number from its first digit on. Only a lone zero may begin with zero. -/
def readMagnitude (negative : Bool) (t : Text) : Option (Value × Text) :=
  let whole := match t with
    | c :: rest => if c = 48 then ([c], rest) else spanDigits t
    | [] => ([], [])
  if whole.1 = [] then none
  else
    let fraction := readFraction whole.2
    let afterFraction := (fraction.map (·.2)).getD whole.2
    let exponent := readExponent afterFraction
    let rest := (exponent.map (·.2)).getD afterFraction
    match fraction, exponent with
    | none, none =>
      let n : Int := Text.digitsValue whole.1
      some (.int (if negative then -n else n), rest)
    | _, _ =>
      let places := (fraction.map (·.1)).getD []
      some (.real (Binary64.ofDecimal negative (Text.digitsValue (whole.1 ++ places))
        (((exponent.map (·.1)).getD 0) - places.length)), rest)

/-- What follows a word, if the text starts with it. -/
def afterWord (word : Text) (t : Text) : Option Text :=
  if word.isPrefixOf t then some (t.drop word.length) else none

/-- A value that is neither a string nor a container. -/
def readScalar (t : Text) : Option (Value × Text) :=
  match afterWord "null" t with
  | some rest => some (.null, rest)
  | none =>
  match afterWord "true" t with
  | some rest => some (.bool true, rest)
  | none =>
  match afterWord "false" t with
  | some rest => some (.bool false, rest)
  | none =>
  match afterWord "NaN" t with
  | some rest => some (.real .nan, rest)
  | none =>
  match afterWord "Infinity" t with
  | some rest => some (.real (.infinite false), rest)
  | none =>
  match afterWord "-Infinity" t with
  | some rest => some (.real (.infinite true), rest)
  | none =>
  match t with
  | c :: rest => if c = 45 then readMagnitude true rest else readMagnitude false t
  | [] => none

mutual
/-- A value at the front of the text. -/
def readValue : Nat → Text → Option (Value × Text)
  | 0, _ => none
  | _ + 1, [] => none
  | fuel + 1, c :: rest =>
    if c = 34 then (readText rest).map fun (s, rest) => (.str s, rest)
    else if c = 91 then
      match skip rest with
      | d :: more =>
        if d = 93 then some (.arr [], more)
        else (readItems fuel (d :: more)).map fun (vs, rest) => (.arr vs, rest)
      | [] => none
    else if c = 123 then
      match skip rest with
      | d :: more =>
        if d = 125 then some (.obj [], more)
        else (readMembers fuel (d :: more)).map fun (ms, rest) => (.obj (Members.ofPairs ms), rest)
      | [] => none
    else readScalar (c :: rest)
/-- The items of an array from the first one on, up to the closing bracket. -/
def readItems : Nat → Text → Option (List Value × Text)
  | 0, _ => none
  | fuel + 1, t =>
    match readValue fuel t with
    | none => none
    | some (v, rest) =>
      match skip rest with
      | c :: more =>
        if c = 44 then (readItems fuel (skip more)).map fun (vs, rest) => (v :: vs, rest)
        else if c = 93 then some ([v], more)
        else none
      | [] => none
/-- The members of an object from the first one on, up to the closing brace. -/
def readMembers : Nat → Text → Option (List (Text × Value) × Text)
  | 0, _ => none
  | _ + 1, [] => none
  | fuel + 1, q :: t =>
    if q = 34 then
      match readText t with
      | none => none
      | some (key, rest) =>
        match skip rest with
        | c :: more =>
          if c = 58 then
            match readValue fuel (skip more) with
            | none => none
            | some (v, rest) =>
              match skip rest with
              | c :: more =>
                if c = 44 then
                  (readMembers fuel (skip more)).map fun (ms, rest) => ((key, v) :: ms, rest)
                else if c = 125 then some ([(key, v)], more)
                else none
              | [] => none
          else none
        | [] => none
    else none
end

/-- The value that a whole text writes. -/
def read? (t : Text) : Option Value :=
  match readValue (2 * t.length + 2) (skip t) with
  | some (v, rest) => if skip rest = [] then some v else none
  | none => none

end Intake.Json
