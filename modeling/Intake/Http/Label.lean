import Intake.Http.LabelTable
import Intake.Text.Composition
import Intake.Text.Direction
import Intake.Text.Joining
import Intake.Text.Punycode
import Intake.Text.Script

/-!
# Labels of domain names

A domain name is a list of labels between full stops. A label is composed, neither begins nor ends with
a hyphen, has no two hyphens in the third and fourth place, and does not begin with a mark. It holds
code points that may stand anywhere and a few that fit only certain neighbours. A label with letters
written from right to left is written in that direction throughout. In ASCII a label that needs it is
written in Punycode behind the mark `xn--`.

    bücher.example  ⇄  xn--bcher-kva.example
-/

namespace Intake.Http

/-- Why a label is refused. -/
inductive LabelFault where
  | malformed
  | codePoint
  | context
  | direction
  deriving DecidableEq

namespace Label

/-! ### Code points that need a context -/

/-- The class of the marks that take the vowel from a letter. -/
def viramaClass : Nat := 9

/-- Passing over what joining passes over, the next code point satisfies `p`. -/
def nextJoins (p : CodePoint → Bool) (t : Text) : Bool :=
  ((t.dropWhile CodePoint.isTransparent).head?.map p).getD false

/-- An invisible joiner fits. Both kinds fit behind a mark that takes the vowel; the one that separates,
U+200C, also fits between letters that would join. Neither fits behind a code point that is not assigned.
What stands before comes last first. -/
def joinerFits (before : Text) (c : CodePoint) (after : Text) : Bool :=
  match before.head? with
  | some b =>
    b.combiningClass == viramaClass ||
      (decide (b.combiningClass ≠ 0) || b.isPrintable || b == 0x200C || b == 0x200D) &&
        c == 0x200C && nextJoins CodePoint.joinsLeft before && nextJoins CodePoint.joinsRight after
  | none => false

/-- Arabic digits of the first kind. -/
def isArabicDigit (c : CodePoint) : Bool := decide (0x660 ≤ c.val) && decide (c.val ≤ 0x669)

/-- Arabic digits of the second kind. -/
def isExtendedDigit (c : CodePoint) : Bool := decide (0x6F0 ≤ c.val) && decide (c.val ≤ 0x6F9)

/-- Whether a sign fits its neighbours and its label; none for a code point that is no such sign. A
middle dot stands between two letters `l`, a Greek numeral sign before Greek, Hebrew signs behind Hebrew,
a Katakana dot among Japanese, and digits of one Arabic kind without those of the other. -/
def fits? (label before : Text) (c : CodePoint) (after : Text) : Option Bool :=
  if c = 0xB7 then some (before.head? == some 108 && after.head? == some 108)
  else if c = 0x375 then some ((after.head?.map CodePoint.isGreek).getD false)
  else if c = 0x5F3 ∨ c = 0x5F4 then some ((before.head?.map CodePoint.isHebrew).getD false)
  else if c = 0x30FB then some (label.any fun d => d != 0x30FB && d.isJapanese)
  else if isArabicDigit c then some (!label.any isExtendedDigit)
  else if isExtendedDigit c then some (!label.any isArabicDigit)
  else none

/-- The first fault among the code points of a label of which `before` has been passed, last first. A
joiner that does not fit makes the label malformed. -/
def pointFault? (label before : Text) : Text → Option LabelFault
  | [] => none
  | c :: rest =>
    if isPlain c then pointFault? label (c :: before) rest
    else if c = 0x200C ∨ c = 0x200D then
      if joinerFits before c rest then pointFault? label (c :: before) rest else some .malformed
    else match fits? label before c rest with
      | some true => pointFault? label (c :: before) rest
      | some false => some .context
      | none => some .codePoint

/-! ### Direction -/

/-- The directions of all code points, if all are known. -/
def directions? : Text → Option (List Direction)
  | [] => some []
  | c :: rest =>
    match c.direction?, directions? rest with
    | some d, some ds => some (d :: ds)
    | _, _ => none

/-- A label with something written from right to left begins with such a letter and holds none of the
other direction. Marks apart it ends with a letter or a number, and its numbers are of one kind. -/
def runsOneWay (ds : List Direction) : Bool :=
  if !ds.any fun d => d == .right || d == .arabicNumber then true
  else
    ds.head? == some .right && !ds.contains .left &&
      !(ds.contains .europeanNumber && ds.contains .arabicNumber) &&
      ((ds.reverse.dropWhile (· == .mark)).head?.map fun d => d != .neutral).getD false

/-! ### Whole labels -/

/-- The most code points that a domain name may have, a full stop at its end included. -/
def maxDomain : Nat := 254

/-- The most code points of a label in ASCII. -/
def maxLabel : Nat := 63

/-- The first fault of a label. -/
def fault? (t : Text) : Option LabelFault :=
  if t.isEmpty || decide (maxDomain < t.length) || !t.isComposed then some .malformed
  else if (t.drop 2).take 2 == ("--" : Text) || t.head? == some 45 || t.getLast? == some 45 then
    some .malformed
  else if (t.head?.map CodePoint.isMark).getD false then some .malformed
  else match pointFault? t [] t with
    | some f => some f
    | none => if ((directions? t).map runsOneWay).getD false then none else some .direction

/-- What announces a label in Punycode. -/
def mark : Text := "xn--"

/-- The first fault of a label in ASCII: what is written in Punycode is judged as what it stands for. -/
def asciiFault? (t : Text) : Option LabelFault :=
  let t := t.map CodePoint.asciiLower
  if mark.isPrefixOf t then
    let code := t.drop mark.length
    if code.isEmpty || code.getLast? == some 45 then some .malformed
    else match Punycode.decode? code with
      | some label => fault? label
      | none => some .malformed
  else fault? t

/-- A label in ASCII. -/
def toAscii? (t : Text) : Option Text :=
  if t.all fun c => decide (c.val < 128) then
    if (asciiFault? t).isNone && decide (t.length ≤ maxLabel) then some t else none
  else
    let code := mark ++ Punycode.encode t
    if (fault? t).isNone && decide (code.length ≤ maxLabel) then some code else none

/-- All labels in ASCII. -/
def allToAscii? : List Text → Option (List Text)
  | [] => some []
  | l :: ls =>
    match toAscii? l, allToAscii? ls with
    | some a, some as => some (a :: as)
    | _, _ => none

end Label

namespace Domain

/-- The labels of a domain name; a full stop at its end ends the last label. -/
def labels (t : Text) : List Text :=
  let parts := Text.pieces 46 t
  if parts.getLast? == some [] then parts.dropLast else parts

/-- The dots of all scripts as full stops. -/
def plainDots (t : Text) : Text :=
  t.map fun c => if c = 0x3002 ∨ c = 0xFF0E ∨ c = 0xFF61 then 46 else c

/-- A domain name in ASCII. -/
def toAscii? (t : Text) : Option Text :=
  let t := plainDots t
  if t.isEmpty || decide (Label.maxDomain < t.length) then none
  else match Label.allToAscii? (labels t) with
    | some ls =>
      let dot : Text := if t.getLast? == some 46 then [46] else []
      let name := Text.join [46] ls ++ dot
      if name.length < Label.maxDomain + dot.length then some name else none
    | none => none

/-- The first fault of a domain name in ASCII. -/
def asciiFault? (t : Text) : Option LabelFault :=
  if t.isEmpty || decide (Label.maxDomain < t.length) then some .malformed
  else (labels t).findSome? Label.asciiFault?

end Domain
end Intake.Http
