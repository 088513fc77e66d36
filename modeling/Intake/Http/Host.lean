import Intake.Http.Label
import Intake.Text.Case
import Intake.Text.Percent

/-!
# Hosts

A host is an address of four numbers, an address in brackets, or a name. What looks like an address must
be one; only full stops divide its numbers, so `1234567` and `1_2_3_4` are names. A name is written in lower
case; one that is not ASCII is a domain name and is written in ASCII.
-/

namespace Intake.Http.Host

/-! ### Addresses of four numbers -/

/-- The host looks like an address of four numbers: four runs of digits between full stops. -/
def looksLikeFour (t : Text) : Bool :=
  let parts := Text.pieces 46 t
  parts.length == 4 && parts.all fun p => !p.isEmpty && p.all CodePoint.isDigit

/-- A number below 256 without leading zeros. -/
def isSmall (t : Text) : Bool :=
  !t.isEmpty && t.all CodePoint.isDigit && decide (t.length ≤ 3) &&
    (t.head? != some 48 || t.length == 1) && decide (Text.digitsValue t < 256)

/-- An address of four numbers. -/
def isFour (t : Text) : Bool :=
  let parts := Text.pieces 46 t
  parts.length == 4 && parts.all isSmall

/-! ### Addresses in brackets -/

/-- One to four hexadecimal digits. -/
def isGroup (t : Text) : Bool :=
  !t.isEmpty && decide (t.length ≤ 4) && t.all fun c => c.hexValue?.isSome

/-- The groups of an address, where four numbers at the end count as two groups. -/
def groups? (t : Text) : Option (List Text) :=
  let parts := Text.pieces 58 t
  match parts.getLast? with
  | some last =>
    if last.contains 46 then (if isFour last then some (parts.dropLast ++ [[48], [48]]) else none)
    else some parts
  | none => none

/-- The groups before the first gap inside, and those after it. -/
def atGap : List Text → Option (List Text × List Text)
  | [] => none
  | g :: gs =>
    if g.isEmpty then some ([], gs)
    else match atGap gs with
      | some (before, after) => some (g :: before, after)
      | none => none

/-- Eight groups, or fewer with one gap `::` that stands for those that are missing. -/
def isEight (t : Text) : Bool :=
  match groups? t with
  | none => false
  | some parts =>
    if parts.length < 3 || 9 < parts.length then false
    else
      let inner := parts.tail.dropLast
      match inner.filter List.isEmpty with
      | [] => parts.length == 8 && parts.all isGroup
      | [_] =>
        let first := parts.head?.getD []
        let last := parts.getLast?.getD []
        match atGap inner with
        | none => false
        | some (before, after) =>
          let front := if first.isEmpty then before else first :: before
          let back := if last.isEmpty then after else after ++ [last]
          (!first.isEmpty || before.isEmpty) && (!last.isEmpty || after.isEmpty) &&
            decide (front.length + back.length ≤ 7) && front.all isGroup && back.all isGroup
      | _ => false

/-- An address, perhaps with a zone after a percent sign. -/
def isBracketed (t : Text) : Bool :=
  match Text.cut 37 t with
  | (a, none) => isEight a
  | (a, some zone) => isEight a && !zone.isEmpty && !zone.contains 37

/-! ### Names -/

/-- Code points that may stand in a name. -/
def isSafe (c : CodePoint) : Bool :=
  decide (0x21 ≤ c.val) && decide (c.val ≤ 0x7E) &&
    !([0x23, 0x2F, 0x3A, 0x3C, 0x3E, 0x3F, 0x40, 0x5B, 0x5D, 0x5E] : List CodePoint).contains c

/-- A host as it is written in a URL, without brackets. -/
def read? (t : Text) : Option Text :=
  if t.isEmpty then some []
  else if looksLikeFour t then (if isFour t then some t else none)
  else if t.head? == some 91 && t.getLast? == some 93 then
    (if isBracketed t.tail.dropLast then some t.tail.dropLast else none)
  else if t.all fun c => decide (c.val < 128) then some (Percent.escape isSafe t.lower)
  else Domain.toAscii? t.lower

/-- The fault of a host that claims to hold a label in Punycode at its front. -/
def fault? (host : Text) : Option LabelFault :=
  if Label.mark.isPrefixOf host then Domain.asciiFault? host else none

end Intake.Http.Host
