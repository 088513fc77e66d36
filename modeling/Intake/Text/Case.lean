import Intake.Text.CaseTable

/-!
# Case maps

Lower and upper case of a whole text. Both work code point by code point, except that a capital
sigma looks at its neighbours: it is written `ς` where it ends a word, that is, where some cased
letter stands before it and none after it, passing over the code points that casing ignores. Because
of that rule a part of a text need not be lower-cased as it is inside the whole.
-/

namespace Intake.Text

/-- The other case of a code point by a table of runs. -/
def shifted (runs : List CaseRun) (c : CodePoint) : CodePoint :=
  match runs.find? (·.covers c.val) with
  | some r => CodePoint.ofNat ((c.val : Int) + r.shift).toNat
  | none => c

/-- Cased letters, as the sigma rule counts them. -/
def isCased (c : CodePoint) : Bool := inRanges casedRanges c

/-- Code points that the sigma rule passes over. -/
def isCaseIgnorable (c : CodePoint) : Bool := inRanges ignorableRanges c

/-- The first code point that is not passed over is a cased letter. -/
def casedNext (t : Text) : Bool := ((t.dropWhile isCaseIgnorable).head?.map isCased).getD false

/-- Lower case of one code point between its neighbours; what stands before comes last first. -/
def lowerBetween (before : Text) (c : CodePoint) (after : Text) : Text :=
  if c = 0x3A3 then [if casedNext before && !casedNext after then 0x3C2 else 0x3C3]
  else if c = 0x130 then [0x69, 0x307]
  else [shifted lowerRuns c]

/-- Lower case of a text of which `before` has been passed already, last code point first. -/
def lowerFrom (before : Text) : Text → Text
  | [] => []
  | c :: rest => lowerBetween before c rest ++ lowerFrom (c :: before) rest

/-- The text in lower case. -/
def lower (t : Text) : Text := lowerFrom [] t

/-- Upper case of one code point. -/
def upperOne (c : CodePoint) : Text :=
  match upperExpansions.find? (·.1 == c.val) with
  | some e => e.2.map CodePoint.ofNat
  | none => [shifted upperRuns c]

/-- The text in upper case. -/
def upper (t : Text) : Text := t.flatMap upperOne

end Intake.Text
