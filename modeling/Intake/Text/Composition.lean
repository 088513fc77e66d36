import Intake.Text.CompositionTable

/-!
# Canonical composition

Some code points stand for a letter with a mark, and the same letter can be written as two code points.
A text is composed when it is taken apart as far as possible, its marks are put into the order of their
classes, and every letter is joined again with the marks that one code point can hold. Texts that look
the same have the same composed form.
-/

namespace Intake

namespace Text

/-- What a table of runs says about a code point. -/
def entry? {α : Type} (runs : List (Nat × List α)) (c : Nat) : Option α :=
  match runs.find? fun r => decide (r.1 ≤ c) && decide (c < r.1 + r.2.length) with
  | some r => r.2[c - r.1]?
  | none => none

end Text

namespace CodePoint

/-- The combining class: zero for letters, and for marks the place where they attach. -/
def combiningClass (c : CodePoint) : Nat :=
  ((Text.combiningRanges.find? fun r => decide (r.1 ≤ c.val) && decide (c.val ≤ r.2.1)).map
    (·.2.2)).getD 0

/-- A syllable of Hangul. -/
def isHangul (c : CodePoint) : Bool := decide (0xAC00 ≤ c.val) && decide (c.val ≤ 0xD7A3)

/-- The pair that a syllable of Hangul stands for: two letters, or a syllable and a final letter. There
are 28 syllables for each two letters, the first of them without a final one. -/
def hangulPair (c : CodePoint) : CodePoint × CodePoint :=
  let n := c.val - 0xAC00
  if n % 28 = 0 then (ofNat (0x1100 + n / 588), ofNat (0x1161 + n % 588 / 28))
  else (ofNat (c.val - n % 28), ofNat (0x11A7 + n % 28))

/-- The syllable of Hangul that two letters, or a syllable and a final letter, make. -/
def hangulOf? (a b : CodePoint) : Option CodePoint :=
  if 0x1100 ≤ a.val ∧ a.val ≤ 0x1112 ∧ 0x1161 ≤ b.val ∧ b.val ≤ 0x1175 then
    some (ofNat (0xAC00 + ((a.val - 0x1100) * 21 + (b.val - 0x1161)) * 28))
  else if a.isHangul ∧ (a.val - 0xAC00) % 28 = 0 ∧ 0x11A8 ≤ b.val ∧ b.val ≤ 0x11C2 then
    some (ofNat (a.val + (b.val - 0x11A7)))
  else none

/-- The pair that a code point stands for. -/
def pair? (c : CodePoint) : Option (CodePoint × CodePoint) :=
  if c.isHangul then some c.hangulPair
  else (Text.entry? Text.pairRuns c.val).map fun p => (ofNat p.1, ofNat p.2)

/-- The other code point that a code point merely stands for. -/
def single? (c : CodePoint) : Option CodePoint := (Text.entry? Text.singleRuns c.val).map ofNat

/-- Takes a code point apart, in so many steps at most. The second of a pair stands for itself. -/
def takeApart : Nat → CodePoint → Text
  | 0, c => [c]
  | n + 1, c =>
    match c.single?, c.pair? with
    | some d, _ => takeApart n d
    | none, some (a, b) => takeApart n a ++ [b]
    | none, none => [c]

/-- The code point that stands for a pair in a composed text. -/
def composite? (a b : CodePoint) : Option CodePoint :=
  match hangulOf? a b with
  | some c => some c
  | none =>
    (Text.pairRuns.findSome? fun r =>
      (r.2.findIdx? fun p => p.1 == a.val && p.2 == b.val).map fun i => ofNat (r.1 + i)).filter
      fun c => !Text.inRanges Text.uncomposedRanges c

end CodePoint

namespace Text

/-- Every code point taken apart; no code point needs more than three steps. -/
def takenApart (t : Text) : Text := t.flatMap (CodePoint.takeApart 4)

/-- Puts a code point in front of a text, behind the marks at its front that have a lower class. -/
def settle (c : CodePoint) : Text → Text
  | [] => [c]
  | d :: rest =>
    if 0 < d.combiningClass ∧ d.combiningClass < c.combiningClass then d :: settle c rest
    else c :: d :: rest

/-- The marks behind each letter in the order of their classes; marks of one class keep their order. -/
def settled (t : Text) : Text := t.foldr settle []

/-- Joins what follows a letter with it. `marks` are those behind the letter that could not be joined;
a further mark is blocked by them unless its class is higher than that of the last. -/
def joinMarks (letter : CodePoint) (marks : Text) : Text → Text
  | [] => letter :: marks
  | c :: rest =>
    let blocked := match marks.getLast? with
      | some m => decide (c.combiningClass ≤ m.combiningClass)
      | none => false
    match if blocked then none else CodePoint.composite? letter c with
    | some d => joinMarks d marks rest
    | none =>
      if c.combiningClass = 0 then letter :: (marks ++ joinMarks c [] rest)
      else joinMarks letter (marks ++ [c]) rest

/-- Marks without a letter stay as they are; from the first letter on the marks are joined. -/
def joinFrom : Text → Text
  | [] => []
  | c :: rest => if c.combiningClass = 0 then joinMarks c [] rest else c :: joinFrom rest

/-- The composed form of a text. -/
def composed (t : Text) : Text := joinFrom (settled (takenApart t))

/-- The text is its own composed form. -/
def isComposed (t : Text) : Bool := composed t == t

end Text
end Intake
