import Intake.Text.Basic

/-!
# Blank space

The white space that is trimmed from both ends of a title, of a setting and of a typed number:
the ASCII blanks with the four separators U+001C to U+001F, the next-line control, and every
Unicode space. Zero-width characters do not count.
-/

namespace Intake

/-- White space of any script. -/
def CodePoint.isBlank (c : CodePoint) : Bool :=
  decide (9 ≤ c.val) && decide (c.val ≤ 13) ||
  decide (0x1C ≤ c.val) && decide (c.val ≤ 0x20) ||
  c.val == 0x85 || c.val == 0xA0 || c.val == 0x1680 ||
  decide (0x2000 ≤ c.val) && decide (c.val ≤ 0x200A) ||
  c.val == 0x2028 || c.val == 0x2029 || c.val == 0x202F || c.val == 0x205F || c.val == 0x3000

/-- White space around a number that was typed by hand: the separators U+001C to U+001F do not
count. -/
def CodePoint.isSpace (c : CodePoint) : Bool :=
  c.isBlank && !(decide (0x1C ≤ c.val) && decide (c.val ≤ 0x1F))

namespace Text

/-- The text without white space at its ends. -/
def trim (t : Text) : Text := stripWhile CodePoint.isBlank t

/-- Nothing but white space. -/
def isBlank (t : Text) : Bool := t.all CodePoint.isBlank

/-- Everything is dropped exactly when everything satisfies the test. -/
theorem dropWhile_eq_nil_iff {p : CodePoint → Bool} {t : Text} :
    t.dropWhile p = [] ↔ ∀ c ∈ t, p c = true := by
  induction t with
  | nil => simp
  | cons c rest ih => by_cases h : p c = true <;> simp [h, ih]

/-- Trimming leaves nothing exactly when the text is blank. -/
theorem trim_eq_nil_iff {t : Text} : trim t = [] ↔ isBlank t = true := by
  simp only [trim, stripWhile, dropEndWhile, List.reverse_eq_nil_iff, dropWhile_eq_nil_iff,
    List.mem_reverse, isBlank, List.all_eq_true]
  constructor
  · intro h
    have hnil : t.dropWhile CodePoint.isBlank = [] := by
      cases hd : t.dropWhile CodePoint.isBlank with
      | nil => rfl
      | cons c rest =>
        have hc := List.head?_dropWhile_not CodePoint.isBlank t
        rw [hd] at hc h
        have := h c (by simp)
        simp [this] at hc
    exact dropWhile_eq_nil_iff.1 hnil
  · intro h c hc
    exact h c ((List.dropWhile_suffix _).subset hc)

end Text
end Intake
