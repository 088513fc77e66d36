import Intake.Json.Display
import Intake.Proofs.Store.Cell

/-!
# Displays that can be carried

A value is displayed in words, digits and marks, and with quoted texts. Inside quotes half of a code point
is hidden: it is an escape there. So what is displayed can be carried by every encoding, unless it is a text
that is displayed as itself.
-/

namespace Intake

/-- Halves of code points lie among what is hidden. -/
theorem CodePoint.isSurrogate_of_isPrintable {c : CodePoint} (h : c.isPrintable = true) :
    c.isSurrogate = false := by
  have hhidden : (0xD7FC, 0xF8FF) ∈ Text.hiddenRanges := by decide +kernel
  rw [isPrintable, Bool.not_eq_true', Text.inRanges, List.any_eq_false] at h
  have houtside := h _ hhidden
  simp only [Bool.and_eq_true, decide_eq_true_eq] at houtside
  simp only [isSurrogate, Bool.and_eq_false_iff, decide_eq_false_iff_not]
  omega

namespace Text

theorem encodable_cons (c : CodePoint) (t : Text) :
    encodable (c :: t) = (!c.isSurrogate && encodable t) := rfl

theorem encodable_hexDigits (n v : Nat) : (hexDigits n v).encodable = true := by
  have hdigit : ∀ d < 16, encodable [CodePoint.ofHexDigit d] = true := by decide
  induction n generalizing v with
  | zero => rfl
  | succ n ih =>
    rw [hexDigits, encodable_append, ih, hdigit _ (Nat.mod_lt v (by decide))]
    rfl

/-- Between marks that are whole, every code point can be carried. -/
theorem encodable_quoteOne {mark : CodePoint} (hmark : mark.isSurrogate = false) (c : CodePoint) :
    (quoteOne mark c).encodable = true := by
  unfold quoteOne
  split_ifs with hself _ _ _ hprintable
  · rcases hself with rfl | rfl
    · rw [encodable_cons, encodable_cons, hmark]
      rfl
    · rfl
  · rfl
  · rfl
  · rfl
  · rw [encodable_cons, CodePoint.isSurrogate_of_isPrintable hprintable]
    rfl
  all_goals
    rw [encodable_append, encodable_hexDigits]
    rfl

theorem encodable_quoted (t : Text) : t.quoted.encodable = true := by
  have hmark : (quoteMark t).isSurrogate = false := by
    unfold quoteMark
    split_ifs <;> rfl
  have hall : encodable (t.flatMap (quoteOne (quoteMark t))) = true := by
    rw [encodable, List.all_flatMap, List.all_eq_true]
    exact fun c _ => encodable_quoteOne hmark c
  rw [quoted, encodable_cons, encodable_append, encodable_cons, hmark, hall]
  rfl

end Text

theorem Binary64.encodable_render (x : Binary64) : x.render.encodable = true := by
  cases x with
  | nan => rfl
  | infinite negative => cases negative <;> rfl
  | negZero => rfl
  | finite d =>
    cases d with
    | zero => rfl
    | ofOdd n k h =>
      rw [render, renderWith, Text.encodable_append, Decimal.encodable_render, Bool.and_true]
      split <;> rfl

namespace Value

mutual
/-- As part of a larger value, every value can be carried. -/
theorem encodable_inspect : ∀ v : Value, (inspect v).encodable = true
  | .null => rfl
  | .bool true => rfl
  | .bool false => rfl
  | .int n => Text.encodable_ofInt n
  | .real x => x.encodable_render
  | .str s => s.encodable_quoted
  | .arr items => by
    rw [inspect, Text.encodable_cons, Text.encodable_append, encodable_inspectItems items]
    rfl
  | .obj ms => by
    rw [inspect, Text.encodable_cons, Text.encodable_append, encodable_inspectMembers ms]
    rfl
theorem encodable_inspectItems : ∀ vs : List Value, (inspectItems vs).encodable = true
  | [] => rfl
  | [v] => encodable_inspect v
  | v :: w :: vs => by
    rw [inspectItems, Text.encodable_append, Text.encodable_append, encodable_inspect v,
      encodable_inspectItems (w :: vs)]
    rfl
theorem encodable_inspectMembers : ∀ ms : List (Text × Value), (inspectMembers ms).encodable = true
  | [] => rfl
  | [(k, v)] => by
    rw [inspectMembers, Text.encodable_append, Text.encodable_append, k.encodable_quoted,
      encodable_inspect v]
    rfl
  | (k, v) :: e :: rest => by
    rw [inspectMembers, Text.encodable_append, Text.encodable_append, Text.encodable_append,
      Text.encodable_append, k.encodable_quoted, encodable_inspect v, encodable_inspectMembers (e :: rest)]
    rfl
end

/-- A text is displayed as itself, and what any other value is displayed as can be carried. -/
theorem encodable_display {v : Value} (h : v.allText Text.encodable = true) :
    v.display.encodable = true := by
  cases v with
  | str s => exact h
  | _ => exact encodable_inspect _

end Value
end Intake
