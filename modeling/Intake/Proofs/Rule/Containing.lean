import Intake.Proofs.Rule.References
import Intake.Proofs.Text.Lowering

/-!
# Texts that contain a text

Whether an answer contains a text is asked of the lower-case forms of both. The lower-case form of what
stands in the answer is its form between its neighbours there, and that of the value is its form alone.
They can differ only in capital sigmas that end a word in the one and not in the other. So an occurrence
whose sigmas are kept is always found, and any other one is found as soon as both small sigmas count as one
letter.

        answer   ΟΔΟΣ ΑΣΒ ──▶ οδος ασβ
        value    ΟΔΟΣ     ──▶ οδος        found: the sigma ends a word in both
        value    ΑΣ       ──▶ ας          not found: in the answer no word ends here
-/

namespace Intake.Condition

section Containing

variable {condition : Value} {key part whole : Text} (hkey : subject? condition = some key)
  (hop : operator? condition = some .contains) (hvalue : value condition = .str part)
  {answers : Members} (hanswer : answers.get? key = some (.str whole)) (hwhole : whole ≠ [])

include hkey hop hvalue hanswer hwhole

/-- With a text as its value, such a condition looks for one lower-case form in another. -/
theorem evaluate_contains :
    evaluate condition (.obj answers) = .ok (part.lower.occursIn whole.lower) := by
  have hanswered : unanswered (some (.str whole)) = false := by
    cases whole with
    | nil => exact absurd rfl hwhole
    | cons c rest => rfl
  unfold evaluate holds
  simp only [hkey, hanswer, holdsFor, hop, hanswered, compare, hvalue, includes, Value.shown]
  rfl

/-- **An occurrence is found when its sigmas are kept.** A condition that asks whether an answer contains a
text holds when the text stands in the answer somewhere and each capital sigma of it ends a word in the
text alone exactly when it does so there; this is so of every text without a capital sigma. And wherever it
stands, its lower-case form is part of that of the answer when the two small sigmas count as one letter. -/
theorem occurrence_found_if_sigmas_kept {before after : Text} (hoccurs : before ++ part ++ after = whole) :
    (Text.SigmasKept before part after → evaluate condition (.obj answers) = .ok true) ∧
    ((0x3A3 : CodePoint) ∉ part → evaluate condition (.obj answers) = .ok true) ∧
    part.lower.map Text.oneSigma <:+: whole.lower.map Text.oneSigma := by
  have hinfix := Text.lowerWithin_infix before part after
  rw [hoccurs] at hinfix
  have hkept (h : Text.SigmasKept before part after) : evaluate condition (.obj answers) = .ok true := by
    rw [Text.lowerWithin_eq_lower_iff.2 h] at hinfix
    rw [evaluate_contains hkey hop hvalue hanswer hwhole, Text.occursIn_iff.2 hinfix]
  refine ⟨hkept, fun h => hkept (Text.sigmasKept_of_not_mem h before after), ?_⟩
  have hmap := hinfix.map Text.oneSigma
  rwa [Text.map_lowerWithin _ _ [] [], ← Text.lower_eq_lowerWithin] at hmap

end Containing

/-- A condition that looks for a word that ends with a sigma. -/
def seekingRoad : Value := written "a" "contains" (.ofString "ΟΔΟΣ")

/-- A text in which the word stands, and after it a sigma that ends no word. -/
def roadText : Text := "Η ΟΔΟΣ ΑΣΒ"

theorem occurrence_found_if_sigmas_kept_word :
    subject? seekingRoad = some (Text.ofString "a") ∧ operator? seekingRoad = some .contains ∧
    value seekingRoad = .str (Text.ofString "ΟΔΟΣ") ∧
    Members.get? [("a", .str roadText)] "a" = some (.str roadText) ∧ roadText ≠ [] ∧
    Text.ofString "Η " ++ Text.ofString "ΟΔΟΣ" ++ Text.ofString " ΑΣΒ" = roadText ∧
    Text.SigmasKept "Η " "ΟΔΟΣ" " ΑΣΒ" ∧
    evaluate seekingRoad (.obj [("a", .str roadText)]) = .ok true := by
  have hkey : subject? seekingRoad = some (Text.ofString "a") := rfl
  have hop : operator? seekingRoad = some .contains := by decide
  have hvalue : value seekingRoad = .str (Text.ofString "ΟΔΟΣ") := rfl
  have hanswer : Members.get? [("a", .str roadText)] "a" = some (.str roadText) := rfl
  have hwhole : roadText ≠ [] := by decide
  have hoccurs : Text.ofString "Η " ++ Text.ofString "ΟΔΟΣ" ++ Text.ofString " ΑΣΒ" = roadText := by
    decide
  have hkept : Text.SigmasKept "Η " "ΟΔΟΣ" " ΑΣΒ" := by
    rw [← Text.lowerWithin_eq_lower_iff]
    decide +kernel
  exact ⟨hkey, hop, hvalue, hanswer, hwhole, hoccurs, hkept,
    (occurrence_found_if_sigmas_kept hkey hop hvalue hanswer hwhole hoccurs).1 hkept⟩

/-- Not every occurrence is found: `ΑΣ` stands in `ΑΣΒ`, but `ας` does not stand in `ασβ`. -/
theorem occurrence_not_found :
    ¬ ∀ (condition : Value) (answers : Members) (key part whole : Text),
      subject? condition = some key → operator? condition = some .contains →
      value condition = .str part → answers.get? key = some (.str whole) → whole ≠ [] →
      part <:+: whole → evaluate condition (.obj answers) = .ok true := by
  intro hfound
  have htrue := hfound (written "a" "contains" (.ofString "ΑΣ")) [("a", .ofString "ΑΣΒ")] "a" "ΑΣ" "ΑΣΒ"
    rfl (by decide) rfl rfl (by decide) ⟨[], "Β", by decide⟩
  have hfalse : evaluate (written "a" "contains" (.ofString "ΑΣ")) (.obj [("a", .ofString "ΑΣΒ")]) =
      .ok false := by decide +kernel
  rw [hfalse] at htrue
  cases htrue

end Intake.Condition
