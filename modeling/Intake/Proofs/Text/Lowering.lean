import Intake.Text.Case
import Mathlib.Data.List.Basic

/-!
# Lower case inside a text

Lower case is found code point by code point, and only a capital sigma looks at its neighbours: at the end
of a word it becomes `ς`, elsewhere `σ`. So the lower-case form of a text is that of its parts, one after
the other, each with what stands around it. Around a part alone nothing stands, and this changes the
sigmas that end a word here but not there, and nothing else.

        ΑΣΒ ──▶ α σ β          the part ΑΣ reads ασ here
        ΑΣ  ──▶ α ς            and ας alone
-/

namespace Intake.Text

/-! ### Parts of a text -/

theorem occursIn_iff {part whole : Text} : part.occursIn whole = true ↔ part <:+: whole := by
  induction whole with
  | nil => cases part <;> simp [occursIn]
  | cons c rest ih =>
    rw [occursIn, Bool.or_eq_true, ih, List.isPrefixOf_iff_prefix, List.infix_cons_iff]

/-- Lower case of a part between what stands before it, last code point first, and what stands after. -/
def lowerWithin (before : Text) : Text → Text → Text
  | [], _ => []
  | c :: rest, after => lowerBetween before c (rest ++ after) ++ lowerWithin (c :: before) rest after

theorem lowerFrom_append (before part after : Text) : lowerFrom before (part ++ after) =
    lowerWithin before part after ++ lowerFrom (part.reverse ++ before) after := by
  induction part generalizing before with
  | nil => rfl
  | cons c rest ih =>
    rw [List.cons_append, lowerFrom, ih, lowerWithin, List.reverse_cons, List.append_assoc,
      List.append_assoc]
    rfl

theorem lower_eq_lowerWithin (part : Text) : part.lower = lowerWithin [] part [] := by
  have h := lowerFrom_append [] part []
  rwa [List.append_nil, lowerFrom, List.append_nil] at h

/-- The lower-case form of a part stands in that of the whole, as it reads between its neighbours. -/
theorem lowerWithin_infix (before part after : Text) :
    lowerWithin before.reverse part after <:+: (before ++ part ++ after).lower := by
  refine ⟨lowerWithin [] before (part ++ after), lowerFrom (part.reverse ++ before.reverse) after, ?_⟩
  rw [lower, List.append_assoc before, lowerFrom_append, lowerFrom_append, List.append_nil,
    List.append_assoc]

/-! ### Sigmas -/

/-- A capital sigma between these texts ends a word. -/
def endsWord (before after : Text) : Bool := casedNext before.reverse && !casedNext after

/-- Each capital sigma of the part ends a word in the part alone exactly when it does so between the two
texts around the part. -/
def SigmasKept (before part after : Text) : Prop :=
  ∀ x y : Text, part = x ++ 0x3A3 :: y → endsWord x y = endsWord (before ++ x) (y ++ after)

theorem sigmasKept_of_not_mem {part : Text} (h : (0x3A3 : CodePoint) ∉ part) (before after : Text) :
    SigmasKept before part after := by
  rintro x y rfl
  exact absurd (List.mem_append_right x List.mem_cons_self) h

theorem length_lowerBetween (before after before' after' : Text) (c : CodePoint) :
    (lowerBetween before c after).length = (lowerBetween before' c after').length := by
  unfold lowerBetween
  split
  · rfl
  · split <;> rfl

/-- Between other neighbours a code point reads differently only if it is a capital sigma that ends a word
there and not here, or here and not there. -/
theorem lowerBetween_eq_iff {before after before' after' : Text} {c : CodePoint} :
    lowerBetween before.reverse c after = lowerBetween before'.reverse c after' ↔
      (c = 0x3A3 → endsWord before after = endsWord before' after') := by
  by_cases hc : c = 0x3A3
  · rw [lowerBetween, lowerBetween, if_pos hc, if_pos hc]
    change [if endsWord before after then (0x3C2 : CodePoint) else 0x3C3] =
      [if endsWord before' after' then (0x3C2 : CodePoint) else 0x3C3] ↔ _
    cases endsWord before after <;> cases endsWord before' after' <;> simp [hc]
  · simp [lowerBetween, hc]

/-- Between other neighbours a part reads differently only by its capital sigmas. -/
theorem lowerWithin_eq_iff {before after before' after' part : Text} :
    lowerWithin before.reverse part after = lowerWithin before'.reverse part after' ↔
      ∀ x y : Text, part = x ++ 0x3A3 :: y →
        endsWord (before ++ x) (y ++ after) = endsWord (before' ++ x) (y ++ after') := by
  induction part generalizing before before' with
  | nil => simp [lowerWithin]
  | cons c rest ih =>
    have hstep := @ih (before ++ [c]) (before' ++ [c])
    simp only [List.reverse_append, List.reverse_singleton, List.singleton_append,
      List.append_assoc] at hstep
    have hlength := length_lowerBetween before.reverse (rest ++ after) before'.reverse (rest ++ after') c
    rw [lowerWithin, lowerWithin]
    constructor
    · intro heq x y hpart
      obtain ⟨hfirst, hrest⟩ := List.append_inj heq hlength
      rw [lowerBetween_eq_iff] at hfirst
      rw [hstep] at hrest
      rcases List.cons_eq_append_iff.1 hpart with ⟨rfl, hcons⟩ | ⟨x, rfl, hcons⟩
      · obtain ⟨rfl, rfl⟩ := List.cons.inj hcons
        simpa using hfirst rfl
      · exact hrest x y hcons
    · intro hall
      have hfirst : c = 0x3A3 → endsWord before (rest ++ after) = endsWord before' (rest ++ after') := by
        rintro rfl
        simpa using hall [] rest rfl
      have hrest : ∀ x y : Text, rest = x ++ 0x3A3 :: y →
          endsWord (before ++ c :: x) (y ++ after) = endsWord (before' ++ c :: x) (y ++ after') := by
        rintro x y rfl
        exact hall (c :: x) y rfl
      rw [lowerBetween_eq_iff.2 hfirst, hstep.2 hrest]

/-- A part reads between its neighbours as it does alone exactly when its sigmas are kept. -/
theorem lowerWithin_eq_lower_iff {before part after : Text} :
    lowerWithin before.reverse part after = part.lower ↔ SigmasKept before part after := by
  rw [lower_eq_lowerWithin, eq_comm]
  have h := @lowerWithin_eq_iff [] [] before after part
  simpa [SigmasKept] using h

/-! ### The two small sigmas -/

/-- A code point with the two small sigmas as one. -/
def oneSigma (c : CodePoint) : CodePoint := if c = 0x3C2 then 0x3C3 else c

theorem map_lowerBetween (before after before' after' : Text) (c : CodePoint) :
    (lowerBetween before c after).map oneSigma = (lowerBetween before' c after').map oneSigma := by
  unfold lowerBetween
  split
  · rw [List.map_singleton, List.map_singleton]
    have hsigma (b : Bool) : oneSigma (if b then 0x3C2 else 0x3C3) = 0x3C3 := by cases b <;> rfl
    rw [hsigma, hsigma]
  · rfl

/-- With the two small sigmas as one, neighbours do not matter. -/
theorem map_lowerWithin (before after before' after' part : Text) :
    (lowerWithin before part after).map oneSigma = (lowerWithin before' part after').map oneSigma := by
  induction part generalizing before before' with
  | nil => rfl
  | cons c rest ih =>
    rw [lowerWithin, lowerWithin, List.map_append, List.map_append,
      map_lowerBetween _ _ before' (rest ++ after') c, ih (c :: before) (c :: before')]

end Intake.Text
