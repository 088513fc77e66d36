import Intake.Number.Typed
import Intake.Proofs.Text.Digits
import Intake.Proofs.Text.Ends

/-!
# Whole numbers that were typed as they are written

The digits of an integer, behind a minus sign if it is negative, hold no white space, no underscores and no
digits of other scripts. So they are read as that integer.
-/

namespace Intake.Typed

/-- What a written integer is made of. -/
def isFigure (c : CodePoint) : Bool := c.isDigit || c == 45

theorem isFigure_of_mem_ofInt {n : Int} {c : CodePoint} (h : c ∈ Text.ofInt n) : isFigure c = true := by
  have hdigits : ∀ k : Nat, c ∈ Text.ofNat k → isFigure c = true := fun k hc => by
    rw [isFigure, List.all_eq_true.1 (Text.all_isDigit_ofNat k) c hc, Bool.true_or]
  cases n with
  | ofNat k => exact hdigits k h
  | negSucc k =>
    rcases List.mem_append.1 h with h | h
    · rw [List.mem_singleton.1 (show c ∈ [(45 : CodePoint)] from h)]
      rfl
    · exact hdigits _ h

/-- The only decimal digits before U+0660 are those of ASCII. -/
theorem decimalValue?_eq_none {c : CodePoint} (hlow : c.val < 0x660) (h : c.isDigit = false) :
    c.decimalValue? = none := by
  have hblocks : ∀ r ∈ Text.digitBlocks, r = (0x30, 0x39) ∨ 0x660 ≤ r.1 := by decide
  rw [CodePoint.decimalValue?, Option.map_eq_none_iff, List.find?_eq_none]
  intro r hr
  rcases hblocks r hr with rfl | hfar
  · exact Bool.eq_false_iff.1 h
  · rw [Bool.and_eq_true, decide_eq_true_iff, decide_eq_true_iff]
    omega

/-- An ASCII digit is the digit of its value. -/
theorem ofDigit_decimalValue? {c : CodePoint} (h : c.isDigit = true) :
    c.decimalValue?.map CodePoint.ofDigit = some c := by
  have hfirst : Text.digitBlocks.find? (fun r => decide (r.1 ≤ c.val) && decide (c.val ≤ r.2)) =
      some (0x30, 0x39) := List.find?_cons_of_pos h
  rw [CodePoint.isDigit, Bool.and_eq_true, decide_eq_true_iff, decide_eq_true_iff] at h
  rw [CodePoint.decimalValue?, hfirst, Option.map_some, Option.map_some, Option.some.injEq]
  refine Fin.ext ((CodePoint.val_ofDigit (Nat.mod_lt _ (by decide))).trans ?_)
  change 48 + (c.val - 48) % 10 = c.val
  omega

/-- Code points before U+0660 that are no white space stand for themselves. -/
theorem plain_eq_self {t : Text} (h : ∀ c ∈ t, c.isSpace = false ∧ c.val < 0x660) : plain t = t := by
  have hself : ∀ c ∈ t, ((c.decimalValue?.map CodePoint.ofDigit).getD c) = c := by
    intro c hc
    cases hdigit : c.isDigit with
    | true => rw [ofDigit_decimalValue? hdigit, Option.getD_some]
    | false => rw [decimalValue?_eq_none (h c hc).2 hdigit]; rfl
  rw [plain, Text.stripWhile_of_forall fun c hc => (h c hc).1]
  exact (List.map_congr_left hself).trans (List.map_id t)

/-- Figures stand for themselves. -/
theorem plain_of_figures {t : Text} (h : ∀ c ∈ t, isFigure c = true) : plain t = t := by
  refine plain_eq_self fun c hc => ?_
  have hfigure := h c hc
  simp only [isFigure, CodePoint.isDigit, Bool.or_eq_true, Bool.and_eq_true, decide_eq_true_eq,
    beq_iff_eq] at hfigure
  rcases hfigure with hdigit | rfl
  · simp only [CodePoint.isSpace, CodePoint.isBlank, Bool.and_eq_false_iff, Bool.or_eq_false_iff,
      decide_eq_false_iff_not, beq_eq_false_iff_ne]
    omega
  · decide

/-- Digits are all there is in a run of digits. -/
theorem digits?_of_digits {t : Text} (h : t.all CodePoint.isDigit = true) : digits? t = some t := by
  have hne : ∀ c ∈ t, c ≠ 95 := by
    rintro c hc rfl
    exact absurd (List.all_eq_true.1 h 95 hc) (by decide)
  have hhead : t.head? ≠ some 95 := fun hhead => hne 95 (List.mem_of_head? hhead) rfl
  have hgrouped : groupedWell t = true := by
    clear h hhead
    fun_induction groupedWell t with
    | case1 => rfl
    | case2 c => simp [hne c List.mem_cons_self]
    | case3 c d rest ih =>
      simp [hne c List.mem_cons_self, ih fun e he => hne e (List.mem_cons_of_mem _ he)]
  have hfilter : t.filter (· != 95) = t := List.filter_eq_self.2 fun c hc => by simp [hne c hc]
  rw [digits?, ungroup?, if_pos ⟨hhead, hgrouped⟩, hfilter, Option.bind_some, if_pos h]

/-- Digits have no sign. -/
theorem signed_of_digits {t : Text} (h : t.all CodePoint.isDigit = true) : signed t = (false, t) := by
  cases t with
  | nil => rfl
  | cons c rest =>
    have hdigit : c.isDigit = true := List.all_eq_true.1 h c List.mem_cons_self
    have hminus : c ≠ 45 := by
      rintro rfl
      exact absurd hdigit (by decide)
    have hplus : c ≠ 43 := by
      rintro rfl
      exact absurd hdigit (by decide)
    rw [signed, if_neg hminus, if_neg hplus]

/-- What is read of a sign and the digits of a number. -/
theorem whole?_of_signed {t : Text} {negative : Bool} {k : Nat}
    (h : signed (plain t) = (negative, Text.ofNat k)) :
    whole? t = some (if negative then -(k : Int) else k) := by
  have hread := digits?_of_digits (Text.all_isDigit_ofNat k)
  have hvalue := Text.digitsValue_ofNat k
  rw [whole?, h]
  simp only [hread]
  cases hk : Text.ofNat k with
  | nil => exact absurd hk (Text.ofNat_ne_nil k)
  | cons d ds =>
    rw [hk] at hvalue
    simp only [hvalue]

/-- **Reading what was written.** A written integer is read as itself. -/
theorem whole?_ofInt (n : Int) : whole? (Text.ofInt n) = some n := by
  have hplain : plain (Text.ofInt n) = Text.ofInt n := plain_of_figures fun c => isFigure_of_mem_ofInt
  cases n with
  | ofNat k =>
    have hsigned : signed (plain (Text.ofInt (.ofNat k))) = (false, Text.ofNat k) := by
      rw [hplain]
      exact signed_of_digits (Text.all_isDigit_ofNat k)
    exact whole?_of_signed hsigned
  | negSucc k =>
    have hsigned : signed (plain (Text.ofInt (.negSucc k))) = (true, Text.ofNat (k + 1)) := by
      rw [hplain]
      rfl
    exact whole?_of_signed hsigned

end Intake.Typed
