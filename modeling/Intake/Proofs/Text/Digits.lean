import Intake.Proofs.Text.Ends
import Mathlib.Data.List.Induction
import Mathlib.Tactic.Ring

/-!
# Decimal digits

Digits in front of others count by the number of those behind them. A number that is not zero does not
begin with a zero, and its size is known from the count of its digits up to a factor of ten.
-/

namespace Intake

namespace CodePoint

/-- A digit is no surrogate. -/
theorem isSurrogate_of_isDigit {c : CodePoint} (h : c.isDigit = true) : c.isSurrogate = false := by
  simp only [isDigit, Bool.and_eq_true, decide_eq_true_eq] at h
  simp [isSurrogate]; omega

end CodePoint

namespace Text

/-- Digits in front count by the number of digits behind them. -/
theorem digitsValue_append (t u : Text) :
    digitsValue (t ++ u) = digitsValue t * 10 ^ u.length + digitsValue u := by
  induction u using List.reverseRecOn with
  | nil => simp [digitsValue]
  | append_singleton u c ih =>
    rw [← List.append_assoc, digitsValue_concat, ih, digitsValue_concat, List.length_append,
      List.length_singleton, pow_succ]
    ring

theorem digitsValue_replicate_zero (n : Nat) : digitsValue (List.replicate n 48) = 0 := by
  induction n with
  | zero => rfl
  | succ n ih =>
    rw [List.replicate_succ', digitsValue_concat, ih]; rfl

theorem ofNat_ne_nil (n : Nat) : ofNat n ≠ [] := by
  by_cases h : n < 10
  · simp [ofNat_of_lt h]
  · simp [ofNat_of_ge h]

/-- Only zero begins with a zero. -/
theorem head?_ofNat_ne_zero {n : Nat} (h : n ≠ 0) : (ofNat n).head? ≠ some 48 := by
  induction n using ofNat.induct with
  | case1 n hn =>
    rw [ofNat_of_lt hn, List.head?_cons]
    intro hz
    have hval : 48 + n = ((48 : CodePoint) : Nat) := by
      rw [← CodePoint.val_ofDigit hn, Option.some.inj hz]
    have h48 : ((48 : CodePoint) : Nat) = 48 := rfl
    omega
  | case2 n hn ih =>
    have hhead : (ofNat n).head? = (ofNat (n / 10)).head? := by
      rw [ofNat_of_ge hn]
      cases hd : ofNat (n / 10) with
      | nil => exact absurd hd (ofNat_ne_nil _)
      | cons c rest => rfl
    rw [hhead]
    exact ih (by omega)

theorem lt_pow_length_ofNat (n : Nat) : n < 10 ^ (ofNat n).length := by
  induction n using ofNat.induct with
  | case1 n h => simpa [ofNat_of_lt h] using h
  | case2 n h ih =>
    rw [ofNat_of_ge h, List.length_append, List.length_singleton, pow_succ]
    omega

/-- Digits can be carried by every encoding. -/
theorem encodable_of_digits {t : Text} (h : t.all CodePoint.isDigit = true) : t.encodable = true := by
  rw [List.all_eq_true] at h
  rw [encodable, List.all_eq_true]
  intro c hc
  simp [CodePoint.isSurrogate_of_isDigit (h c hc)]

theorem encodable_ofNat (n : Nat) : (ofNat n).encodable = true :=
  encodable_of_digits (all_isDigit_ofNat n)

theorem encodable_replicate_zero (n : Nat) : Text.encodable (List.replicate n 48) = true := by
  refine encodable_of_digits (List.all_eq_true.2 ?_)
  intro c hc
  rw [List.eq_of_mem_replicate hc]
  rfl

theorem encodable_of_sublist {t u : Text} (h : t.Sublist u) (hu : u.encodable = true) :
    t.encodable = true := by
  rw [encodable, List.all_eq_true] at hu ⊢
  exact fun c hc => hu c (h.subset hc)

/-- What is left of a text when its ends are trimmed. -/
theorem encodable_trim {t : Text} (h : t.encodable = true) : t.trim.encodable = true :=
  encodable_of_sublist (stripWhile_sublist _ t) h

theorem encodable_append (t u : Text) : (t ++ u).encodable = (t.encodable && u.encodable) := by
  simp [encodable, List.all_append]

theorem encodable_ofInt (n : Int) : (ofInt n).encodable = true := by
  cases n with
  | ofNat n => exact encodable_ofNat n
  | negSucc n =>
    rw [ofInt, encodable_append, encodable_ofNat]
    rfl

theorem ofInt_ne_nil (n : Int) : ofInt n ≠ [] := by
  cases n with
  | ofNat n => exact ofNat_ne_nil n
  | negSucc n => exact List.append_ne_nil_of_right_ne_nil _ (ofNat_ne_nil (n + 1))

end Text
end Intake
