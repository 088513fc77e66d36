import Intake.Number.Shortest
import Mathlib.Algebra.Order.Field.Power
import Mathlib.Algebra.Order.Ring.Rat
import Mathlib.Tactic.FieldSimp
import Mathlib.Tactic.Linarith
import Mathlib.Tactic.Positivity
import Mathlib.Tactic.Ring

/-!
# Rounding to floating-point numbers

Fractions are written with whole numbers above and below, and rounding compares whole numbers only. Here
the comparisons are read as statements about rational numbers. A rational number between the half-way
points around `m · 2 ^ unit` rounds to it, and the half-way points do when `m` is even:

        low  ·2^(unit-2)      m·2^unit      high ·2^(unit-2)
        ----|--------------------|---------------------|----
            4m - 2               4m                  4m + 2

At a power of two the step below is half of the step above, so there the lower end is `4m - 1`.
-/

namespace Intake

theorem twoTo_of_nonneg {k : Int} (h : 0 ≤ k) : (twoTo k : ℚ) = 2 ^ k := by
  obtain ⟨n, rfl⟩ := Int.eq_ofNat_of_zero_le h
  simp [twoTo]

theorem twoTo_of_nonpos {k : Int} (h : k ≤ 0) : twoTo k = 1 := by
  simp [twoTo, Int.toNat_of_nonpos h]

theorem tenTo_of_nonneg {k : Int} (h : 0 ≤ k) : (tenTo k : ℚ) = 10 ^ k := by
  obtain ⟨n, rfl⟩ := Int.eq_ofNat_of_zero_le h
  simp [tenTo]

theorem tenTo_of_nonpos {k : Int} (h : k ≤ 0) : tenTo k = 1 := by
  simp [tenTo, Int.toNat_of_nonpos h]

theorem twoTo_pos (k : Int) : 0 < twoTo k := Nat.pow_pos (by decide)

theorem tenTo_pos (k : Int) : 0 < tenTo k := Nat.pow_pos (by decide)

/-- The factor above is the power times the factor below. -/
theorem twoTo_eq (k : Int) : (twoTo k : ℚ) = 2 ^ k * twoTo (-k) := by
  rcases Int.le_total 0 k with h | h
  · rw [twoTo_of_nonneg h, twoTo_of_nonpos (by omega), Nat.cast_one, mul_one]
  · rw [twoTo_of_nonpos h, twoTo_of_nonneg (by omega), ← zpow_add₀ (by norm_num)]
    simp

theorem tenTo_eq (k : Int) : (tenTo k : ℚ) = 10 ^ k * tenTo (-k) := by
  rcases Int.le_total 0 k with h | h
  · rw [tenTo_of_nonneg h, tenTo_of_nonpos (by omega), Nat.cast_one, mul_one]
  · rw [tenTo_of_nonpos h, tenTo_of_nonneg (by omega), ← zpow_add₀ (by norm_num)]
    simp

namespace Binary64

/-! ### Logarithms -/

/-- The test of the logarithm compares the fraction with a power of two. -/
theorem below_iff {num den : Nat} (hden : 0 < den) (e : Int) :
    (if 0 ≤ e then num < den * twoTo e else num * twoTo (-e) < den) ↔
      (num / den : ℚ) < 2 ^ e := by
  have hd : (0 : ℚ) < den := by exact_mod_cast hden
  rw [div_lt_iff₀ hd]
  split
  · rename_i he
    rw [← twoTo_of_nonneg he, mul_comm]
    exact_mod_cast Iff.rfl
  · rename_i he
    have hone : (2 : ℚ) ^ e * 2 ^ (-e) = 1 := by rw [← zpow_add₀ (by norm_num)]; simp
    have hpos : (0 : ℚ) < 2 ^ (-e) := by positivity
    rw [← mul_lt_mul_iff_left₀ hpos, mul_right_comm, hone, one_mul, ← twoTo_of_nonneg (by omega)]
    exact_mod_cast Iff.rfl

theorem zpow_log2_le {n : Nat} (h : 0 < n) : (2 : ℚ) ^ (n.log2 : Int) ≤ n := by
  rw [zpow_natCast]
  exact_mod_cast Nat.log2_self_le h.ne'

theorem lt_zpow_log2 (n : Nat) : (n : ℚ) < 2 ^ ((n.log2 : Int) + 1) := by
  have h : n < 2 ^ (n.log2 + 1) := Nat.lt_log2_self
  have hcast : ((n.log2 : Int) + 1) = ((n.log2 + 1 : Nat) : Int) := by simp
  rw [hcast, zpow_natCast]
  exact_mod_cast h

/-- The logarithm of a fraction is the exponent of the largest power of two below it. -/
theorem floorLog2_spec {num den : Nat} (hnum : 0 < num) (hden : 0 < den) :
    (2 : ℚ) ^ floorLog2 num den ≤ num / den ∧ (num / den : ℚ) < 2 ^ (floorLog2 num den + 1) := by
  have hd : (0 : ℚ) < den := by exact_mod_cast hden
  have hn : (0 : ℚ) < num := by exact_mod_cast hnum
  have hnlo := zpow_log2_le hnum
  have hnhi := lt_zpow_log2 num
  have hdlo := zpow_log2_le hden
  have hdhi := lt_zpow_log2 den
  -- the difference of the logarithms is the answer or one more
  have hlow : (2 : ℚ) ^ ((num.log2 : Int) - den.log2 - 1) ≤ num / den := by
    rw [le_div_iff₀ hd]
    calc (2 : ℚ) ^ ((num.log2 : Int) - den.log2 - 1) * den
        ≤ 2 ^ ((num.log2 : Int) - den.log2 - 1) * 2 ^ ((den.log2 : Int) + 1) := by gcongr
      _ = 2 ^ (num.log2 : Int) := by rw [← zpow_add₀ (by norm_num)]; congr 1; omega
      _ ≤ num := hnlo
  have hhigh : (num / den : ℚ) < 2 ^ ((num.log2 : Int) - den.log2 + 1) := by
    rw [div_lt_iff₀ hd]
    calc (num : ℚ) < 2 ^ ((num.log2 : Int) + 1) := hnhi
      _ = 2 ^ ((num.log2 : Int) - den.log2 + 1) * 2 ^ (den.log2 : Int) := by
        rw [← zpow_add₀ (by norm_num)]; congr 1; omega
      _ ≤ 2 ^ ((num.log2 : Int) - den.log2 + 1) * den := by gcongr
  unfold floorLog2
  simp only [below_iff hden]
  split
  · rename_i hb
    exact ⟨hlow, by rw [sub_add_cancel]; exact hb⟩
  · rename_i hb
    exact ⟨not_lt.1 hb, hhigh⟩

theorem floorLog2_eq {num den : Nat} {e : Int} (hnum : 0 < num) (hden : 0 < den)
    (hlow : (2 : ℚ) ^ e ≤ num / den) (hhigh : (num / den : ℚ) < 2 ^ (e + 1)) :
    floorLog2 num den = e := by
  obtain ⟨hlo, hhi⟩ := floorLog2_spec hnum hden
  have h₁ := (zpow_lt_zpow_iff_right₀ (by norm_num : (1 : ℚ) < 2)).1 (hlow.trans_lt hhi)
  have h₂ := (zpow_lt_zpow_iff_right₀ (by norm_num : (1 : ℚ) < 2)).1 (hlo.trans_lt hhigh)
  omega

/-! ### Quotients -/

theorem div_le_roundDiv (num den : Nat) : num / den ≤ roundDiv num den := by
  unfold roundDiv; simp only; split
  · exact Nat.le_refl _
  · split <;> omega

theorem roundDiv_le (num den : Nat) : roundDiv num den ≤ num / den + 1 := by
  unfold roundDiv; simp only; split
  · omega
  · split <;> omega

/-- The whole number that is nearest to a fraction, or is even and one of two nearest, is the one to
which it rounds. -/
theorem roundDiv_eq {num den m : Nat} (hden : 0 < den) (hlow : 2 * m * den ≤ 2 * num + den)
    (hhigh : 2 * num ≤ 2 * m * den + den)
    (hodd : m % 2 = 1 → 2 * m * den < 2 * num + den ∧ 2 * num < 2 * m * den + den) :
    roundDiv num den = m := by
  have hr : num % den < den := Nat.mod_lt _ hden
  have hsplit : num = num / den * den + num % den := (Nat.div_add_mod' num den).symm
  unfold roundDiv
  simp only
  generalize num / den = q at hsplit ⊢
  generalize num % den = r at hr hsplit ⊢
  have hge : q ≤ m := by
    by_contra hlt
    have : (m + 1) * den ≤ q * den := Nat.mul_le_mul_right _ (by omega)
    nlinarith
  have hle : m ≤ q + 1 := by
    by_contra hlt
    have : (q + 2) * den ≤ m * den := Nat.mul_le_mul_right _ (by omega)
    nlinarith
  -- only the two whole numbers around the fraction are left
  obtain rfl | rfl : m = q ∨ m = q + 1 := by omega
  · have hle : 2 * r ≤ den := by nlinarith
    split
    · rfl
    · have heven : m % 2 = 0 := by
        by_contra hne
        have := (hodd (by omega)).2
        nlinarith
      rw [if_pos (by omega), heven, Nat.add_zero]
  · have hge : den ≤ 2 * r := by nlinarith
    rw [if_neg (by omega)]
    split
    · have heven : (q + 1) % 2 = 0 := by
        by_contra hne
        have := (hodd (by omega)).1
        nlinarith
      omega
    · rfl

theorem roundDiv_eq_of_near {num den m : Nat} (hden : 0 < den)
    (hlow : (m : ℚ) - 1 / 2 ≤ num / den) (hhigh : (num / den : ℚ) ≤ m + 1 / 2)
    (hodd : m % 2 = 1 → (m : ℚ) - 1 / 2 < num / den ∧ (num / den : ℚ) < m + 1 / 2) :
    roundDiv num den = m := by
  have hd : (0 : ℚ) < den := by exact_mod_cast hden
  rw [le_div_iff₀ hd] at hlow
  rw [div_le_iff₀ hd] at hhigh
  rw [lt_div_iff₀ hd, div_lt_iff₀ hd] at hodd
  refine roundDiv_eq hden ?_ ?_ fun h => ⟨?_, ?_⟩
  · have : (2 * m * den : ℚ) ≤ 2 * num + den := by linarith
    exact_mod_cast this
  · have : (2 * num : ℚ) ≤ 2 * m * den + den := by linarith
    exact_mod_cast this
  · have : (2 * m * den : ℚ) < 2 * num + den := by linarith [(hodd h).1]
    exact_mod_cast this
  · have : (2 * num : ℚ) < 2 * m * den + den := by linarith [(hodd h).2]
    exact_mod_cast this

/-! ### Numbers of 53 binary digits -/

/-- `m · 2 ^ unit` is a positive floating-point number, written with all of its digits. -/
structure Canonical (m : Nat) (unit : Int) : Prop where
  pos : 0 < m
  small : m < 2 ^ 53
  smallest : -1074 ≤ unit
  largest : unit ≤ 971
  full : 2 ^ 52 ≤ m ∨ unit = -1074

/-- The dyadic fraction of a sign, a whole number and a unit. -/
def ofParts (negative : Bool) (m : Nat) (unit : Int) : Dyadic :=
  .ofIntWithPrec (if negative then -(m : Int) else m) (-unit)

theorem toRat_ofParts (negative : Bool) (m : Nat) (unit : Int) :
    (ofParts negative m unit).toRat = (if negative then -(m : ℚ) else m) * 2 ^ unit := by
  have h := Dyadic.toRat_ofIntWithPrec_eq_mul_two_pow (n := if negative then -(m : Int) else m)
    (k := -unit)
  rw [neg_neg] at h
  rw [ofParts, h]
  cases negative <;> simp

/-- A real number lies in an interval. -/
def Interval.Has (i : Interval) (x : ℚ) : Prop :=
  if i.closed then i.low * 2 ^ (i.unit - 2) ≤ x ∧ x ≤ i.high * 2 ^ (i.unit - 2)
  else i.low * 2 ^ (i.unit - 2) < x ∧ x < i.high * 2 ^ (i.unit - 2)

/-- What reads back as an odd number lies strictly inside. -/
theorem Interval.Has.le {i : Interval} {x : ℚ} (h : i.Has x) :
    i.low * 2 ^ (i.unit - 2) ≤ x ∧ x ≤ i.high * 2 ^ (i.unit - 2) := by
  unfold Interval.Has at h
  split at h
  · exact h
  · exact ⟨h.1.le, h.2.le⟩

theorem Interval.Has.lt {i : Interval} {x : ℚ} (h : i.Has x) (hi : i.closed = false) :
    i.low * 2 ^ (i.unit - 2) < x ∧ x < i.high * 2 ^ (i.unit - 2) := by
  rw [Interval.Has, hi] at h
  exact h

theorem has_readBack_low {m : Nat} {unit : Int} {x : ℚ} (h : (readBack m unit).Has x) :
    (4 * m - 2 : ℚ) * 2 ^ (unit - 2) ≤ x := by
  have hlow : 4 * m ≤ (readBack m unit).low + 2 := by
    unfold readBack; simp only; split <;> omega
  have hcast : (4 * m : ℚ) ≤ (readBack m unit).low + 2 := by exact_mod_cast hlow
  have hpos : (0 : ℚ) < 2 ^ (unit - 2) := by positivity
  calc (4 * m - 2 : ℚ) * 2 ^ (unit - 2) ≤ (readBack m unit).low * 2 ^ (unit - 2) :=
        mul_le_mul_of_nonneg_right (by linarith) hpos.le
    _ ≤ x := h.le.1

theorem has_readBack_high {m : Nat} {unit : Int} {x : ℚ} (h : (readBack m unit).Has x) :
    x ≤ (4 * m + 2 : ℚ) * 2 ^ (unit - 2) := by
  have hle := h.le.2
  have hhigh : ((readBack m unit).high : ℚ) = 4 * m + 2 := by simp [readBack]
  rw [hhigh] at hle
  exact hle

/-- The half-way points around an odd number do not read back as it. -/
theorem has_readBack_odd {m : Nat} {unit : Int} {x : ℚ} (h : (readBack m unit).Has x)
    (hm : m % 2 = 1) : (4 * m - 2 : ℚ) * 2 ^ (unit - 2) < x ∧ x < (4 * m + 2 : ℚ) * 2 ^ (unit - 2) := by
  have hlow : 4 * m ≤ (readBack m unit).low + 2 := by
    unfold readBack; simp only; split <;> omega
  have hcast : (4 * m : ℚ) ≤ (readBack m unit).low + 2 := by exact_mod_cast hlow
  have hhigh : ((readBack m unit).high : ℚ) = 4 * m + 2 := by simp [readBack]
  have hpos : (0 : ℚ) < 2 ^ (unit - 2) := by positivity
  have hlt := h.lt (by simp [readBack, hm])
  rw [hhigh] at hlt
  refine ⟨?_, hlt.2⟩
  calc (4 * m - 2 : ℚ) * 2 ^ (unit - 2) ≤ (readBack m unit).low * 2 ^ (unit - 2) :=
        mul_le_mul_of_nonneg_right (by linarith) hpos.le
    _ < x := hlt.1

/-! ### Rounding a fraction -/

/-- The whole number of units to which a fraction rounds. -/
def mantissa (num den : Nat) (unit : Int) : Nat :=
  if 0 ≤ unit then roundDiv num (den * twoTo unit) else roundDiv (num * twoTo (-unit)) den

theorem mantissa_eq_roundDiv (num den : Nat) (unit : Int) :
    mantissa num den unit = roundDiv (num * twoTo (-unit)) (den * twoTo unit) := by
  unfold mantissa
  split
  · rw [twoTo_of_nonpos (k := -unit) (by omega), Nat.mul_one]
  · rw [twoTo_of_nonpos (k := unit) (by omega), Nat.mul_one]

theorem cast_div_units (num den : Nat) (unit : Int) :
    ((num * twoTo (-unit) : Nat) / (den * twoTo unit : Nat) : ℚ) = num / den / 2 ^ unit := by
  have hpos : (0 : ℚ) < twoTo (-unit) := by exact_mod_cast twoTo_pos _
  rw [Nat.cast_mul, Nat.cast_mul, twoTo_eq unit, ← mul_assoc, mul_div_mul_right _ _ hpos.ne',
    div_div]

theorem mantissa_eq {num den m : Nat} {unit : Int} (hden : 0 < den)
    (hlow : (4 * m - 2 : ℚ) * 2 ^ (unit - 2) ≤ num / den)
    (hhigh : (num / den : ℚ) ≤ (4 * m + 2) * 2 ^ (unit - 2))
    (hodd : m % 2 = 1 → (4 * m - 2 : ℚ) * 2 ^ (unit - 2) < num / den ∧
      (num / den : ℚ) < (4 * m + 2) * 2 ^ (unit - 2)) :
    mantissa num den unit = m := by
  have hpos : (0 : ℚ) < 2 ^ unit := by positivity
  have hunit : (2 : ℚ) ^ (unit - 2) = 2 ^ unit / 4 := by
    rw [zpow_sub₀ (by norm_num)]; norm_num
  rw [hunit] at hlow hhigh hodd
  rw [mantissa_eq_roundDiv]
  refine roundDiv_eq_of_near (Nat.mul_pos hden (twoTo_pos _)) ?_ ?_ fun h => ⟨?_, ?_⟩ <;>
    rw [cast_div_units]
  · rw [le_div_iff₀ hpos]; linarith
  · rw [div_le_iff₀ hpos]; linarith
  · rw [lt_div_iff₀ hpos]; linarith [(hodd h).1]
  · rw [div_lt_iff₀ hpos]; linarith [(hodd h).2]

/-- The rounded fraction, once its unit and the number of units are known. -/
theorem ofFraction_of_unit (negative : Bool) {num den m : Nat} {unit : Int} (hnum : 0 < num)
    (hunit : max (floorLog2 num den - 52) (-1074) = unit) (hm : mantissa num den unit = m)
    (hpos : 0 < m) (hsize : (m : ℚ) * 2 ^ unit < 2 ^ (1024 : Int)) :
    ofFraction negative num den = finite (ofParts negative m unit) := by
  have hlog : floorLog2 m 1 + unit < 1024 := by
    have hspec := (floorLog2_spec hpos (by decide : 0 < 1)).1
    rw [Nat.cast_one, div_one] at hspec
    have hunitpos : (0 : ℚ) < 2 ^ unit := by positivity
    refine (zpow_lt_zpow_iff_right₀ (by norm_num : (1 : ℚ) < 2)).1 ?_
    calc (2 : ℚ) ^ (floorLog2 m 1 + unit) = 2 ^ floorLog2 m 1 * 2 ^ unit := zpow_add₀ (by norm_num) _ _
      _ ≤ m * 2 ^ unit := by gcongr
      _ < 2 ^ (1024 : Int) := hsize
  rw [mantissa] at hm
  rw [ofFraction, if_neg hnum.ne']
  simp only [hunit, hm]
  rw [if_neg hpos.ne', if_neg (by omega)]
  rfl

theorem Canonical.lt {m : Nat} {unit : Int} (h : Canonical m unit) :
    (4 * m + 2 : ℚ) * 2 ^ (unit - 2) < 2 ^ (unit + 53) := by
  have hm : (m : ℚ) + 1 ≤ 2 ^ 53 := by exact_mod_cast h.small
  have hpos : (0 : ℚ) < 2 ^ (unit - 2) := by positivity
  calc (4 * m + 2 : ℚ) * 2 ^ (unit - 2) < 2 ^ (55 : Int) * 2 ^ (unit - 2) := by
        refine mul_lt_mul_of_pos_right ?_ hpos
        norm_num at hm ⊢
        linarith
    _ = 2 ^ (unit + 53) := by rw [← zpow_add₀ (by norm_num)]; congr 1; omega

theorem Canonical.size_lt {m : Nat} {unit : Int} (h : Canonical m unit) :
    (m : ℚ) * 2 ^ unit < 2 ^ (1024 : Int) := by
  have hm : (m : ℚ) < 2 ^ 53 := by exact_mod_cast h.small
  have hpos : (0 : ℚ) < 2 ^ unit := by positivity
  calc (m : ℚ) * 2 ^ unit < 2 ^ (53 : Int) * 2 ^ unit := by
        refine mul_lt_mul_of_pos_right ?_ hpos
        exact_mod_cast hm
    _ = 2 ^ (53 + unit) := (zpow_add₀ (by norm_num) _ _).symm
    _ ≤ 2 ^ (1024 : Int) := zpow_le_zpow_right₀ (by norm_num) (by have := h.largest; omega)

theorem zpow_split (k : Int) (n : Nat) : (2 : ℚ) ^ (k + n) = 2 ^ n * 2 ^ k := by
  rw [add_comm, zpow_add₀ (by norm_num), zpow_natCast]

/-- What reads back as a number but lies below its binade is just below a power of two. -/
theorem Canonical.eq_of_below {m : Nat} {unit : Int} {x : ℚ} (hc : Canonical m unit)
    (hin : (readBack m unit).Has x) (hbelow : x < 2 ^ (unit + 52)) (hnormal : unit ≠ -1074) :
    m = 2 ^ 52 ∧ ((2 : ℚ) ^ 54 - 1) * 2 ^ (unit - 2) ≤ x := by
  have hlow := has_readBack_low hin
  have hpos : (0 : ℚ) < 2 ^ (unit - 2) := by positivity
  have hfull : 2 ^ 52 ≤ m := hc.full.resolve_right hnormal
  have hgrid : (2 : ℚ) ^ (unit + 52) = 2 ^ 54 * 2 ^ (unit - 2) := by
    rw [← zpow_split]; congr 1; push_cast; omega
  obtain rfl : m = 2 ^ 52 := by
    by_contra hne
    have hsucc : ((2 ^ 52 + 1 : Nat) : ℚ) ≤ m := by
      have : 2 ^ 52 + 1 ≤ m := by omega
      exact_mod_cast this
    have hstep : (2 ^ 54 : ℚ) * 2 ^ (unit - 2) < (4 * m - 2) * 2 ^ (unit - 2) := by
      refine mul_lt_mul_of_pos_right ?_ hpos
      push_cast at hsucc
      linarith
    linarith
  refine ⟨rfl, ?_⟩
  have hends : (readBack (2 ^ 52) unit).low = 4 * 2 ^ 52 - 1 := by
    have := hc.smallest
    rw [readBack, if_pos ⟨rfl, by omega⟩]
  have h := hin.le.1
  rw [hends] at h
  norm_num at h ⊢
  exact h

/-- The power of two has the same value in units half as large. -/
theorem half_unit (unit : Int) :
    ((2 ^ 53 : Nat) : ℚ) * 2 ^ (unit - 1) = ((2 ^ 52 : Nat) : ℚ) * 2 ^ unit := by
  rw [zpow_sub_one₀ (by norm_num)]; push_cast; ring

theorem ofParts_half (negative : Bool) (unit : Int) :
    ofParts negative (2 ^ 53) (unit - 1) = ofParts negative (2 ^ 52) unit := by
  rw [← Dyadic.toRat_inj, toRat_ofParts, toRat_ofParts]
  cases negative
  · exact half_unit unit
  · simp only [if_true, neg_mul]
    rw [half_unit]

/-- What lies between the half-way points around a floating-point number rounds to it. -/
theorem ofFraction_eq (negative : Bool) {num den m : Nat} {unit : Int} (hc : Canonical m unit)
    (hden : 0 < den) (hin : (readBack m unit).Has (num / den)) :
    ofFraction negative num den = finite (ofParts negative m unit) := by
  have hlow := has_readBack_low hin
  have hhigh := has_readBack_high hin
  have hpos : (0 : ℚ) < 2 ^ (unit - 2) := by positivity
  have hm : (1 : ℚ) ≤ m := by exact_mod_cast hc.pos
  have hq : (0 : ℚ) < num / den := lt_of_lt_of_le (mul_pos (by linarith) hpos) hlow
  have hnum : 0 < num := by
    rcases Nat.eq_zero_or_pos num with rfl | h
    · simp at hq
    · exact h
  have htwo : (1 : ℚ) < 2 := by norm_num
  obtain ⟨hfl, hfh⟩ := floorLog2_spec hnum hden
  have htop : (num / den : ℚ) < 2 ^ (unit + 53) := hhigh.trans_lt hc.lt
  have hle : floorLog2 num den < unit + 53 :=
    (zpow_lt_zpow_iff_right₀ htwo).1 (hfl.trans_lt htop)
  have hsmallest := hc.smallest
  by_cases hbinade : (2 : ℚ) ^ (unit + 52) ≤ num / den ∨ unit = -1074
  · have hunit : max (floorLog2 num den - 52) (-1074) = unit := by
      rcases hbinade with h | h
      · have := (zpow_lt_zpow_iff_right₀ htwo).1 (h.trans_lt hfh)
        omega
      · omega
    exact ofFraction_of_unit negative hnum hunit
      (mantissa_eq hden hlow hhigh (has_readBack_odd hin)) hc.pos hc.size_lt
  · -- below a power of two the unit is half as large, and the number rounds up to the power
    obtain ⟨hbelow, hnormal⟩ := not_or.1 hbinade
    rw [not_le] at hbelow
    obtain ⟨rfl, hquarter⟩ := hc.eq_of_below hin hbelow hnormal
    have hgrid (n : Nat) (k : Int) (hk : k = unit - 2 + n) : (2 : ℚ) ^ k = 2 ^ n * 2 ^ (unit - 2) := by
      rw [hk, zpow_split]
    have hlower : (2 : ℚ) ^ (unit + 51) ≤ num / den := by
      refine le_trans ?_ hquarter
      rw [hgrid 53 (unit + 51) (by push_cast; omega)]
      exact mul_le_mul_of_nonneg_right (by norm_num) hpos.le
    have hlog : floorLog2 num den = unit + 51 :=
      floorLog2_eq hnum hden hlower (by rw [add_assoc]; exact hbelow)
    have hhalf : (2 : ℚ) ^ (unit - 1 - 2) = 2 ^ (unit - 2) / 2 := by
      rw [show unit - 1 - 2 = unit - 2 - 1 by omega, zpow_sub_one₀ (by norm_num), div_eq_mul_inv]
    have hmantissa : mantissa num den (unit - 1) = 2 ^ 53 := by
      rw [hgrid 54 (unit + 52) (by push_cast; omega)] at hbelow
      refine mantissa_eq hden ?_ ?_ fun h => absurd h (by decide)
      · rw [hhalf]; norm_num at hquarter ⊢; linarith
      · rw [hhalf]; norm_num at hbelow ⊢; linarith
    rw [ofFraction_of_unit negative hnum (by omega) hmantissa (by decide)
      (by rw [half_unit]; exact hc.size_lt), ofParts_half]

/-! ### What rounding gives -/

/-- The number is one of the numbers of 53 binary digits, a zero or one of the special values. -/
def Sound : Binary64 → Prop
  | finite x => x = 0 ∨ ∃ negative m unit, Canonical m unit ∧ x = ofParts negative m unit
  | _ => True

theorem sound_signedZero (negative : Bool) : Sound (signedZero negative) := by
  cases negative
  · exact .inl rfl
  · trivial

/-- The number of units is below `2 ^ 53`, or is just that by rounding up. -/
theorem mantissa_le {num den : Nat} {unit : Int} (hden : 0 < den)
    (h : (num / den : ℚ) < 2 ^ (unit + 53)) : mantissa num den unit ≤ 2 ^ 53 := by
  have hD : 0 < den * twoTo unit := Nat.mul_pos hden (twoTo_pos _)
  have hDq : (0 : ℚ) < (den * twoTo unit : Nat) := by exact_mod_cast hD
  have hunit : (0 : ℚ) < 2 ^ unit := by positivity
  have hlt : ((num * twoTo (-unit) : Nat) / (den * twoTo unit : Nat) : ℚ) < 2 ^ 53 := by
    rw [cast_div_units, div_lt_iff₀ hunit, ← zpow_split]
    exact h
  rw [div_lt_iff₀ hDq] at hlt
  have hnat : num * twoTo (-unit) < 2 ^ 53 * (den * twoTo unit) := by exact_mod_cast hlt
  have hquot : num * twoTo (-unit) / (den * twoTo unit) < 2 ^ 53 := by
    rw [Nat.div_lt_iff_lt_mul hD]; exact hnat
  rw [mantissa_eq_roundDiv]
  exact (roundDiv_le _ _).trans hquot

theorem le_mantissa {num den : Nat} {unit : Int} (hden : 0 < den)
    (h : (2 : ℚ) ^ (unit + 52) ≤ num / den) : 2 ^ 52 ≤ mantissa num den unit := by
  have hD : 0 < den * twoTo unit := Nat.mul_pos hden (twoTo_pos _)
  have hDq : (0 : ℚ) < (den * twoTo unit : Nat) := by exact_mod_cast hD
  have hunit : (0 : ℚ) < 2 ^ unit := by positivity
  have hle : (2 : ℚ) ^ 52 ≤ (num * twoTo (-unit) : Nat) / (den * twoTo unit : Nat) := by
    rw [cast_div_units, le_div_iff₀ hunit, ← zpow_split]
    exact h
  rw [le_div_iff₀ hDq] at hle
  have hnat : 2 ^ 52 * (den * twoTo unit) ≤ num * twoTo (-unit) := by exact_mod_cast hle
  rw [mantissa_eq_roundDiv]
  exact ((Nat.le_div_iff_mul_le hD).2 hnat).trans (div_le_roundDiv _ _)

theorem floorLog2_one_eq {m e : Nat} (hlow : 2 ^ e ≤ m) (hhigh : m < 2 ^ (e + 1)) :
    floorLog2 m 1 = e := by
  have hm : 0 < m := (Nat.pow_pos (by decide)).trans_le hlow
  refine floorLog2_eq hm (by decide) ?_ ?_
  · rw [Nat.cast_one, div_one, zpow_natCast]
    exact_mod_cast hlow
  · have hcast : (e : Int) + 1 = ((e + 1 : Nat) : Int) := by simp
    rw [Nat.cast_one, div_one, hcast, zpow_natCast]
    exact_mod_cast hhigh

/-- Rounding a fraction gives a floating-point number. -/
theorem sound_ofFraction (negative : Bool) (num : Nat) {den : Nat} (hden : 0 < den) :
    Sound (ofFraction negative num den) := by
  rcases Nat.eq_zero_or_pos num with rfl | hnum
  · rw [ofFraction, if_pos rfl]
    exact sound_signedZero negative
  obtain ⟨hfl, hfh⟩ := floorLog2_spec hnum hden
  rw [ofFraction, if_neg hnum.ne']
  simp only
  generalize hunit : max (floorLog2 num den - 52) (-1074) = unit
  have hle : mantissa num den unit ≤ 2 ^ 53 := by
    refine mantissa_le hden (hfh.trans_le ?_)
    exact zpow_le_zpow_right₀ (by norm_num) (by omega)
  have hge : unit ≠ -1074 → 2 ^ 52 ≤ mantissa num den unit := by
    intro hnormal
    refine le_mantissa hden (le_trans ?_ hfl)
    exact zpow_le_zpow_right₀ (by norm_num) (by omega)
  change Sound (if mantissa num den unit = 0 then _ else if 1024 ≤ floorLog2 (mantissa num den unit) 1
    + unit then _ else finite (ofParts negative (mantissa num den unit) unit))
  generalize mantissa num den unit = m at hle hge ⊢
  split
  · exact sound_signedZero negative
  · split
    · trivial
    · rename_i hpos hsize
      refine .inr ?_
      rcases hle.eq_or_lt with rfl | hlt
      · rw [floorLog2_one_eq (e := 53) le_rfl (by decide)] at hsize
        refine ⟨negative, 2 ^ 52, unit + 1, ⟨by decide, by decide, by omega, by omega,
          .inl le_rfl⟩, ?_⟩
        rw [← ofParts_half, add_sub_cancel_right]
      · refine ⟨negative, m, unit, ⟨by omega, hlt, by omega, ?_, ?_⟩, rfl⟩
        · by_cases hnormal : unit = -1074
          · omega
          · rw [floorLog2_one_eq (e := 52) (hge hnormal) hlt] at hsize
            omega
        · by_cases hnormal : unit = -1074
          · exact .inr hnormal
          · exact .inl (hge hnormal)

theorem sound_ofDecimal (negative : Bool) (digits : Nat) (exponent : Int) :
    Sound (ofDecimal negative digits exponent) := by
  unfold ofDecimal
  simp only
  split
  · exact sound_signedZero negative
  · split
    · trivial
    · split
      · exact sound_signedZero negative
      · split
        · exact sound_ofFraction negative _ (by decide)
        · exact sound_ofFraction negative _ (tenTo_pos _)

end Binary64
end Intake
