import Intake.Proofs.Number.Rounding

/-!
# The shortest decimal reads back

The search for the shortest decimal begins on a grid that is coarser than the number and refines it by a
factor of ten at a time. It cannot fail: on a grid that is finer than a quarter of a unit, the grid point
just below the number lies between the half-way points. Any decimal between these points is read as the
number, because the quick tests on its size only settle decimals that are far outside.
-/

namespace Intake

/-! ### Powers of two among the powers of ten -/

/-- The quotient is the number of decimal digits of a power of two, less one. -/
theorem pow_ten_le_pow_two :
    ∀ n < 1100, 10 ^ (n * 30103 / 100000) ≤ 2 ^ n ∧ 2 ^ n < 10 ^ (n * 30103 / 100000 + 1) := by
  decide +kernel

theorem zpow_two_bounds_natCast {n : Nat} (h : n < 1100) :
    (10 : ℚ) ^ ((n * 30103 / 100000 : Nat) : Int) ≤ 2 ^ (n : Int) ∧
      (2 : ℚ) ^ (n : Int) ≤ 10 ^ (((n * 30103 / 100000 : Nat) : Int) + 1) := by
  obtain ⟨hlow, hhigh⟩ := pow_ten_le_pow_two n h
  rw [← Int.natCast_add_one, zpow_natCast, zpow_natCast, zpow_natCast]
  exact ⟨by exact_mod_cast hlow, by exact_mod_cast hhigh.le⟩

/-- The quotient stands for the decimal logarithm of a power of two, rounded down. -/
theorem zpow_two_bounds {e : Int} (hlow : -1100 < e) (hhigh : e < 1100) :
    (10 : ℚ) ^ (e * 30103 / 100000) ≤ 2 ^ e ∧ (2 : ℚ) ^ e ≤ 10 ^ (e * 30103 / 100000 + 1) := by
  rcases Int.lt_or_le 0 e with h | h
  · obtain ⟨n, rfl⟩ := Int.eq_ofNat_of_zero_le h.le
    have hlog : (n : Int) * 30103 / 100000 = ((n * 30103 / 100000 : Nat) : Int) := by push_cast; rfl
    rw [hlog]
    exact zpow_two_bounds_natCast (by omega)
  · obtain ⟨n, rfl⟩ : ∃ n : Nat, e = -(n : Int) := ⟨(-e).toNat, by omega⟩
    obtain ⟨h₁, h₂⟩ := zpow_two_bounds_natCast (n := n) (by omega)
    rcases Nat.eq_zero_or_pos n with rfl | hn
    · norm_num
    -- below one the bounds change their places
    have hdvd : ¬ (100000 : Int) ∣ (n * 30103 : Int) := by
      intro h
      have h : 100000 ∣ n * 30103 := by exact_mod_cast h
      have := Nat.le_of_dvd hn (Nat.Coprime.dvd_of_dvd_mul_right (by decide) h)
      omega
    have hlog : -(n : Int) * 30103 / 100000 = -(((n * 30103 / 100000 : Nat) : Int) + 1) := by
      rw [neg_mul, Int.neg_ediv, if_neg hdvd, Int.sign_eq_one_of_pos (by decide)]
      push_cast
      ring
    rw [hlog, zpow_neg, zpow_neg, neg_add, neg_add_cancel_right, zpow_neg]
    constructor
    · rw [inv_le_inv₀ (by positivity) (by positivity)]; exact h₂
    · rw [inv_le_inv₀ (by positivity) (by positivity)]; exact h₁

namespace Binary64

/-! ### Decimals in an interval -/

/-- The factor by which a comparison is brought to whole numbers. -/
theorem scaled_eq (a : Nat) (unit : Int) (d : Nat) (p : Int) :
    ∃ c : ℚ, 0 < c ∧ ((scaled a unit d p).1 : ℚ) = a * 2 ^ (unit - 2) * c ∧
      ((scaled a unit d p).2 : ℚ) = d * 10 ^ p * c := by
  have h2 : (0 : ℚ) < twoTo (-(unit - 2)) := by exact_mod_cast twoTo_pos _
  have h10 : (0 : ℚ) < tenTo (-p) := by exact_mod_cast tenTo_pos _
  refine ⟨twoTo (-(unit - 2)) * tenTo (-p), mul_pos h2 h10, ?_, ?_⟩
  · rw [scaled]; simp only; push_cast; rw [twoTo_eq (unit - 2)]; ring
  · rw [scaled]; simp only; push_cast; rw [tenTo_eq p]; ring

theorem scaled_le_iff (a : Nat) (unit : Int) (d : Nat) (p : Int) :
    (scaled a unit d p).1 ≤ (scaled a unit d p).2 ↔ (a * 2 ^ (unit - 2) : ℚ) ≤ d * 10 ^ p := by
  obtain ⟨c, hc, h₁, h₂⟩ := scaled_eq a unit d p
  rw [← mul_le_mul_iff_left₀ hc, ← h₁, ← h₂]
  exact Nat.cast_le.symm

theorem scaled_ge_iff (a : Nat) (unit : Int) (d : Nat) (p : Int) :
    (scaled a unit d p).2 ≤ (scaled a unit d p).1 ↔ (d * 10 ^ p : ℚ) ≤ a * 2 ^ (unit - 2) := by
  obtain ⟨c, hc, h₁, h₂⟩ := scaled_eq a unit d p
  rw [← mul_le_mul_iff_left₀ hc, ← h₁, ← h₂]
  exact Nat.cast_le.symm

/-- The test on whole numbers tells whether a decimal lies in the interval. -/
theorem holds_iff (i : Interval) (d : Nat) (p : Int) : i.holds d p = true ↔ i.Has (d * 10 ^ p) := by
  have hlow := scaled_le_iff i.low i.unit d p
  have hhigh := scaled_ge_iff i.high i.unit d p
  have hlow' := not_congr (scaled_ge_iff i.low i.unit d p)
  have hhigh' := not_congr (scaled_le_iff i.high i.unit d p)
  rw [not_le, not_le] at hlow' hhigh'
  unfold Interval.holds Interval.Has
  cases i.closed <;> simp only [Bool.and_eq_true, decide_eq_true_eq, if_true, Bool.false_eq_true,
    if_false]
  · exact and_congr hlow' hhigh'
  · exact and_congr hlow hhigh

/-! ### The search -/

/-- What stands on a grid reads back. -/
theorem has_of_onGrid {m : Nat} {unit p : Int} {d : Decimal} (h : onGrid m unit p = some d) :
    d.exponent = p ∧ (readBack m unit).Has (d.digits * 10 ^ p) := by
  unfold onGrid at h
  simp only at h
  generalize hnum : m * twoTo unit * tenTo (-p) = num at h
  generalize hden : tenTo p * twoTo (-unit) = den at h
  split at h
  · rename_i hbelow habove
    obtain rfl := Option.some.inj h
    refine ⟨rfl, (holds_iff _ _ _).1 ?_⟩
    have h₁ := div_le_roundDiv num den
    have h₂ := roundDiv_le num den
    obtain he | he : roundDiv num den = num / den ∨ roundDiv num den = num / den + 1 := by omega
    · simp only [he]; exact hbelow
    · simp only [he]; exact habove
  · rename_i hbelow _
    obtain rfl := Option.some.inj h
    exact ⟨rfl, (holds_iff _ _ _).1 hbelow⟩
  · rename_i _ habove
    obtain rfl := Option.some.inj h
    exact ⟨rfl, (holds_iff _ _ _).1 habove⟩
  · cases h

/-- On a grid finer than a quarter of a unit the point just below the number reads back. -/
theorem onGrid_ne_none {m : Nat} {unit p : Int} (hm : 0 < m) (hp : (10 : ℚ) ^ p ≤ 2 ^ (unit - 2)) :
    onGrid m unit p ≠ none := by
  have h2 : (0 : ℚ) < 2 ^ (unit - 2) := by positivity
  have h10 : (0 : ℚ) < 10 ^ p := by positivity
  generalize hnum : m * twoTo unit * tenTo (-p) = num
  generalize hden : tenTo p * twoTo (-unit) = den
  have hdenpos : 0 < den := hden ▸ Nat.mul_pos (tenTo_pos _) (twoTo_pos _)
  have hquot : (num / den : ℚ) = m * 2 ^ unit / 10 ^ p := by
    have hu : (0 : ℚ) < twoTo (-unit) := by exact_mod_cast twoTo_pos _
    have ht : (0 : ℚ) < tenTo (-p) := by exact_mod_cast tenTo_pos _
    rw [← hnum, ← hden]
    push_cast
    rw [twoTo_eq unit, tenTo_eq p]
    field_simp
  have hfour : (m * 2 ^ unit : ℚ) = 4 * m * 2 ^ (unit - 2) := by
    rw [zpow_sub₀ (by norm_num)]; norm_num; ring
  have hdenq : (0 : ℚ) < den := by exact_mod_cast hdenpos
  have hbelow : ((num / den : Nat) : ℚ) * 10 ^ p ≤ 4 * m * 2 ^ (unit - 2) := by
    rw [← hfour, ← le_div_iff₀ h10, ← hquot, le_div_iff₀ hdenq]
    exact_mod_cast Nat.div_mul_le_self num den
  have habove : (4 * m : ℚ) * 2 ^ (unit - 2) < (((num / den : Nat) : ℚ) + 1) * 10 ^ p := by
    rw [← hfour, ← div_lt_iff₀ h10, ← hquot, div_lt_iff₀ hdenq]
    have := Nat.lt_mul_div_succ num hdenpos
    rw [mul_comm] at this
    exact_mod_cast this
  have hlow : ((readBack m unit).low : ℚ) ≤ 4 * m - 1 := by
    have : (readBack m unit).low + 1 ≤ 4 * m := by
      unfold readBack; simp only; split <;> omega
    have : ((readBack m unit).low : ℚ) + 1 ≤ 4 * m := by exact_mod_cast this
    linarith
  have hhigh : ((readBack m unit).high : ℚ) = 4 * m + 2 := by simp [readBack]
  have hleft : ((readBack m unit).low : ℚ) * 2 ^ (unit - 2) < ((num / den : Nat) : ℚ) * 10 ^ p := by
    have := mul_le_mul_of_nonneg_right hlow h2.le
    linarith
  have hright : ((num / den : Nat) : ℚ) * 10 ^ p < (readBack m unit).high * 2 ^ (unit - 2) := by
    rw [hhigh]; linarith
  have hholds : (readBack m unit).holds (num / den) p = true := by
    rw [holds_iff, Interval.Has]
    split
    · exact ⟨hleft.le, hright.le⟩
    · exact ⟨hleft, hright⟩
  unfold onGrid
  simp only [hnum, hden, hholds]
  cases (readBack m unit).holds (num / den + 1) p <;> simp

/-- The search ends on a grid that it reaches, with a decimal that reads back. -/
theorem has_firstHit {m : Nat} {unit : Int} {tries : Nat} {p : Int}
    (h : ∃ k < tries, onGrid m unit (p - (k : Nat)) ≠ none) :
    p - tries < (firstHit m unit tries p).exponent ∧
      (readBack m unit).Has ((firstHit m unit tries p).digits *
        10 ^ (firstHit m unit tries p).exponent) := by
  induction tries generalizing p with
  | zero =>
    obtain ⟨k, hk, -⟩ := h
    omega
  | succ tries ih =>
    cases hd : onGrid m unit p with
    | some d =>
      obtain ⟨hp, hhas⟩ := has_of_onGrid hd
      rw [firstHit, hd, Option.getD_some, hp]
      exact ⟨by omega, hhas⟩
    | none =>
      obtain ⟨k, hk, hhit⟩ := h
      cases k with
      | zero => exact absurd hd (by simpa using hhit)
      | succ k =>
        have hnext : onGrid m unit (p - 1 - (k : Nat)) ≠ none := by
          rw [show p - 1 - (k : Int) = p - ((k + 1 : Nat) : Int) by push_cast; omega]
          exact hhit
        obtain ⟨hp, hhas⟩ := ih ⟨k, by omega, hnext⟩
        rw [firstHit, hd, Option.getD_none]
        exact ⟨by push_cast; omega, hhas⟩

/-! ### The shortest decimal of a number -/

/-- The logarithm of a floating-point number. -/
theorem Canonical.floorLog2 {m num den : Nat} {unit : Int} (hc : Canonical m unit)
    (hden : 0 < den) (hvalue : (num / den : ℚ) = m * 2 ^ unit) :
    0 < num ∧ max (floorLog2 num den - 52) (-1074) = unit ∧
      Binary64.floorLog2 num den < unit + 53 ∧ -1074 ≤ Binary64.floorLog2 num den := by
  have htwo : (1 : ℚ) < 2 := by norm_num
  have hunit : (0 : ℚ) < 2 ^ unit := by positivity
  have hm : (1 : ℚ) ≤ m := by exact_mod_cast hc.pos
  have hnum : 0 < num := by
    rcases Nat.eq_zero_or_pos num with rfl | h
    · have : (0 : ℚ) < m * 2 ^ unit := by positivity
      rw [← hvalue] at this
      simp at this
    · exact h
  obtain ⟨hfl, hfh⟩ := floorLog2_spec hnum hden
  have hsmall : (m * 2 ^ unit : ℚ) < 2 ^ (unit + 53) := by
    have hsplit : (2 : ℚ) ^ (unit + 53) = 2 ^ 53 * 2 ^ unit := zpow_split unit 53
    have : (m : ℚ) < 2 ^ 53 := by exact_mod_cast hc.small
    rw [hsplit]
    exact mul_lt_mul_of_pos_right this hunit
  have hlt := (zpow_lt_zpow_iff_right₀ htwo).1 (hfl.trans_lt (hvalue ▸ hsmall))
  have hge : unit < Binary64.floorLog2 num den + 1 := by
    refine (zpow_lt_zpow_iff_right₀ htwo).1 (lt_of_le_of_lt ?_ hfh)
    rw [hvalue]
    exact le_mul_of_one_le_left hunit.le hm
  have hsmallest := hc.smallest
  refine ⟨hnum, ?_, hlt, by omega⟩
  rcases hc.full with hfull | hlowest
  · have hbinade : (2 : ℚ) ^ (unit + 52) ≤ num / den := by
      have hsplit : (2 : ℚ) ^ (unit + 52) = 2 ^ 52 * 2 ^ unit := zpow_split unit 52
      have : (2 : ℚ) ^ 52 ≤ m := by exact_mod_cast hfull
      rw [hvalue, hsplit]
      exact mul_le_mul_of_nonneg_right this hunit.le
    have := (zpow_lt_zpow_iff_right₀ htwo).1 (hbinade.trans_lt hfh)
    omega
  · omega

/-- The search is done for the number itself. -/
theorem Canonical.shortest_eq {m num den : Nat} {unit : Int} (hc : Canonical m unit)
    (hden : 0 < den) (hvalue : (num / den : ℚ) = m * 2 ^ unit) :
    shortest num den = firstHit m unit 22 (Binary64.floorLog2 num den * 30103 / 100000 + 2) := by
  obtain ⟨-, hunit, -, -⟩ := hc.floorLog2 hden hvalue
  have hdenq : (0 : ℚ) < den := by exact_mod_cast hden
  have hm : (if 0 ≤ unit then num / (den * twoTo unit) else num * twoTo (-unit) / den) = m := by
    rw [div_eq_iff hdenq.ne'] at hvalue
    split
    · rename_i h
      have hnum : num = m * (den * twoTo unit) := by
        rw [← twoTo_of_nonneg h] at hvalue
        have : num = m * twoTo unit * den := by exact_mod_cast hvalue
        rw [this]; ring
      rw [hnum, Nat.mul_div_cancel _ (Nat.mul_pos hden (twoTo_pos _))]
    · rename_i h
      have hnum : num * twoTo (-unit) = m * den := by
        have hone : (2 : ℚ) ^ unit * twoTo (-unit) = 1 := by
          rw [← twoTo_eq, twoTo_of_nonpos (by omega), Nat.cast_one]
        have : (num * twoTo (-unit) : ℚ) = m * den := by
          rw [hvalue, mul_right_comm, mul_assoc (m : ℚ), hone, mul_one]
        exact_mod_cast this
      rw [hnum, Nat.mul_div_cancel _ hden]
  unfold shortest
  simp only [hunit, hm]

/-- The shortest decimal of a floating-point number reads back as it and has few digits. -/
theorem Canonical.shortest_spec {m num den : Nat} {unit : Int} (hc : Canonical m unit)
    (hden : 0 < den) (hvalue : (num / den : ℚ) = m * 2 ^ unit) :
    (readBack m unit).Has ((shortest num den).digits * 10 ^ (shortest num den).exponent) ∧
      0 < (shortest num den).digits ∧ (shortest num den).digits < 10 ^ 22 := by
  obtain ⟨hnum, hunit, hlt, hge⟩ := hc.floorLog2 hden hvalue
  obtain ⟨hfl, hfh⟩ := floorLog2_spec hnum hden
  rw [hc.shortest_eq hden hvalue]
  have hlargest := hc.largest
  generalize Binary64.floorLog2 num den = log at *
  obtain ⟨hten, htwo⟩ := zpow_two_bounds (e := log) (by omega) (by omega)
  have hfine : (10 : ℚ) ^ (log * 30103 / 100000 + 2 - ((21 : Nat) : Int)) ≤ 2 ^ (unit - 2) :=
    calc (10 : ℚ) ^ (log * 30103 / 100000 + 2 - ((21 : Nat) : Int))
        = 10 ^ (log * 30103 / 100000) * 10 ^ (-19 : Int) := by
          rw [← zpow_add₀ (by norm_num)]; congr 1; push_cast; omega
      _ ≤ 2 ^ log * 2 ^ (-54 : Int) := by gcongr; norm_num
      _ = 2 ^ (log - 54) := by rw [← zpow_add₀ (by norm_num)]; rfl
      _ ≤ 2 ^ (unit - 2) := zpow_le_zpow_right₀ (by norm_num) (by omega)
  have hhit : ∃ k < 22, onGrid m unit (log * 30103 / 100000 + 2 - (k : Nat)) ≠ none :=
    ⟨21, by decide, onGrid_ne_none hc.pos hfine⟩
  obtain ⟨hp, hhas⟩ := has_firstHit hhit
  have hm : (1 : ℚ) ≤ m := by exact_mod_cast hc.pos
  have hquarter : (0 : ℚ) < 2 ^ (unit - 2) := by positivity
  refine ⟨hhas, ?_, ?_⟩
  · by_contra h
    have hlow := has_readBack_low hhas
    rw [Nat.eq_zero_of_not_pos h, Nat.cast_zero, zero_mul] at hlow
    have : (0 : ℚ) < (4 * m - 2) * 2 ^ (unit - 2) := mul_pos (by linarith) hquarter
    linarith
  · have hhigh := has_readBack_high hhas
    generalize firstHit m unit 22 (log * 30103 / 100000 + 2) = d at *
    have hfour : (m * 2 ^ unit : ℚ) = 4 * m * 2 ^ (unit - 2) := by
      rw [zpow_sub₀ (by norm_num)]; norm_num; ring
    have hgrid : (0 : ℚ) < 10 ^ (log * 30103 / 100000 - 19) := by positivity
    have hlt : (d.digits : ℚ) * 10 ^ (log * 30103 / 100000 - 19) <
        10 ^ 22 * 10 ^ (log * 30103 / 100000 - 19) :=
      calc (d.digits : ℚ) * 10 ^ (log * 30103 / 100000 - 19) ≤ d.digits * 10 ^ d.exponent := by
            refine mul_le_mul_of_nonneg_left ?_ (by positivity)
            exact zpow_le_zpow_right₀ (by norm_num) (by push_cast at hp; omega)
        _ ≤ (4 * m + 2) * 2 ^ (unit - 2) := hhigh
        _ ≤ 2 * (num / den) := by
            rw [hvalue, hfour]
            nlinarith
        _ < 2 * 2 ^ (log + 1) := by linarith
        _ = 4 * 2 ^ log := by rw [zpow_add_one₀ (by norm_num)]; ring
        _ ≤ 4 * 10 ^ (log * 30103 / 100000 + 1) := by linarith
        _ ≤ 10 ^ 22 * 10 ^ (log * 30103 / 100000 - 19) := by
            have hsplit : (10 : ℚ) ^ (log * 30103 / 100000 + 1) =
                10 ^ 20 * 10 ^ (log * 30103 / 100000 - 19) := by
              rw [← zpow_natCast, ← zpow_add₀ (by norm_num)]; congr 1; push_cast; omega
            rw [hsplit]
            nlinarith
    have hq : (d.digits : ℚ) < 10 ^ 22 := lt_of_mul_lt_mul_right hlt hgrid.le
    exact_mod_cast hq

/-! ### Reading a decimal -/

/-- The largest numbers have at most 309 digits. -/
theorem zpow_two_1024_lt : (2 : ℚ) ^ ((1024 : Nat) : Int) < 10 ^ ((309 : Nat) : Int) := by
  have h : 2 ^ 1024 < 10 ^ 309 := by decide +kernel
  rw [zpow_natCast, zpow_natCast]
  exact_mod_cast h

/-- Half of the smallest number has its first digit in the place 324 or before. -/
theorem lt_zpow_two_1075 : (10 : ℚ) ^ (-((324 : Nat) : Int)) < 2 ^ (-((1075 : Nat) : Int)) := by
  have h : 2 ^ 1075 < 10 ^ 324 := by decide +kernel
  rw [zpow_neg, zpow_neg, inv_lt_inv₀ (by positivity) (by positivity), zpow_natCast, zpow_natCast]
  exact_mod_cast h

/-- A decimal that lies between the half-way points around a number is read as the number. -/
theorem ofDecimal_eq (negative : Bool) {m digits : Nat} {unit exponent : Int}
    (hc : Canonical m unit) (hdigits : digits < 10 ^ 22)
    (hin : (readBack m unit).Has (digits * 10 ^ exponent)) :
    ofDecimal negative digits exponent = finite (ofParts negative m unit) := by
  have hlow := has_readBack_low hin
  have hhigh := has_readBack_high hin
  have hm : (1 : ℚ) ≤ m := by exact_mod_cast hc.pos
  have hsmallest := hc.smallest
  have hlargest := hc.largest
  have hpos : 0 < digits := by
    by_contra h
    rw [Nat.eq_zero_of_not_pos h, Nat.cast_zero, zero_mul] at hlow
    have : (0 : ℚ) < (4 * m - 2) * 2 ^ (unit - 2) := mul_pos (by linarith) (by positivity)
    linarith
  have hlog : digits.log2 < 1099 := by
    rw [Nat.log2_lt hpos.ne']
    exact hdigits.trans (by decide +kernel)
  obtain ⟨hlogten, -⟩ := zpow_two_bounds (e := digits.log2) (by omega) (by omega)
  obtain ⟨-, htwo⟩ := zpow_two_bounds (e := digits.log2 + 1) (by omega) (by omega)
  have hsize : (10 : ℚ) ^ ((digits.log2 : Int) * 30103 / 100000 + exponent) ≤ digits * 10 ^ exponent := by
    rw [zpow_add₀ (by norm_num)]
    exact mul_le_mul_of_nonneg_right (hlogten.trans (zpow_log2_le hpos)) (by positivity)
  have hsize' : (digits * 10 ^ exponent : ℚ) <
      10 ^ ((digits.log2 : Int) * 30103 / 100000 + 2 + exponent) := by
    rw [zpow_add₀ (by norm_num)]
    refine mul_lt_mul_of_pos_right ((lt_zpow_log2 digits).trans_le (htwo.trans ?_)) (by positivity)
    exact zpow_le_zpow_right₀ (by norm_num) (by omega)
  have hten : (1 : ℚ) < 10 := by norm_num
  have hnotLarge : ¬ 320 < (digits.log2 : Int) * 30103 / 100000 + exponent := by
    have htop : (2 : ℚ) ^ (unit + 53) ≤ 2 ^ ((1024 : Nat) : Int) :=
      zpow_le_zpow_right₀ (by norm_num) (by push_cast; omega)
    have := (zpow_lt_zpow_iff_right₀ hten).1
      (((hsize.trans hhigh).trans_lt (hc.lt.trans_le htop)).trans zpow_two_1024_lt)
    omega
  have hnotSmall : ¬ (digits.log2 : Int) * 30103 / 100000 + exponent < -400 := by
    have hbottom : (2 : ℚ) ^ (-((1075 : Nat) : Int)) ≤ (4 * m - 2) * 2 ^ (unit - 2) :=
      calc (2 : ℚ) ^ (-((1075 : Nat) : Int)) = 2 * 2 ^ (-1076 : Int) := by
            rw [← zpow_one_add₀ (by norm_num)]; rfl
        _ ≤ (4 * m - 2) * 2 ^ (unit - 2) := by
            gcongr
            · linarith
            · linarith
            · norm_num
            · omega
    have := (zpow_lt_zpow_iff_right₀ hten).1
      ((lt_zpow_two_1075.trans_le (hbottom.trans hlow)).trans hsize')
    omega
  unfold ofDecimal
  simp only
  rw [if_neg hpos.ne', if_neg hnotLarge, if_neg hnotSmall]
  split
  · rename_i h
    refine ofFraction_eq negative hc (by decide) ?_
    push_cast
    rw [div_one, tenTo_of_nonneg h]
    exact hin
  · rename_i h
    refine ofFraction_eq negative hc (tenTo_pos _) ?_
    rw [tenTo_of_nonneg (by omega), zpow_neg, div_inv_eq_mul]
    exact hin

/-- Two ways to write the same positive number have the same number of units. -/
theorem abs_toRat_ofParts (negative : Bool) (m : Nat) (unit : Int) :
    |(ofParts negative m unit).toRat| = m * 2 ^ unit := by
  have hpos : (0 : ℚ) ≤ m * 2 ^ unit := by positivity
  rw [toRat_ofParts]
  cases negative
  · exact abs_of_nonneg hpos
  · rw [if_pos rfl, neg_mul, abs_neg, abs_of_nonneg hpos]

/-- Every number but zero is written as its sign and a decimal, and all ways to write this decimal are
read as the number. -/
theorem Sound.render {n k : Int} {hodd : n % 2 = 1} (hs : Sound (finite (.ofOdd n k hodd)))
    (infinity notANumber : Text) :
    ∃ d : Decimal, renderWith infinity notANumber (finite (.ofOdd n k hodd)) =
        (if n < 0 then ("-" : Text) else []) ++ d.render Layout.short ∧
      0 < d.digits ∧ d.digits < 10 ^ 22 ∧
      ∀ digits : Nat, ∀ exponent : Int, digits < 10 ^ 22 →
        (digits * 10 ^ exponent : ℚ) = d.digits * 10 ^ d.exponent →
        ofDecimal (decide (n < 0)) digits exponent = finite (.ofOdd n k hodd) := by
  rcases hs with hzero | ⟨negative, m, unit, hc, hx⟩
  · cases hzero
  have hvalue : (Dyadic.ofOdd n k hodd).toRat = n * 2 ^ (-k) := Dyadic.toRat_ofOdd_eq_mul_two_pow
  have hunit : (0 : ℚ) < 2 ^ unit := by positivity
  have hk : (0 : ℚ) < 2 ^ (-k) := by positivity
  have hm : (0 : ℚ) < m := by exact_mod_cast hc.pos
  have hnegative : negative = decide (n < 0) := by
    have hparts := toRat_ofParts negative m unit
    rw [← hx, hvalue] at hparts
    cases negative
    · rw [eq_comm, decide_eq_false_iff_not, not_lt]
      have : (0 : ℚ) ≤ n * 2 ^ (-k) := by rw [hparts]; positivity
      exact_mod_cast nonneg_of_mul_nonneg_left this hk
    · rw [eq_comm, decide_eq_true_eq]
      have : (n * 2 ^ (-k) : ℚ) < 0 := by
        rw [hparts, if_pos rfl, neg_mul, neg_lt_zero]
        positivity
      exact_mod_cast neg_of_mul_neg_left this hk.le
  have habs : (n.natAbs * 2 ^ (-k) : ℚ) = m * 2 ^ unit := by
    rw [← abs_toRat_ofParts negative m unit, ← hx, hvalue, abs_mul, abs_of_pos hk, Nat.cast_natAbs,
      Int.cast_abs]
  have hspec : ∃ num den : Nat, 0 < den ∧ (num / den : ℚ) = m * 2 ^ unit ∧
      (if 0 ≤ k then shortest n.natAbs (twoTo k) else shortest (n.natAbs * twoTo (-k)) 1) =
        shortest num den := by
    split
    · rename_i h
      refine ⟨n.natAbs, twoTo k, twoTo_pos k, ?_, rfl⟩
      rw [← habs, twoTo_of_nonneg h, zpow_neg, div_eq_mul_inv]
    · rename_i h
      refine ⟨n.natAbs * twoTo (-k), 1, by decide, ?_, rfl⟩
      rw [← habs, Nat.cast_one, div_one, Nat.cast_mul, twoTo_of_nonneg (by omega)]
  obtain ⟨num, den, hden, hquot, hshortest⟩ := hspec
  obtain ⟨hhas, hpos, hsmall⟩ := hc.shortest_spec hden hquot
  refine ⟨shortest num den, ?_, hpos, hsmall, fun digits exponent hdigits hsame => ?_⟩
  · unfold renderWith
    simp only [hshortest]
  · rw [ofDecimal_eq _ hc hdigits (by rw [hsame]; exact hhas), hx, hnegative]

end Binary64
end Intake
