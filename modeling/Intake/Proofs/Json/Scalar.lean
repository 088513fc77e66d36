import Intake.Proofs.Json.Numeral

/-!
# Words and numbers

What is neither a string nor a container is a word or a number. The six words begin differently from
numbers, except that `-Infinity` begins with the sign of a number; there the second code point decides.
A whole number is read as itself whatever its size, and a floating-point number as itself if it is one
of the numbers of 53 binary digits.
-/

namespace Intake.Json

/-- The words by their code points. -/
theorem words_eq :
    ("null" : Text) = [110, 117, 108, 108] ∧ ("true" : Text) = [116, 114, 117, 101] ∧
    ("false" : Text) = [102, 97, 108, 115, 101] ∧ ("NaN" : Text) = [78, 97, 78] ∧
    ("Infinity" : Text) = [73, 110, 102, 105, 110, 105, 116, 121] ∧
    ("-Infinity" : Text) = [45, 73, 110, 102, 105, 110, 105, 116, 121] := by decide

theorem afterWord_append (word t : Text) : afterWord word (word ++ t) = some t := by
  simp [afterWord]

theorem afterWord_of_head {w c : CodePoint} {word t : Text} (h : w ≠ c) :
    afterWord (w :: word) (c :: t) = none := by
  simp [afterWord, h]

theorem afterWord_of_second {w c d : CodePoint} {word t : Text} (h : d ≠ c) :
    afterWord (w :: d :: word) (w :: c :: t) = none := by
  simp [afterWord, h]

/-! ### Words -/

@[simp] theorem readScalar_null (t : Text) : readScalar ("null" ++ t) = some (.null, t) := by
  rw [readScalar.eq_def, afterWord_append]

@[simp] theorem readScalar_true (t : Text) : readScalar ("true" ++ t) = some (.bool true, t) := by
  obtain ⟨hnull, htrue, -⟩ := words_eq
  have h : afterWord "null" ("true" ++ t) = none := by
    rw [hnull, htrue]; exact afterWord_of_head (by decide)
  rw [readScalar.eq_def, h, afterWord_append]

@[simp] theorem readScalar_false (t : Text) : readScalar ("false" ++ t) = some (.bool false, t) := by
  obtain ⟨hnull, htrue, hfalse, -⟩ := words_eq
  have h₁ : afterWord "null" ("false" ++ t) = none := by
    rw [hnull, hfalse]; exact afterWord_of_head (by decide)
  have h₂ : afterWord "true" ("false" ++ t) = none := by
    rw [htrue, hfalse]; exact afterWord_of_head (by decide)
  rw [readScalar.eq_def, h₁, h₂, afterWord_append]

/-- What begins with none of the first letters of `null`, `true` and `false`. -/
theorem readScalar_of_head {c : CodePoint} {t : Text} (h : c ≠ 110 ∧ c ≠ 116 ∧ c ≠ 102) :
    readScalar (c :: t) =
      match afterWord "NaN" (c :: t) with
      | some rest => some (.real .nan, rest)
      | none =>
      match afterWord "Infinity" (c :: t) with
      | some rest => some (.real (.infinite false), rest)
      | none =>
      match afterWord "-Infinity" (c :: t) with
      | some rest => some (.real (.infinite true), rest)
      | none => if c = 45 then readMagnitude true t else readMagnitude false (c :: t) := by
  obtain ⟨hnull, htrue, hfalse, -⟩ := words_eq
  have h₁ : afterWord "null" (c :: t) = none := by rw [hnull]; exact afterWord_of_head h.1.symm
  have h₂ : afterWord "true" (c :: t) = none := by rw [htrue]; exact afterWord_of_head h.2.1.symm
  have h₃ : afterWord "false" (c :: t) = none := by rw [hfalse]; exact afterWord_of_head h.2.2.symm
  have heq := readScalar.eq_def (c :: t)
  rw [h₁, h₂, h₃] at heq
  exact heq

@[simp] theorem readScalar_nan (t : Text) : readScalar ("NaN" ++ t) = some (.real .nan, t) := by
  have h := afterWord_append "NaN" t
  obtain ⟨-, -, -, hnan, -⟩ := words_eq
  rw [hnan, List.cons_append] at h ⊢
  rw [readScalar_of_head (by decide), hnan, h]

@[simp] theorem readScalar_infinity (t : Text) :
    readScalar ("Infinity" ++ t) = some (.real (.infinite false), t) := by
  have h := afterWord_append "Infinity" t
  obtain ⟨-, -, -, hnan, hinf, -⟩ := words_eq
  rw [hinf, List.cons_append] at h ⊢
  rw [readScalar_of_head (by decide), hnan, afterWord_of_head (by decide), hinf, h]

@[simp] theorem readScalar_minus_infinity (t : Text) :
    readScalar ("-Infinity" ++ t) = some (.real (.infinite true), t) := by
  have h := afterWord_append "-Infinity" t
  obtain ⟨-, -, -, hnan, hinf, hminus⟩ := words_eq
  rw [hminus, List.cons_append] at h ⊢
  rw [readScalar_of_head (by decide), hnan, afterWord_of_head (by decide), hinf,
    afterWord_of_head (by decide), hminus, h]

/-! ### Numbers -/

theorem ne_of_isDigit {c d : CodePoint} (hc : c.isDigit = true) (hd : d.isDigit = false) : c ≠ d := by
  rintro rfl
  rw [hc] at hd
  cases hd

theorem readScalar_of_digit {c : CodePoint} (hc : c.isDigit = true) (t : Text) :
    readScalar (c :: t) = readMagnitude false (c :: t) := by
  have hne {d : CodePoint} (hd : d.isDigit = false) : c ≠ d := ne_of_isDigit hc hd
  obtain ⟨-, -, -, hnan, hinf, hminus⟩ := words_eq
  rw [readScalar_of_head ⟨hne (by decide), hne (by decide), hne (by decide)⟩, hnan,
    afterWord_of_head (hne (by decide)).symm, hinf, afterWord_of_head (hne (by decide)).symm, hminus,
    afterWord_of_head (hne (by decide)).symm]
  simp only
  rw [if_neg (hne (by decide))]

theorem readScalar_minus_digit {c : CodePoint} (hc : c.isDigit = true) (t : Text) :
    readScalar (45 :: c :: t) = readMagnitude true (c :: t) := by
  obtain ⟨-, -, -, hnan, hinf, hminus⟩ := words_eq
  rw [readScalar_of_head (by decide), hnan, afterWord_of_head (by decide), hinf,
    afterWord_of_head (by decide), hminus,
    afterWord_of_second (ne_of_isDigit hc (by decide)).symm]
  rfl

/-- The first digit of a text of digits. -/
theorem exists_digit {t : Text} (hne : t ≠ []) (hall : t.all CodePoint.isDigit = true) :
    ∃ c rest, t = c :: rest ∧ c.isDigit = true := by
  cases t with
  | nil => exact absurd rfl hne
  | cons c rest =>
    rw [List.all_cons, Bool.and_eq_true] at hall
    exact ⟨c, rest, rfl, hall.1⟩

theorem Numeral.exists_digit {n : Numeral} (h : n.WellFormed) :
    ∃ c rest, n.text = c :: rest ∧ c.isDigit = true := by
  have hwhole : n.whole ≠ [] ∧ n.whole.all CodePoint.isDigit = true := by
    rcases h.whole with hzero | ⟨hne, hall, -⟩
    · rw [hzero]; exact ⟨by simp, rfl⟩
    · exact ⟨hne, hall⟩
  obtain ⟨c, rest, hc, hdigit⟩ := Json.exists_digit hwhole.1 hwhole.2
  exact ⟨c, rest ++ (placesText n.places ++ powerText n.power), by rw [Numeral.text, hc]; rfl, hdigit⟩

/-- A text that begins with a digit, after a minus sign if the number is negative. -/
theorem readScalar_signed {c : CodePoint} {t : Text} (hc : c.isDigit = true) (negative : Bool) :
    readScalar ((if negative then ("-" : Text) else []) ++ c :: t) =
      readMagnitude negative (c :: t) := by
  cases negative
  · exact readScalar_of_digit hc t
  · exact readScalar_minus_digit hc t

/-- A whole number is read as itself. -/
theorem readScalar_ofInt (n : Int) {t : Text} (ht : Ends t) :
    readScalar (Text.ofInt n ++ t) = some (.int n, t) := by
  obtain ⟨c, rest, hc, hdigit⟩ :=
    exists_digit (Text.ofNat_ne_nil n.natAbs) (Text.all_isDigit_ofNat n.natAbs)
  have htext : Text.ofInt n = (if decide (n < 0) then ("-" : Text) else []) ++ Text.ofNat n.natAbs := by
    cases n with
    | ofNat n => rfl
    | negSucc n => rw [decide_eq_true (Int.negSucc_lt_zero n)]; rfl
  have hread := Numeral.readMagnitude_ofNat n.natAbs (decide (n < 0)) ht
  rw [hc, List.cons_append] at hread
  rw [htext, hc, List.append_assoc, List.cons_append, readScalar_signed hdigit, hread]
  congr 3
  by_cases h : n < 0
  · simp only [h, decide_true, if_true]; omega
  · simp only [h, decide_false, Bool.false_eq_true, if_false]; omega

/-- A floating-point number is read as itself. -/
theorem readScalar_writeReal {x : Binary64} (hx : x.Sound) {t : Text} (ht : Ends t) :
    readScalar (writeReal x ++ t) = some (.real x, t) := by
  have hzero (negative : Bool) : readMagnitude negative (48 :: 46 :: 48 :: t) =
      some (.real (Binary64.signedZero negative), t) := by
    have hwell : Numeral.WellFormed ⟨[48], some [48], none⟩ :=
      ⟨.inl rfl, by simp [CodePoint.isDigit], by simp⟩
    exact Numeral.readMagnitude_text hwell negative ht
  cases x with
  | nan => exact readScalar_nan t
  | infinite negative =>
    cases negative with
    | false => exact readScalar_infinity t
    | true =>
      have htext : (writeReal (.infinite true)) = "-Infinity" := by decide
      rw [htext]
      exact readScalar_minus_infinity t
  | negZero =>
    have htext : (writeReal .negZero) = [45, 48, 46, 48] := by decide
    rw [htext]
    exact (readScalar_minus_digit (by decide) _).trans (hzero true)
  | finite value =>
    cases value with
    | zero =>
      have htext : (writeReal (.finite .zero)) = [48, 46, 48] := by decide
      rw [htext]
      exact (readScalar_of_digit (by decide) _).trans (hzero false)
    | ofOdd n k hodd =>
      obtain ⟨d, htext, hpos, hsmall, hread⟩ := hx.render "Infinity" "NaN"
      obtain ⟨hdigits, hvalue⟩ := Numeral.value_ofDecimal hsmall
      obtain ⟨c, rest, hc, hdigit⟩ := Numeral.exists_digit (Numeral.wellFormed_ofDecimal hpos)
      have hmagnitude := Numeral.readMagnitude_render hpos (decide (n < 0)) ht
      rw [Numeral.render_eq_text, hc, List.cons_append] at hmagnitude
      have hsigned : writeReal (.finite (.ofOdd n k hodd)) =
          (if decide (n < 0) then ("-" : Text) else []) ++ c :: rest := by
        rw [writeReal, htext, Numeral.render_eq_text, hc]
        simp
      rw [hsigned, List.append_assoc, List.cons_append, readScalar_signed hdigit, hmagnitude,
        hread _ _ hdigits hvalue]

end Intake.Json
