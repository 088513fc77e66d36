import Intake.Json.Printer
import Intake.Json.Reader
import Intake.Proofs.Number.Shortest
import Intake.Proofs.Text.Digits

/-!
# Numerals

A number in a JSON text is a whole part, digits after a point if there are any, and a power of ten if
there is one:

        whole   . places   e ± power
        -----   --------   ---------
        always  optional   optional

The reader takes a numeral apart into these three, and every shortest decimal is laid out as one, so
a number that is written is read as itself, whatever follows it that is no part of a number.
-/

namespace Intake

namespace Json

/-- What follows does not go on with digits. -/
def NoDigit (t : Text) : Prop := ∀ c ∈ t.head?, c.isDigit = false

/-- What follows does not go on with a number. -/
def Ends (t : Text) : Prop := ∀ c ∈ t.head?, c.isDigit = false ∧ c ≠ 46 ∧ c ≠ 101 ∧ c ≠ 69

theorem Ends.nil : Ends [] := by simp [Ends]

theorem Ends.noDigit {t : Text} (h : Ends t) : NoDigit t := fun c hc => (h c hc).1

theorem noDigit_cons {c : CodePoint} {t : Text} (h : c.isDigit = false) : NoDigit (c :: t) := by
  rintro d hd
  obtain rfl : c = d := by simpa using hd
  exact h

/-- The digits at the front of a text are those before the first other code point. -/
theorem spanDigits_append {ds t : Text} (hd : ds.all CodePoint.isDigit = true) (ht : NoDigit t) :
    spanDigits (ds ++ t) = (ds, t) := by
  rw [List.all_eq_true] at hd
  have hrest : t.takeWhile CodePoint.isDigit = [] ∧ t.dropWhile CodePoint.isDigit = t := by
    cases t with
    | nil => exact ⟨rfl, rfl⟩
    | cons c t =>
      have hc := ht c (by simp)
      simp [hc]
  rw [spanDigits, List.takeWhile_append_of_pos hd, List.dropWhile_append_of_pos hd, hrest.1, hrest.2,
    List.append_nil]

/-! ### Taking a numeral apart -/

/-- A number as it stands in a text. -/
structure Numeral where
  whole : Text
  places : Option Text
  power : Option (Bool × Text)

namespace Numeral

/-- The digits after the point with the point. -/
def placesText : Option Text → Text
  | none => []
  | some ds => 46 :: ds

/-- The power of ten with its letter and sign. -/
def powerText : Option (Bool × Text) → Text
  | none => []
  | some (negative, ds) => 101 :: (if negative then 45 else 43) :: ds

/-- The text of a numeral. -/
def text (n : Numeral) : Text := n.whole ++ (placesText n.places ++ powerText n.power)

/-- All digits as one number. -/
def digits (n : Numeral) : Nat := Text.digitsValue (n.whole ++ n.places.getD [])

/-- The value of the power of ten. -/
def powerValue : Option (Bool × Text) → Int
  | none => 0
  | some (negative, ds) => if negative then -(Text.digitsValue ds : Int) else Text.digitsValue ds

/-- The power of ten of the last digit. -/
def exponent (n : Numeral) : Int := powerValue n.power - (n.places.getD []).length

/-- Digits stand where they must, and only a lone zero begins with zero. -/
structure WellFormed (n : Numeral) : Prop where
  whole : n.whole = [48] ∨ n.whole ≠ [] ∧ n.whole.all CodePoint.isDigit = true ∧
    n.whole.head? ≠ some 48
  places : ∀ ds ∈ n.places, ds ≠ [] ∧ ds.all CodePoint.isDigit = true
  power : ∀ e ∈ n.power, e.2 ≠ [] ∧ e.2.all CodePoint.isDigit = true

/-- The whole part at the front of a text, and the rest. -/
def wholePart (t : Text) : Text × Text :=
  match t with
  | c :: rest => if c = 48 then ([c], rest) else spanDigits t
  | [] => ([], [])

theorem wholePart_append {n : Numeral} (h : n.WellFormed) {t : Text} (ht : NoDigit t) :
    wholePart (n.whole ++ t) = (n.whole, t) := by
  rcases h.whole with hzero | ⟨hne, hall, hhead⟩
  · rw [hzero]; rfl
  · cases hw : n.whole with
    | nil => exact absurd hw hne
    | cons c ds =>
      rw [hw] at hall hhead
      have hc : c ≠ 48 := by simpa using hhead
      rw [List.cons_append, wholePart, if_neg hc, ← List.cons_append, spanDigits_append hall ht]

theorem noDigit_powerText (e : Option (Bool × Text)) {t : Text} (ht : NoDigit t) :
    NoDigit (powerText e ++ t) := by
  cases e with
  | none => exact ht
  | some e => exact noDigit_cons (by decide)

theorem noDigit_placesText (p : Option Text) {t : Text} (ht : NoDigit t) :
    NoDigit (placesText p ++ t) := by
  cases p with
  | none => exact ht
  | some p => exact noDigit_cons (by decide)

/-- What follows the whole part is no point unless there are digits after it. -/
theorem readFraction_eq {n : Numeral} (h : n.WellFormed) {t : Text} (ht : NoDigit t)
    (hpoint : ∀ c ∈ t.head?, c ≠ 46) :
    readFraction (placesText n.places ++ t) = n.places.map fun ds => (ds, t) := by
  cases hp : n.places with
  | none =>
    cases t with
    | nil => rfl
    | cons c t =>
      have hc : c ≠ 46 := hpoint c (by simp)
      simp [placesText, readFraction, hc]
  | some ds =>
    obtain ⟨hne, hall⟩ := h.places ds hp
    rw [placesText, List.cons_append, readFraction, spanDigits_append hall ht, if_pos ⟨rfl, hne⟩]
    rfl

theorem readExponent_eq {n : Numeral} (h : n.WellFormed) {t : Text} (ht : Ends t) :
    readExponent (powerText n.power ++ t) = n.power.map fun _ => (powerValue n.power, t) := by
  cases he : n.power with
  | none =>
    cases t with
    | nil => rfl
    | cons c t =>
      have hc := ht c (by simp)
      simp [powerText, readExponent, hc.2.2.1, hc.2.2.2]
  | some e =>
    obtain ⟨negative, ds⟩ := e
    obtain ⟨hne, hall⟩ := h.power _ he
    simp only at hne hall
    cases negative
    · simp [powerText, readExponent, spanDigits_append hall ht.noDigit, hne, powerValue]
    · simp [powerText, readExponent, spanDigits_append hall ht.noDigit, hne, powerValue]

theorem readMagnitude_eq (negative : Bool) (t : Text) :
    readMagnitude negative t =
      if (wholePart t).1 = [] then none
      else
        let fraction := readFraction (wholePart t).2
        let afterFraction := (fraction.map (·.2)).getD (wholePart t).2
        let exponent := readExponent afterFraction
        let rest := (exponent.map (·.2)).getD afterFraction
        match fraction, exponent with
        | none, none =>
          let n : Int := Text.digitsValue (wholePart t).1
          some (.int (if negative then -n else n), rest)
        | _, _ =>
          let places := (fraction.map (·.1)).getD []
          some (.real (Binary64.ofDecimal negative (Text.digitsValue ((wholePart t).1 ++ places))
            (((exponent.map (·.1)).getD 0) - places.length)), rest) := by
  cases t <;> rfl

/-- A numeral is read as a whole number if it has neither places nor a power, and else as a
floating-point number. -/
theorem readMagnitude_text {n : Numeral} (h : n.WellFormed) (negative : Bool) {t : Text}
    (ht : Ends t) :
    readMagnitude negative (n.text ++ t) =
      if n.places.isNone && n.power.isNone then
        some (.int (if negative then -(n.digits : Int) else n.digits), t)
      else some (.real (Binary64.ofDecimal negative n.digits n.exponent), t) := by
  have hpower : ∀ c ∈ (powerText n.power ++ t).head?, c ≠ 46 := by
    intro c hc
    cases he : n.power with
    | none => rw [he] at hc; exact (ht c hc).2.1
    | some e =>
      rw [he] at hc
      obtain rfl : 101 = c := by simpa [powerText] using hc
      decide
  have hwhole : wholePart (n.text ++ t) = (n.whole, placesText n.places ++ (powerText n.power ++ t)) := by
    rw [text, List.append_assoc, List.append_assoc]
    exact wholePart_append h (noDigit_placesText _ (noDigit_powerText _ ht.noDigit))
  have hfraction := readFraction_eq h (noDigit_powerText n.power ht.noDigit) hpower
  have hexponent := readExponent_eq h ht
  have hne : n.whole ≠ [] := by
    rcases h.whole with hzero | ⟨hne, -⟩
    · simp [hzero]
    · exact hne
  rw [readMagnitude_eq, hwhole, if_neg hne]
  simp only [hfraction]
  cases hp : n.places with
  | none =>
    simp only [Option.map_none, Option.getD_none, placesText, List.nil_append, hexponent]
    cases he : n.power with
    | none => simp [digits, hp, powerText]
    | some e => simp [digits, exponent, hp, he]
  | some ds =>
    simp only [Option.map_some, Option.getD_some, hexponent]
    cases he : n.power with
    | none => simp [digits, exponent, hp, he, powerText, powerValue]
    | some e => simp [digits, exponent, hp, he]

/-! ### Decimals as numerals -/

open Binary64

/-- The digits of a power of ten, at least two of them. -/
def padded (n : Nat) : Text :=
  if (Text.ofNat n).length < 2 then 48 :: Text.ofNat n else Text.ofNat n

/-- The numeral that a shortest decimal is laid out as. -/
def ofDecimal (d : Decimal) : Numeral :=
  let ds := Text.ofNat d.digits
  let leading : Int := d.exponent + ds.length - 1
  if Layout.short.positional leading then
    if 0 ≤ d.exponent then ⟨ds ++ List.replicate d.exponent.toNat 48, some [48], none⟩
    else if 0 ≤ leading then
      ⟨ds.take (leading.toNat + 1), some (ds.drop (leading.toNat + 1)), none⟩
    else ⟨[48], some (List.replicate (-leading - 1).toNat 48 ++ ds), none⟩
  else ⟨ds.take 1, if ds.length = 1 then none else some (ds.drop 1),
    some (decide (leading < 0), padded leading.natAbs)⟩

theorem render_eq_text (d : Decimal) : d.render Layout.short = (ofDecimal d).text := by
  have hpoint : ((".0" : Text), ("." : Text), ("0." : Text)) = ([46, 48], [46], [48, 46]) := by
    decide
  have hletter : (("e-" : Text), ("e+" : Text)) = ([101, 45], [101, 43]) := by decide
  simp only [Prod.mk.injEq] at hpoint hletter
  unfold Decimal.render ofDecimal
  simp only [hpoint, hletter]
  generalize d.exponent + ((Text.ofNat d.digits).length : Int) - 1 = leading
  split
  · split
    · simp [text, placesText, powerText]
    · split
      · simp [text, placesText, powerText]
      · simp [text, placesText, powerText]
  · have hmantissa : Layout.short.mantissa (Text.ofNat d.digits) = (Text.ofNat d.digits).take 1 ++
        placesText (if (Text.ofNat d.digits).length = 1 then none
          else some ((Text.ofNat d.digits).drop 1)) := by
      unfold Layout.mantissa
      by_cases h : (Text.ofNat d.digits).length = 1
      · have htake : (Text.ofNat d.digits).take 1 = Text.ofNat d.digits :=
          List.take_of_length_le h.le
        simp [h, htake, placesText, Layout.short]
      · simp [h, placesText, hpoint]
    rw [hmantissa]
    by_cases hneg : leading < 0 <;> simp [text, powerText, padded, hneg]

theorem all_isDigit_padded (n : Nat) : (padded n).all CodePoint.isDigit = true := by
  unfold padded
  split
  · rw [List.all_cons, Text.all_isDigit_ofNat]; rfl
  · exact Text.all_isDigit_ofNat n

theorem digitsValue_padded (n : Nat) : Text.digitsValue (padded n) = n := by
  unfold padded
  split
  · rw [← List.singleton_append, Text.digitsValue_append, Text.digitsValue_ofNat]
    simp [Text.digitsValue, CodePoint.digitValue]
  · exact Text.digitsValue_ofNat n

theorem all_isDigit_zeros (k : Nat) :
    (List.replicate k (48 : CodePoint)).all CodePoint.isDigit = true := by
  rw [List.all_eq_true]
  intro c hc
  rw [List.eq_of_mem_replicate hc]
  rfl

/-- The first digits of a positive number are digits that do not begin with a zero. -/
theorem take_ofNat {n : Nat} (hn : 0 < n) (k : Nat) : (Text.ofNat n).take (k + 1) ≠ [] ∧
    ((Text.ofNat n).take (k + 1)).all CodePoint.isDigit = true ∧
    ((Text.ofNat n).take (k + 1)).head? ≠ some 48 := by
  refine ⟨?_, ?_, ?_⟩
  · rw [Ne, List.take_eq_nil_iff]
    exact not_or.2 ⟨by omega, Text.ofNat_ne_nil n⟩
  · have hall := Text.all_isDigit_ofNat n
    rw [List.all_eq_true] at hall ⊢
    intro c hc
    exact hall c (List.mem_of_mem_take hc)
  · rw [List.head?_take, if_neg (by omega)]
    exact Text.head?_ofNat_ne_zero hn.ne'

/-- Its other digits are digits. -/
theorem drop_ofNat {n k : Nat} (hk : k < (Text.ofNat n).length) : (Text.ofNat n).drop k ≠ [] ∧
    ((Text.ofNat n).drop k).all CodePoint.isDigit = true := by
  refine ⟨?_, ?_⟩
  · rw [Ne, List.drop_eq_nil_iff]
    omega
  · have hall := Text.all_isDigit_ofNat n
    rw [List.all_eq_true] at hall ⊢
    intro c hc
    exact hall c (List.mem_of_mem_drop hc)

theorem wellFormed_ofDecimal {d : Decimal} (hd : 0 < d.digits) : (ofDecimal d).WellFormed := by
  have hne := Text.ofNat_ne_nil d.digits
  have hall := Text.all_isDigit_ofNat d.digits
  have hlength : 0 < (Text.ofNat d.digits).length := List.length_pos_of_ne_nil hne
  unfold ofDecimal
  simp only
  split
  · rename_i hpositional
    rw [Layout.positional, Bool.and_eq_true, decide_eq_true_eq, decide_eq_true_eq] at hpositional
    split
    · refine ⟨.inr ⟨by simp [hne], by rw [List.all_append, hall, all_isDigit_zeros]; rfl, ?_⟩, ?_,
        by simp⟩
      · rw [List.head?_append_of_ne_nil _ hne]
        exact Text.head?_ofNat_ne_zero hd.ne'
      · rintro ds hds
        obtain rfl : [48] = ds := by simpa using hds
        decide
    · split
      · refine ⟨.inr (take_ofNat hd _), ?_, by simp⟩
        rintro ds hds
        obtain rfl := Option.some.inj hds
        exact drop_ofNat (by omega)
      · refine ⟨.inl rfl, ?_, by simp⟩
        rintro ds hds
        obtain rfl := Option.some.inj hds
        exact ⟨by simp [hne], by rw [List.all_append, hall, all_isDigit_zeros]; rfl⟩
  · refine ⟨.inr (take_ofNat hd 0), ?_, ?_⟩
    · rintro ds hds
      split at hds
      · cases hds
      · obtain rfl := Option.some.inj hds
        exact drop_ofNat (by omega)
    · rintro e he
      obtain rfl := Option.some.inj he
      refine ⟨?_, all_isDigit_padded _⟩
      unfold padded
      split
      · simp
      · exact Text.ofNat_ne_nil _

/-- No numeral of a decimal is read as a whole number. -/
theorem isReal_ofDecimal (d : Decimal) :
    ((ofDecimal d).places.isNone && (ofDecimal d).power.isNone) = false := by
  unfold ofDecimal
  simp only
  split
  · split
    · rfl
    · split <;> rfl
  · simp

/-- Zeros at the end of the digits and one after the point multiply the number. -/
theorem digits_zeros (n e : Nat) :
    digits ⟨Text.ofNat n ++ List.replicate e 48, some [48], none⟩ = n * 10 ^ (e + 1) := by
  have hzeros : List.replicate e (48 : CodePoint) ++ [48] = List.replicate (e + 1) 48 := by
    rw [List.replicate_succ']
  rw [digits, Option.getD_some, List.append_assoc, hzeros, Text.digitsValue_append,
    Text.digitsValue_replicate_zero, Text.digitsValue_ofNat, List.length_replicate, Nat.add_zero]

/-- Zeros in front of the digits do not count. -/
theorem digits_leading_zeros (n k : Nat) :
    digits ⟨[48], some (List.replicate k 48 ++ Text.ofNat n), none⟩ = n := by
  have hzeros : [(48 : CodePoint)] ++ List.replicate k 48 = List.replicate (k + 1) 48 := by
    rw [List.replicate_succ]; rfl
  rw [digits, Option.getD_some, ← List.append_assoc, hzeros, Text.digitsValue_append,
    Text.digitsValue_replicate_zero, Text.digitsValue_ofNat, Nat.zero_mul, Nat.zero_add]

/-- A leading power is written with its sign and at least two digits. -/
theorem powerValue_padded (leading : Int) :
    powerValue (some (decide (leading < 0), padded leading.natAbs)) = leading := by
  rw [powerValue, digitsValue_padded]
  by_cases h : leading < 0
  · simp only [h, decide_true, if_true]; omega
  · simp only [h, decide_false, Bool.false_eq_true, if_false]; omega

/-- The numeral of a decimal has its value, perhaps with more zeros at the end. -/
theorem value_ofDecimal {d : Decimal} (hd : d.digits < 10 ^ 22) :
    (ofDecimal d).digits < 10 ^ 22 ∧ ((ofDecimal d).digits * 10 ^ (ofDecimal d).exponent : ℚ) =
      d.digits * 10 ^ d.exponent := by
  have hlength := Text.lt_pow_length_ofNat d.digits
  have hsame {n : Numeral} (h₁ : n.digits = d.digits) (h₂ : n.exponent = d.exponent) :
      n.digits < 10 ^ 22 ∧ (n.digits * 10 ^ n.exponent : ℚ) = d.digits * 10 ^ d.exponent := by
    rw [h₁, h₂]
    exact ⟨hd, rfl⟩
  unfold ofDecimal
  simp only
  split
  · rename_i hpositional
    rw [Layout.positional, Bool.and_eq_true, decide_eq_true_eq, decide_eq_true_eq] at hpositional
    have hlimit := hpositional.2
    simp only [Layout.short] at hlimit
    split
    · rename_i hexp
      obtain ⟨e, he⟩ := Int.eq_ofNat_of_zero_le hexp
      have hdigits := digits_zeros d.digits e
      have hcount : d.exponent.toNat = e := by omega
      have hexponent : exponent ⟨Text.ofNat d.digits ++ List.replicate d.exponent.toNat 48, some [48],
          none⟩ = -1 := rfl
      rw [hexponent, hcount, hdigits, he]
      refine ⟨?_, ?_⟩
      · calc d.digits * 10 ^ (e + 1) < 10 ^ (Text.ofNat d.digits).length * 10 ^ (e + 1) :=
              Nat.mul_lt_mul_of_pos_right hlength (Nat.pow_pos (by decide))
          _ = 10 ^ ((Text.ofNat d.digits).length + (e + 1)) := (Nat.pow_add _ _ _).symm
          _ ≤ 10 ^ 22 := Nat.pow_le_pow_right (by decide) (by omega)
      · rw [zpow_natCast, zpow_neg_one]
        push_cast
        rw [pow_succ]
        ring
    · split
      · refine hsame ?_ ?_
        · simp [digits, List.take_append_drop]
        · simp [exponent, powerValue]; omega
      · refine hsame ?_ ?_
        · exact digits_leading_zeros _ _
        · simp [exponent, powerValue]; omega
  · generalize hleading : d.exponent + ((Text.ofNat d.digits).length : Int) - 1 = leading
    have hne := List.length_pos_of_ne_nil (Text.ofNat_ne_nil d.digits)
    refine hsame ?_ ?_
    · by_cases h : (Text.ofNat d.digits).length = 1
      · simp [digits, h, List.take_of_length_le h.le]
      · simp only [digits, h, if_false, Option.getD_some, List.take_append_drop,
          Text.digitsValue_ofNat]
    · rw [exponent, powerValue_padded]
      by_cases h : (Text.ofNat d.digits).length = 1
      · simp [h]; omega
      · simp [h]; omega

/-- A shortest decimal is read as the floating-point number that has its value. -/
theorem readMagnitude_render {d : Decimal} (hpos : 0 < d.digits) (negative : Bool) {t : Text}
    (ht : Ends t) :
    readMagnitude negative (d.render Layout.short ++ t) =
      some (.real (Binary64.ofDecimal negative (ofDecimal d).digits (ofDecimal d).exponent), t) := by
  rw [render_eq_text, readMagnitude_text (wellFormed_ofDecimal hpos) negative ht, isReal_ofDecimal]
  rfl

/-- The digits of a whole number are read as the number. -/
theorem readMagnitude_ofNat (n : Nat) (negative : Bool) {t : Text} (ht : Ends t) :
    readMagnitude negative (Text.ofNat n ++ t) =
      some (.int (if negative then -(n : Int) else n), t) := by
  have hwell : WellFormed ⟨Text.ofNat n, none, none⟩ := by
    refine ⟨?_, by simp, by simp⟩
    rcases Nat.eq_zero_or_pos n with rfl | hn
    · exact .inl (by rw [Text.ofNat_of_lt (by decide)]; rfl)
    · exact .inr ⟨Text.ofNat_ne_nil n, Text.all_isDigit_ofNat n, Text.head?_ofNat_ne_zero hn.ne'⟩
  have h := readMagnitude_text hwell negative ht
  have htext : text ⟨Text.ofNat n, none, none⟩ = Text.ofNat n := by simp [text, placesText, powerText]
  have hdigits : digits ⟨Text.ofNat n, none, none⟩ = n := by simp [digits]
  rw [htext, hdigits] at h
  exact h

end Numeral

end Json
end Intake
