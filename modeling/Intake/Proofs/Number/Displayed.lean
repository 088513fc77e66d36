import Intake.Proofs.Json.Scalar
import Intake.Proofs.Number.Typed
import Intake.Proofs.Text.Pieces

/-!
# Floating-point numbers that were typed as they are displayed

A number is displayed as a numeral behind a minus sign if it is negative, or by the name of a special
value. Nothing in it is white space, a capital or a digit of another script, so what is read generously is
read as it stands:

        -      whole  . places  e ± power
        sign   cut at the point, and before that at the letter

The three parts give the numeral's digits and exponent, from which the same number is made.
-/

namespace Intake

namespace Typed

open Json (Numeral)

/-- What numerals and their signs are made of. -/
def isMark (c : CodePoint) : Bool := c.isDigit || [43, 45, 46, 101].contains c

theorem isMark_of_isDigit {c : CodePoint} (h : c.isDigit = true) : isMark c = true := by
  rw [isMark, h, Bool.true_or]

/-- Marks lie in the ASCII range, apart from white space and capitals. -/
theorem val_of_isMark {c : CodePoint} (h : isMark c = true) : 43 ≤ c.val ∧ c.val ≤ 57 ∨ c.val = 101 := by
  rw [isMark, Bool.or_eq_true, CodePoint.isDigit, Bool.and_eq_true, decide_eq_true_iff,
    decide_eq_true_iff, List.contains_iff_mem] at h
  rcases h with hdigit | hmark
  · omega
  · simp only [List.mem_cons, List.not_mem_nil, or_false] at hmark
    rcases hmark with rfl | rfl | rfl | rfl <;> decide

theorem isBlank_of_isMark {c : CodePoint} (h : isMark c = true) : c.isBlank = false := by
  have hval := val_of_isMark h
  simp only [CodePoint.isBlank, Bool.and_eq_false_iff, Bool.or_eq_false_iff, decide_eq_false_iff_not,
    beq_eq_false_iff_ne]
  omega

/-- Around marks nothing is trimmed, and nothing in them is changed before they are read. -/
theorem real?_of_marks {t : Text} (h : ∀ c ∈ t, isMark c = true) :
    real? (Text.trim t) = magnitude? (signed t).1 (signed t).2 := by
  have hplain : plain t = t := plain_eq_self fun c hc => by
    have hval := val_of_isMark (h c hc)
    rw [CodePoint.isSpace, isBlank_of_isMark (h c hc)]
    exact ⟨rfl, by omega⟩
  have hsub : ∀ c ∈ (signed t).2, c ∈ t := by
    intro c hc
    cases t with
    | nil => exact hc
    | cons d rest =>
      rw [signed] at hc
      split_ifs at hc
      · exact List.mem_cons_of_mem _ hc
      · exact List.mem_cons_of_mem _ hc
      · exact hc
  have hlower : (signed t).2.map CodePoint.asciiLower = (signed t).2 := by
    refine (List.map_congr_left fun c hc => ?_).trans (List.map_id _)
    have hval := val_of_isMark (h c (hsub c hc))
    exact if_neg (by omega)
  rw [Text.trim, Text.stripWhile_of_forall fun c hc => isBlank_of_isMark (h c hc), real?, hplain]
  simp only [hlower]

/-! ### Numerals -/

variable {n : Numeral}

theorem all_whole (h : n.WellFormed) : n.whole ≠ [] ∧ n.whole.all CodePoint.isDigit = true := by
  rcases h.whole with hzero | ⟨hne, hall, -⟩
  · rw [hzero]
    exact ⟨by decide, by decide⟩
  · exact ⟨hne, hall⟩

theorem isMark_of_mem_text (h : n.WellFormed) {c : CodePoint} (hc : c ∈ n.text) : isMark c = true := by
  have hdigits {ds : Text} (hds : ds.all CodePoint.isDigit = true) (hmem : c ∈ ds) : isMark c = true :=
    isMark_of_isDigit (List.all_eq_true.1 hds c hmem)
  rw [Numeral.text, List.mem_append, List.mem_append] at hc
  rcases hc with hwhole | hplaces | hpower
  · exact hdigits (all_whole h).2 hwhole
  · cases hp : n.places with
    | none =>
      rw [hp] at hplaces
      cases hplaces
    | some ds =>
      rw [hp, Numeral.placesText, List.mem_cons] at hplaces
      rcases hplaces with rfl | hmem
      · decide
      · exact hdigits (h.places ds hp).2 hmem
  · cases he : n.power with
    | none =>
      rw [he] at hpower
      cases hpower
    | some e =>
      rw [he, Numeral.powerText, List.mem_cons, List.mem_cons] at hpower
      rcases hpower with rfl | rfl | hmem
      · decide
      · split <;> decide
      · exact hdigits (h.power e he).2 hmem

theorem cutExponent_eq (t : Text) : cutExponent t = Text.cut 101 t := by
  induction t with
  | nil => rfl
  | cons c rest ih => rw [cutExponent, Text.cut, ih]

/-- Digits hold neither of the marks at which a numeral is cut. -/
theorem not_mem_of_digits {ds : Text} (h : ds.all CodePoint.isDigit = true) {c : CodePoint}
    (hc : c.isDigit = false) : c ∉ ds := fun hmem =>
  absurd (List.all_eq_true.1 h c hmem) (Bool.eq_false_iff.1 hc)

/-- The part before the letter, and the signed power behind it. -/
theorem cutExponent_text (h : n.WellFormed) : cutExponent n.text =
    (n.whole ++ Numeral.placesText n.places, n.power.map fun e => (if e.1 then 45 else 43) :: e.2) := by
  have hwhole := not_mem_of_digits (all_whole h).2 (c := 101) (by decide)
  have hplaces : (101 : CodePoint) ∉ Numeral.placesText n.places := by
    cases hp : n.places with
    | none => exact List.not_mem_nil
    | some ds =>
      rw [Numeral.placesText, List.mem_cons, not_or]
      exact ⟨by decide, not_mem_of_digits (h.places ds hp).2 (by decide)⟩
  have hbefore : (101 : CodePoint) ∉ n.whole ++ Numeral.placesText n.places := by
    rw [List.mem_append, not_or]
    exact ⟨hwhole, hplaces⟩
  rw [cutExponent_eq, Numeral.text, ← List.append_assoc]
  cases n.power with
  | none =>
    rw [Numeral.powerText, List.append_nil, Text.cut_of_not_mem hbefore]
    rfl
  | some e => exact Text.cut_append hbefore _

/-- The digits before the point, and those behind it. -/
theorem cut_point (h : n.WellFormed) :
    Text.cut 46 (n.whole ++ Numeral.placesText n.places) = (n.whole, n.places) := by
  have hwhole := not_mem_of_digits (all_whole h).2 (c := 46) (by decide)
  cases n.places with
  | none => rw [Numeral.placesText, List.append_nil, Text.cut_of_not_mem hwhole]
  | some ds => exact Text.cut_append hwhole ds

theorem digits?_places (h : n.WellFormed) : digits? (n.places.getD []) = some (n.places.getD []) := by
  cases hp : n.places with
  | none => rfl
  | some ds => exact digits?_of_digits (h.places ds hp).2

theorem exponent?_power (h : n.WellFormed) :
    exponent? (n.power.map fun e => (if e.1 then 45 else 43) :: e.2) =
      some (Numeral.powerValue n.power) := by
  cases he : n.power with
  | none => rfl
  | some e =>
    obtain ⟨negative, ds⟩ := e
    obtain ⟨hne, hall⟩ := h.power _ he
    have hread := digits?_of_digits hall
    cases ds with
    | nil => exact absurd rfl hne
    | cons d ds => cases negative <;> simp [exponent?, signed, hread, Numeral.powerValue]

/-- A numeral is read as the number that its digits and its exponent make. -/
theorem magnitude?_text (h : n.WellFormed) (negative : Bool) :
    magnitude? negative n.text = some (Binary64.ofDecimal negative n.digits n.exponent) := by
  obtain ⟨hne, hall⟩ := all_whole h
  obtain ⟨c, rest, hc, hdigit⟩ := Numeral.exists_digit h
  have hname (d : CodePoint) (word : Text) (hd : d.isDigit = false) : n.text ≠ d :: word := by
    rw [hc]
    rintro ⟨⟩
    rw [hdigit] at hd
    cases hd
  have hinfinity : ¬ (n.text = "inf" ∨ n.text = "infinity") := by
    rintro (h | h)
    · exact hname 105 [110, 102] (by decide) h
    · exact hname 105 [110, 102, 105, 110, 105, 116, 121] (by decide) h
  have hnan : n.text ≠ "nan" := hname 110 [97, 110] (by decide)
  rw [magnitude?, if_neg hinfinity, if_neg hnan, cutExponent_text h]
  simp only [cut_point h, digits?_of_digits hall, digits?_places h, exponent?_power h]
  rw [if_neg fun hnone => hne hnone.1]
  rfl

/-- What stands behind a minus sign, or behind none, is a numeral. -/
theorem signed_text (h : n.WellFormed) (negative : Bool) :
    signed ((if negative then ("-" : Text) else []) ++ n.text) = (negative, n.text) := by
  obtain ⟨c, rest, hc, hdigit⟩ := Numeral.exists_digit h
  cases negative with
  | true => rfl
  | false =>
    rw [if_neg Bool.false_ne_true, List.nil_append, hc, signed,
      if_neg (Json.ne_of_isDigit hdigit (by decide)), if_neg (Json.ne_of_isDigit hdigit (by decide))]

/-- **Reading what is displayed.** A displayed number is read as itself. -/
theorem real?_render {x : Binary64} (hx : x.Sound) : real? (Text.trim x.render) = some x := by
  match x, hx with
  | .nan, _ => decide +kernel
  | .infinite false, _ => decide +kernel
  | .infinite true, _ => decide +kernel
  | .negZero, _ => decide +kernel
  | .finite .zero, _ => decide +kernel
  | .finite (.ofOdd m k hodd), hx =>
    obtain ⟨d, htext, hpos, hsmall, hread⟩ := hx.render "inf" "nan"
    obtain ⟨hdigits, hvalue⟩ := Numeral.value_ofDecimal hsmall
    have hwell := Numeral.wellFormed_ofDecimal hpos
    have hrender : (Binary64.finite (.ofOdd m k hodd)).render =
        (if decide (m < 0) then ("-" : Text) else []) ++ (Numeral.ofDecimal d).text := by
      rw [Binary64.render, htext, Numeral.render_eq_text]
      simp only [decide_eq_true_eq]
    have hmarks : ∀ c ∈ (if decide (m < 0) then ("-" : Text) else []) ++ (Numeral.ofDecimal d).text,
        isMark c = true := by
      intro c hc
      rcases List.mem_append.1 hc with hsign | hmem
      · split at hsign
        · rw [List.mem_singleton.1 (show c ∈ [(45 : CodePoint)] from hsign)]
          decide
        · cases hsign
      · exact isMark_of_mem_text hwell hmem
    rw [hrender, real?_of_marks hmarks, signed_text hwell, magnitude?_text hwell,
      hread _ _ hdigits hvalue]

/-- Whatever is read is one of the floating-point numbers. -/
theorem sound_of_real? {t : Text} {x : Binary64} (h : real? t = some x) : x.Sound := by
  unfold real? magnitude? at h
  simp only at h
  split_ifs at h
  · cases h
    trivial
  · cases h
    trivial
  · split at h
    · split_ifs at h
      cases h
      exact Binary64.sound_ofDecimal _ _ _
    · cases h

end Typed

end Intake
