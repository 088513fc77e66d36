import Intake.Http.Label
import Intake.Proofs.Text.Percent
import Intake.Proofs.Text.Pieces
import Intake.Text.Case

/-!
# What domain names are written with

A domain name in ASCII is written with letters, digits and hyphens between full stops, whatever it was
before. A label that is ASCII holds nothing else, because nothing else may stand in a label; one in
Punycode holds the ASCII code points of a label, a hyphen, and the digits of the distances, which are
letters and decimal digits. So the written name has no code point that means something in a URL.

        bücher.example   ──▶   xn--bcher-kva.example
-/

namespace Intake

namespace CodePoint

/-- Letters, digits and the hyphen of ASCII. -/
def isName (c : CodePoint) : Bool :=
  decide (97 ≤ c.asciiLower.val) && decide (c.asciiLower.val ≤ 122) || c.isDigit || c.val == 45

theorem val_asciiLower (c : CodePoint) :
    c.asciiLower.val = if 65 ≤ c.val ∧ c.val ≤ 90 then c.val + 32 else c.val := by
  unfold asciiLower
  split
  · exact val_ofNat (by omega)
  · rfl

theorem asciiLower_asciiLower (c : CodePoint) : c.asciiLower.asciiLower = c.asciiLower := by
  have hval := val_asciiLower c
  refine Fin.ext ?_
  rw [val_asciiLower, if_neg]
  split at hval <;> omega

/-- A name is one in either case. -/
theorem isName_of_asciiLower {c : CodePoint} (h : isName c.asciiLower = true) : isName c = true := by
  have hval := val_asciiLower c
  simp only [isName, asciiLower_asciiLower, isDigit, Bool.or_eq_true, Bool.and_eq_true,
    decide_eq_true_eq, beq_iff_eq] at h ⊢
  split at hval <;> omega

end CodePoint

open CodePoint (isName)

namespace Punycode

theorem isName_digit : ∀ d < 36, isName (digit d) = true := by decide

theorem isName_of_digitValue? {c : CodePoint} {d : Nat} (h : digitValue? c = some d) :
    isName c = true := by
  unfold digitValue? at h
  split at h
  · rename_i hletter
    simp [isName, hletter.1, hletter.2]
  · split at h
    · rename_i hdigit
      simp [isName, hdigit]
    · cases h

/-! ### Writing -/

theorem isName_of_mem_digits {bias k q : Nat} {c : CodePoint} (h : c ∈ digits bias k q) :
    isName c = true := by
  fun_induction digits bias k q with
  | case1 k q hq =>
    have hle := threshold_le k bias
    rw [List.mem_singleton.1 h]
    exact isName_digit q (by omega)
  | case2 k q hq ih =>
    rcases List.mem_cons.1 h with rfl | h
    · have hle := threshold_le k bias
      have hmod := Nat.mod_lt (q - threshold k bias) (y := 36 - threshold k bias) (by omega)
      exact isName_digit _ (by omega)
    · exact ih h

/-- What is written keeps to names while one code point is passed. -/
theorem isName_of_mem_pass {basic m : Nat} {s : Progress} {d c : CodePoint}
    (hs : ∀ c ∈ s.written, isName c = true) (h : c ∈ (pass basic m s d).written) : isName c = true := by
  unfold pass at h
  split at h
  · exact hs c h
  · split at h
    · rcases List.mem_append.1 h with h | h
      · exact hs c h
      · exact isName_of_mem_digits h
    · exact hs c h

theorem isName_of_mem_foldl_pass {basic m : Nat} {t : Text} {s : Progress} {c : CodePoint}
    (hs : ∀ c ∈ s.written, isName c = true) (h : c ∈ (t.foldl (pass basic m) s).written) :
    isName c = true := by
  induction t generalizing s with
  | nil => exact hs c h
  | cons d rest ih => exact ih (fun _ => isName_of_mem_pass hs) h

theorem isName_of_mem_place {t : Text} {basic n : Nat} {ms : List Nat} {s : Progress} {c : CodePoint}
    (hs : ∀ c ∈ s.written, isName c = true) (h : c ∈ (place t basic ms n s).written) :
    isName c = true := by
  induction ms generalizing n s with
  | nil => exact hs c h
  | cons m ms ih =>
    rw [place] at h
    refine ih (fun d hd => ?_) h
    exact isName_of_mem_foldl_pass (s := { s with delta := s.delta + (m - n) * (s.placed + 1) }) hs hd

/-- A label in Punycode is written with names and with what is ASCII in the label. -/
theorem mem_encode {t : Text} {c : CodePoint} (h : c ∈ encode t) :
    isName c = true ∨ c ∈ t ∧ c.val < 128 := by
  rw [encode, List.mem_append, List.mem_append] at h
  rcases h with (hbasic | hhyphen) | hwritten
  · rw [List.mem_filter, decide_eq_true_iff] at hbasic
    exact .inr hbasic
  · split at hhyphen
    · cases hhyphen
    · rw [List.mem_singleton.1 hhyphen]
      exact .inl rfl
  · exact .inl (isName_of_mem_place (fun _ hnil => absurd hnil List.not_mem_nil) hwritten)

/-! ### Reading -/

/-- A distance is written with names. -/
theorem isName_of_number? {bias : Nat} {t : Text} {k unit : Nat} {r : Nat × Text}
    (h : number? bias t k unit = some r) {c : CodePoint} (hc : c ∈ t) : isName c = true ∨ c ∈ r.2 := by
  induction t generalizing k unit r with
  | nil => cases hc
  | cons d rest ih =>
    rw [number?] at h
    split at h
    · cases h
    · rename_i hd
      have hname := isName_of_digitValue? hd
      split at h
      · cases h
        rcases List.mem_cons.1 hc with rfl | hc
        · exact .inl hname
        · exact .inr hc
      · obtain ⟨s, hs, rfl⟩ := Option.map_eq_some_iff.1 h
        rcases List.mem_cons.1 hc with rfl | hc
        · exact .inl hname
        · exact ih (r := s) hs hc

/-- What distances are read from is written with names, and nothing that was placed is lost. -/
theorem of_insertAll {placed t label : Text} {least place bias : Nat} {first : Bool}
    (h : insertAll placed least place bias first t = some label) :
    (∀ c ∈ t, isName c = true) ∧ ∀ c ∈ placed, c ∈ label := by
  fun_induction insertAll placed least place bias first t with
  | case1 placed least place bias first t hn hempty =>
    cases h
    rw [List.isEmpty_iff.1 hempty]
    exact ⟨fun c hc => absurd hc List.not_mem_nil, fun c hc => hc⟩
  | case3 placed least place bias first t delta rest hn size c i hbound ih =>
    obtain ⟨hrest, hplaced⟩ := ih h
    refine ⟨fun d hd => (isName_of_number? hn hd).elim id (hrest d), fun d hd => hplaced d ?_⟩
    rw [← List.take_append_drop i placed, List.mem_append] at hd
    rw [List.mem_append, List.mem_cons]
    exact hd.imp_right Or.inr
  | case2 | case4 => cases h

/-- What a label in Punycode is written with stands in the label, or is a name. -/
theorem mem_of_decode? {t label : Text} (h : decode? t = some label) {c : CodePoint} (hc : c ∈ t) :
    isName c = true ∨ c ∈ label := by
  rw [decode?] at h
  rcases Text.cut_cases 45 t.reverse with ⟨-, hcut⟩ | ⟨after, before, ht, -, hcut⟩
  · rw [hcut] at h
    exact .inl ((of_insertAll h).1 c hc)
  · rw [hcut] at h
    obtain ⟨hafter, hbefore⟩ := of_insertAll h
    rw [← List.mem_reverse, ht, List.mem_append, List.mem_cons] at hc
    rcases hc with hc | rfl | hc
    · exact .inl (hafter c (List.mem_reverse.2 hc))
    · exact .inl rfl
    · exact .inr (hbefore c (List.mem_reverse.2 hc))

end Punycode

namespace Http

namespace Label

/-- The only ASCII code points among those that may stand anywhere are names. -/
theorem isName_of_isPlain {c : CodePoint} (h : isPlain c = true) (hc : c.val < 128) :
    isName c = true := by
  have hnear : (nearRanges.all fun r => decide (128 ≤ r.1) || r == (0x2D, 0x2D) || r == (0x30, 0x39) ||
      r == (0x61, 0x7A)) = true := by decide +kernel
  rw [isPlain, if_pos (by omega), Text.inRanges] at h
  obtain ⟨r, hr, hin⟩ := List.any_eq_true.1 h
  have hcase := List.all_eq_true.1 hnear r hr
  have hlower := CodePoint.val_asciiLower c
  simp only [Bool.or_eq_true, Bool.and_eq_true, decide_eq_true_eq, beq_iff_eq] at hin hcase
  simp only [isName, CodePoint.isDigit, Bool.or_eq_true, Bool.and_eq_true, decide_eq_true_eq, beq_iff_eq]
  rcases hcase with ((hhigh | rfl) | rfl) | rfl
  · omega
  · simp only at hin; omega
  · simp only at hin; omega
  · simp only at hin
    split at hlower <;> omega

/-- No ASCII code point is a sign that needs its neighbours. -/
theorem fits?_ascii {c : CodePoint} (hc : c.val < 128) (label before after : Text) :
    fits? label before c after = none := by
  have hne : ∀ d : CodePoint, 128 ≤ d.val → c ≠ d := by
    rintro d hd rfl
    omega
  have harabic : isArabicDigit c = false := by
    simp only [isArabicDigit, Bool.and_eq_false_iff, decide_eq_false_iff_not]
    omega
  have hextended : isExtendedDigit c = false := by
    simp only [isExtendedDigit, Bool.and_eq_false_iff, decide_eq_false_iff_not]
    omega
  have hhebrew : ¬(c = 0x5F3 ∨ c = 0x5F4) := not_or.2 ⟨hne _ (by decide), hne _ (by decide)⟩
  rw [fits?, if_neg (hne _ (by decide)), if_neg (hne _ (by decide)), if_neg hhebrew,
    if_neg (hne _ (by decide)), harabic, hextended]
  rfl

/-- Among ASCII code points only names give no fault. -/
theorem isName_of_pointFault? {label before t : Text} (h : pointFault? label before t = none)
    {c : CodePoint} (hc : c ∈ t) (hascii : c.val < 128) : isName c = true := by
  induction t generalizing before with
  | nil => cases hc
  | cons d rest ih =>
    rw [pointFault?] at h
    rcases List.mem_cons.1 hc with rfl | hc
    · by_cases hplain : isPlain c = true
      · exact isName_of_isPlain hplain hascii
      · have hjoiner : ¬(c = 0x200C ∨ c = 0x200D) := by
          rintro (rfl | rfl) <;> exact absurd hascii (by decide)
        rw [if_neg hplain, if_neg hjoiner, fits?_ascii hascii] at h
        cases h
    · split at h
      · exact ih h hc
      · split at h
        · split at h
          · exact ih h hc
          · cases h
        · split at h
          · exact ih h hc
          · cases h
          · cases h

/-- A label without a fault holds no ASCII but names. -/
theorem isName_of_fault? {t : Text} (h : fault? t = none) {c : CodePoint} (hc : c ∈ t)
    (hascii : c.val < 128) : isName c = true := by
  have hpoints : pointFault? t [] t = none := by
    unfold fault? at h
    split at h
    · cases h
    · split at h
      · cases h
      · split at h
        · cases h
        · split at h
          · cases h
          · assumption
  exact isName_of_pointFault? hpoints hc hascii

theorem isName_of_mem_mark {c : CodePoint} (h : c ∈ mark) : isName c = true := by
  have hmark : mark.all isName = true := by decide
  exact List.all_eq_true.1 hmark c h

/-- A label in ASCII without a fault is written with names, in Punycode or not. -/
theorem isName_of_asciiFault? {t : Text} (h : asciiFault? t = none)
    (hascii : ∀ c ∈ t, c.val < 128) {c : CodePoint} (hc : c ∈ t) : isName c = true := by
  refine CodePoint.isName_of_asciiLower ?_
  have hmem : c.asciiLower ∈ t.map CodePoint.asciiLower := List.mem_map_of_mem hc
  have hlower : c.asciiLower.val < 128 := by
    have hc := hascii c hc
    rw [CodePoint.val_asciiLower]
    split <;> omega
  unfold asciiFault? at h
  simp only at h
  split at h
  · rename_i hmark
    obtain ⟨code, hcode⟩ := List.isPrefixOf_iff_prefix.1 hmark
    rw [← hcode, List.drop_left] at h
    rw [← hcode, List.mem_append] at hmem
    rcases hmem with hmem | hmem
    · exact isName_of_mem_mark hmem
    · split at h
      · cases h
      · split at h
        · rename_i hdecode
          exact (Punycode.mem_of_decode? hdecode hmem).elim id fun hlabel =>
            isName_of_fault? h hlabel hlower
        · cases h
  · exact isName_of_fault? h hmem hlower

/-- The written form of a label is written with names. -/
theorem isName_of_toAscii? {t a : Text} (h : toAscii? t = some a) {c : CodePoint} (hc : c ∈ a) :
    isName c = true := by
  unfold toAscii? at h
  split at h
  · rename_i hascii
    split at h
    · rename_i hfault
      cases h
      rw [Bool.and_eq_true, Option.isNone_iff_eq_none] at hfault
      exact isName_of_asciiFault? hfault.1 (by simpa using hascii) hc
    · cases h
  · simp only at h
    split at h
    · rename_i hfault
      cases h
      rw [Bool.and_eq_true, Option.isNone_iff_eq_none] at hfault
      rcases List.mem_append.1 hc with hc | hc
      · exact isName_of_mem_mark hc
      · exact (Punycode.mem_encode hc).elim id fun hlabel =>
          isName_of_fault? hfault.1 hlabel.1 hlabel.2
    · cases h

theorem isName_of_allToAscii? {ts as : List Text} (h : allToAscii? ts = some as) {a : Text}
    (ha : a ∈ as) {c : CodePoint} (hc : c ∈ a) : isName c = true := by
  induction ts generalizing as with
  | nil => cases h; cases ha
  | cons t rest ih =>
    rw [allToAscii?] at h
    split at h
    · rename_i hfirst hrest
      cases h
      rcases List.mem_cons.1 ha with rfl | ha
      · exact isName_of_toAscii? hfirst hc
      · exact ih hrest ha
    · cases h

end Label

/-- **What a domain name is written with.** Letters, digits, hyphens and full stops of ASCII. -/
theorem Domain.mem_toAscii? {t name : Text} (h : toAscii? t = some name) {c : CodePoint}
    (hc : c ∈ name) : isName c = true ∨ c = 46 := by
  have hdot : ∀ u : Text, ∀ d ∈ (if u.getLast? == some 46 then [46] else [] : Text), d = 46 := by
    intro u d hd
    split at hd
    · exact List.mem_singleton.1 hd
    · cases hd
  unfold toAscii? at h
  simp only at h
  split at h
  · cases h
  · split at h
    · rename_i ls hlabels
      have hdot := hdot (plainDots t)
      generalize (if (plainDots t).getLast? == some 46 then [46] else [] : Text) = dot at h hdot
      split at h
      · cases h
        rcases List.mem_append.1 hc with hc | hc
        · rcases Text.mem_join hc with rfl | ⟨l, hl, hc⟩
          · exact .inr rfl
          · exact .inl (Label.isName_of_allToAscii? hlabels hl hc)
        · exact .inr (hdot c hc)
      · cases h
    · cases h

end Http
end Intake
