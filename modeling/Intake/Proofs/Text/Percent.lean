import Intake.Text.Percent

/-!
# Percent coding can be read back

The machine of UTF-8 that stands between two code points reads the octets of a code point as that code
point, and stands between two code points again. What is written in percent coding is made of letters,
digits and the marks `_ . - ~ %`, and gives its octets back. So a text without lone surrogates is read
back from its written form, and two texts never have one written form.

        text ──▶ octets ──▶ written form ──▶ octets ──▶ text
-/

namespace Intake

/-- Below the bound a number is the number of its code point. -/
theorem CodePoint.val_ofNat {n : Nat} (h : n < 0x110000) : (ofNat n).val = n := by
  rw [ofNat, dif_pos h]

theorem CodePoint.ofNat_val (c : CodePoint) : ofNat c.val = c := by
  rw [ofNat, dif_pos c.isLt]

namespace Utf8

theorem val_octet {n : Nat} (h : n < 256) : (octet n).val = n := Nat.mod_eq_of_lt h

/-! ### Reading one code point -/

theorem lead_ascii {lone : Bool} {b : Octet} (h : b.val < 0x80) :
    lead lone b = .whole (CodePoint.ofNat b.val) := by
  rw [lead, if_pos h]

theorem lead_two {lone : Bool} {b : Octet} (hlow : 0xC2 ≤ b.val) (hhigh : b.val < 0xE0) :
    lead lone b = .owes ⟨1, b.val - 0xC0, 0x80, 0xBF⟩ := by
  rw [lead, if_neg (by omega), if_neg (by omega), if_pos hhigh]

/-- The first of three octets leaves room for the second one, whatever is no surrogate. -/
theorem lead_three {n : Nat} (hlow : 0x800 ≤ n) (hhigh : n < 0x10000)
    (h : ¬(0xD800 ≤ n ∧ n ≤ 0xDFFF)) :
    ∃ low high, lead false (octet (0xE0 + n / 4096)) = .owes ⟨2, n / 4096, low, high⟩ ∧
      low ≤ 0x80 + n / 64 % 64 ∧ 0x80 + n / 64 % 64 ≤ high := by
  have hval : (octet (0xE0 + n / 4096)).val = 0xE0 + n / 4096 := val_octet (by omega)
  rw [lead, hval, if_neg (by omega), if_neg (by omega), if_neg (by omega)]
  by_cases hfirst : n / 4096 = 0
  · exact ⟨0xA0, 0xBF, by rw [if_pos (by omega), hfirst], by omega, by omega⟩
  · rw [if_neg (by omega)]
    by_cases hlast : n / 4096 = 13
    · exact ⟨0x80, 0x9F, by rw [if_pos (by simp [hlast]), hlast], by omega, by omega⟩
    · exact ⟨0x80, 0xBF, by rw [if_neg (by simp; omega), if_pos (by omega), Nat.add_sub_cancel_left],
        by omega, by omega⟩

/-- The first of four octets leaves room for the second one. -/
theorem lead_four {n : Nat} (hlow : 0x10000 ≤ n) (hhigh : n < 0x110000) :
    ∃ low high, lead false (octet (0xF0 + n / 262144)) = .owes ⟨3, n / 262144, low, high⟩ ∧
      low ≤ 0x80 + n / 4096 % 64 ∧ 0x80 + n / 4096 % 64 ≤ high := by
  have hval : (octet (0xF0 + n / 262144)).val = 0xF0 + n / 262144 := val_octet (by omega)
  rw [lead, hval, if_neg (by omega), if_neg (by omega), if_neg (by omega), if_neg (by omega),
    if_neg (by simp; omega), if_neg (by omega)]
  by_cases hfirst : n / 262144 = 0
  · exact ⟨0x90, 0xBF, by rw [if_pos (by omega), hfirst], by omega, by omega⟩
  · rw [if_neg (by omega)]
    by_cases hlast : n / 262144 = 4
    · exact ⟨0x80, 0x8F, by rw [if_neg (by omega), if_pos (by omega), hlast], by omega, by omega⟩
    · exact ⟨0x80, 0xBF, by rw [if_pos (by omega), Nat.add_sub_cancel_left], by omega, by omega⟩

/-- A continuation octet that is not the last one. -/
theorem scan_more {lone : Bool} {left bits low high n : Nat} (rest : Octets) (hlow : low ≤ 0x80 + n)
    (hhigh : 0x80 + n ≤ high) (hn : n < 64) :
    scan lone (some ⟨left + 2, bits, low, high⟩) (octet (0x80 + n) :: rest) =
      scan lone (some ⟨left + 1, bits * 64 + n, 0x80, 0xBF⟩) rest := by
  have hval : (octet (0x80 + n)).val = 0x80 + n := val_octet (by omega)
  rw [scan, hval, if_pos ⟨hlow, hhigh⟩, if_neg (by simp), Nat.add_sub_cancel_left]
  rfl

/-- The last continuation octet. -/
theorem scan_last {lone : Bool} {bits low high n : Nat} (rest : Octets) (hlow : low ≤ 0x80 + n)
    (hhigh : 0x80 + n ≤ high) (hn : n < 64) :
    scan lone (some ⟨1, bits, low, high⟩) (octet (0x80 + n) :: rest) =
      some (CodePoint.ofNat (bits * 64 + n)) :: scan lone none rest := by
  have hval : (octet (0x80 + n)).val = 0x80 + n := val_octet (by omega)
  rw [scan, hval, if_pos ⟨hlow, hhigh⟩, if_pos (Nat.le_refl 1), Nat.add_sub_cancel_left]

/-- Two octets are read as one code point. -/
theorem scan_two {n : Nat} (hlow : 0x80 ≤ n) (hhigh : n < 0x800) (rest : Octets) :
    scan false none (octet (0xC0 + n / 64) :: octet (0x80 + n % 64) :: rest) =
      some (CodePoint.ofNat n) :: scan false none rest := by
  have hval : (octet (0xC0 + n / 64)).val = 0xC0 + n / 64 := val_octet (by omega)
  have hbits : n / 64 * 64 + n % 64 = n := Nat.div_add_mod' _ _
  rw [scan, lead_two (by omega) (by omega), hval, Nat.add_sub_cancel_left]
  dsimp only
  rw [scan_last rest (by omega) (by omega) (by omega), hbits]

/-- Three octets are, unless they stand for a surrogate. -/
theorem scan_three {n : Nat} (hlow : 0x800 ≤ n) (hhigh : n < 0x10000)
    (h : ¬(0xD800 ≤ n ∧ n ≤ 0xDFFF)) (rest : Octets) :
    scan false none (octet (0xE0 + n / 4096) :: octet (0x80 + n / 64 % 64) ::
      octet (0x80 + n % 64) :: rest) = some (CodePoint.ofNat n) :: scan false none rest := by
  obtain ⟨low, high, hlead, hsecond, hroom⟩ := lead_three hlow hhigh h
  have hbits : (n / 4096 * 64 + n / 64 % 64) * 64 + n % 64 = n := by omega
  rw [scan, hlead]
  dsimp only
  rw [scan_more _ hsecond hroom (by omega), scan_last _ (by omega) (by omega) (by omega), hbits]

/-- Four octets are. -/
theorem scan_four {n : Nat} (hlow : 0x10000 ≤ n) (hhigh : n < 0x110000) (rest : Octets) :
    scan false none (octet (0xF0 + n / 262144) :: octet (0x80 + n / 4096 % 64) ::
      octet (0x80 + n / 64 % 64) :: octet (0x80 + n % 64) :: rest) =
        some (CodePoint.ofNat n) :: scan false none rest := by
  obtain ⟨low, high, hlead, hsecond, hroom⟩ := lead_four hlow hhigh
  have hbits : ((n / 262144 * 64 + n / 4096 % 64) * 64 + n / 64 % 64) * 64 + n % 64 = n := by omega
  rw [scan, hlead]
  dsimp only
  rw [scan_more _ hsecond hroom (by omega), scan_more _ (by omega) (by omega) (by omega),
    scan_last _ (by omega) (by omega) (by omega), hbits]

/-- The octets of a code point are read as that code point, whatever follows them. -/
theorem scan_encodeOne {c : CodePoint} (h : c.isSurrogate = false) (rest : Octets) :
    scan false none (encodeOne c ++ rest) = some c :: scan false none rest := by
  have hsurrogate : ¬(0xD800 ≤ c.val ∧ c.val ≤ 0xDFFF) := by
    simpa [CodePoint.isSurrogate] using h
  have hself : CodePoint.ofNat c.val = c := CodePoint.ofNat_val c
  unfold encodeOne
  split
  · rename_i hone
    have hval : (octet c.val).val = c.val := val_octet (by omega)
    rw [List.cons_append, scan, lead_ascii (by omega), hval, hself]
    rfl
  · split
    · rename_i hone htwo
      exact (scan_two (Nat.le_of_not_lt hone) htwo rest).trans (by rw [hself])
    · split
      · rename_i htwo hthree
        exact (scan_three (Nat.le_of_not_lt htwo) hthree hsurrogate rest).trans (by rw [hself])
      · rename_i hthree
        exact (scan_four (Nat.le_of_not_lt hthree) c.isLt rest).trans (by rw [hself])

/-- A text without lone surrogates is read back from its octets. -/
theorem decode?_encode {t : Text} (h : t.encodable = true) : decode? (encode t) = some t := by
  rw [decode?]
  induction t with
  | nil => rfl
  | cons c rest ih =>
    rw [Text.encodable, List.all_cons, Bool.and_eq_true, Bool.not_eq_true'] at h
    rw [encode, List.flatMap_cons, scan_encodeOne h.1, whole?]
    exact congrArg (Option.map (c :: ·)) (ih h.2)

end Utf8

namespace Percent

/-! ### What is written -/

/-- Code points that percent coding writes: letters, digits, the four marks and the percent sign. -/
def isWritten (c : CodePoint) : Bool :=
  c.val == 37 || decide (48 ≤ c.val) && decide (c.val ≤ 57) || decide (65 ≤ c.val) && decide (c.val ≤ 90) ||
    decide (97 ≤ c.val) && decide (c.val ≤ 122) || c.val == 95 || c.val == 46 || c.val == 45 ||
    c.val == 126

theorem isWritten_hexDigit : ∀ d < 16, isWritten (hexDigit d) = true := by decide

theorem isWritten_of_mem_encodeOctet {b : Octet} {c : CodePoint} (h : c ∈ encodeOctet b) :
    isWritten c = true := by
  have hb := b.isLt
  unfold encodeOctet at h
  split at h
  · rename_i hself
    rw [List.mem_singleton.1 h, isWritten, CodePoint.val_ofNat (by omega)]
    simp only [isUnreserved, Bool.or_eq_true, Bool.and_eq_true, decide_eq_true_eq, beq_iff_eq] at hself ⊢
    omega
  · simp only [List.mem_cons, List.not_mem_nil, or_false] at h
    rcases h with rfl | rfl | rfl
    · rfl
    · exact isWritten_hexDigit _ (by omega)
    · exact isWritten_hexDigit _ (by omega)

/-- Only what percent coding writes is written. -/
theorem isWritten_of_mem {bytes : Octets} {c : CodePoint} (h : c ∈ encodeOctets bytes) :
    isWritten c = true := by
  obtain ⟨b, -, hc⟩ := List.mem_flatMap.1 h
  exact isWritten_of_mem_encodeOctet hc

/-- An octet that does not stand for itself is written with a percent sign. -/
theorem percent_mem_encodeOctet {b : Octet} (h : isUnreserved b = false) : 37 ∈ encodeOctet b := by
  rw [encodeOctet, if_neg (by simp [h])]
  exact List.mem_cons_self

/-- So is a code point that percent coding does not write. -/
theorem percent_mem_encodeOne {c : CodePoint} (h : isWritten c = false) :
    37 ∈ encodeOctets (Utf8.encodeOne c) := by
  have hc := c.isLt
  have hfirst : ∀ n < 256, (isUnreserved (Utf8.octet n) = false) → ∀ more : Octets,
      37 ∈ encodeOctets (Utf8.octet n :: more) := fun n _ hn more =>
    List.mem_flatMap.2 ⟨_, List.mem_cons_self, percent_mem_encodeOctet hn⟩
  have hhigh : ∀ n < 256, 0x80 ≤ n → isUnreserved (Utf8.octet n) = false := by
    intro n hn hlow
    rw [isUnreserved, Utf8.val_octet hn]
    simp only [Bool.or_eq_false_iff, Bool.and_eq_false_iff, decide_eq_false_iff_not, beq_eq_false_iff_ne]
    omega
  unfold Utf8.encodeOne
  split
  · rename_i hascii
    refine hfirst _ (by omega) ?_ _
    rw [isUnreserved, Utf8.val_octet (by omega)]
    simp only [isWritten, Bool.or_eq_false_iff, Bool.and_eq_false_iff, decide_eq_false_iff_not,
      beq_eq_false_iff_ne] at h ⊢
    omega
  · split
    · exact hfirst _ (by omega) (hhigh _ (by omega) (by omega)) _
    · split
      · exact hfirst _ (by omega) (hhigh _ (by omega) (by omega)) _
      · exact hfirst _ (by omega) (hhigh _ (by omega) (by omega)) _

/-! ### Reading it back -/

theorem hexValue?_hexDigit : ∀ d < 16, (hexDigit d).hexValue? = some d := by decide

/-- One octet is read back, whatever follows it. -/
theorem decodeOctets_encodeOctet (b : Octet) (rest : Text) :
    decodeOctets (encodeOctet b ++ rest) = (decodeOctets rest).map (b :: ·) := by
  have hb := b.isLt
  unfold encodeOctet
  by_cases hself : isUnreserved b = true
  · have hval : (CodePoint.ofNat b.val).val = b.val := CodePoint.val_ofNat (by omega)
    have hne : CodePoint.ofNat b.val ≠ 37 := by
      intro heq
      have h37 : b.val = 37 := hval.symm.trans (congrArg Fin.val heq)
      have hb37 : b = 37 := Fin.ext h37
      rw [hb37] at hself
      exact absurd hself (by decide)
    have hoctet : (⟨(CodePoint.ofNat b.val).val, by omega⟩ : Octet) = b := Fin.ext hval
    rw [if_pos hself, List.cons_append, List.nil_append, decodeOctets.eq_def]
    dsimp only
    rw [if_neg hne, dif_pos (by omega), hoctet]
  · have hback : Utf8.octet (16 * (b.val / 16) + b.val % 16) = b :=
      Fin.ext ((Utf8.val_octet (by omega)).trans (Nat.div_add_mod _ _))
    rw [if_neg hself, List.cons_append, List.cons_append, List.cons_append, List.nil_append,
      decodeOctets.eq_def]
    dsimp only
    rw [if_pos rfl, hexValue?_hexDigit _ (by omega), hexValue?_hexDigit _ (by omega)]
    dsimp only
    rw [hback]

theorem decodeOctets_encodeOctets (bytes : Octets) :
    decodeOctets (encodeOctets bytes) = some bytes := by
  induction bytes with
  | nil => rfl
  | cons b rest ih =>
    rw [encodeOctets, List.flatMap_cons, decodeOctets_encodeOctet]
    exact congrArg (Option.map (b :: ·)) ih

/-- A text without lone surrogates is read back from its written form. -/
theorem decode?_encodeOctets {t : Text} (h : t.encodable = true) :
    decode? (encodeOctets (Utf8.encode t)) = some t := by
  rw [decode?, decodeOctets_encodeOctets]
  exact Utf8.decode?_encode h

/-! ### Escaping -/

/-- A text whose code points are all safe is left as it is. -/
theorem escape_of_all {safe : CodePoint → Bool} {t : Text} (h : ∀ c ∈ t, safe c = true) :
    escape safe t = t := by
  induction t with
  | nil => rfl
  | cons c rest ih =>
    rw [escape, List.flatMap_cons, if_pos (h c List.mem_cons_self)]
    exact congrArg (c :: ·) (ih fun d hd => h d (List.mem_cons_of_mem _ hd))

/-- What stands in an escaped text was there before and is safe, or belongs to an escape. -/
theorem mem_escape {safe : CodePoint → Bool} {t : Text} {c : CodePoint} (h : c ∈ escape safe t) :
    c ∈ t ∧ safe c = true ∨ isWritten c = true := by
  obtain ⟨d, hd, hc⟩ := List.mem_flatMap.1 h
  split at hc
  · rename_i hsafe
    rw [List.mem_singleton.1 hc]
    exact .inl ⟨hd, hsafe⟩
  · exact .inr (isWritten_of_mem hc)

/-- After escaping every code point is safe, if what percent coding writes is. -/
theorem safe_of_mem_escape {safe : CodePoint → Bool} (hsafe : ∀ c, isWritten c = true → safe c = true)
    {t : Text} {c : CodePoint} (h : c ∈ escape safe t) : safe c = true :=
  (mem_escape h).elim And.right (hsafe c)

/-- An escape leaves a percent sign. -/
theorem percent_mem_escape {safe : CodePoint → Bool} (hsafe : ∀ c, isWritten c = true → safe c = true)
    {t : Text} {c : CodePoint} (h : c ∈ t) (hc : safe c = false) : 37 ∈ escape safe t := by
  have hwritten : isWritten c = false :=
    Bool.eq_false_iff.2 fun hwritten => Bool.eq_false_iff.1 hc (hsafe c hwritten)
  refine List.mem_flatMap.2 ⟨c, h, ?_⟩
  rw [if_neg (by simp [hc])]
  exact percent_mem_encodeOne hwritten

end Percent
end Intake
