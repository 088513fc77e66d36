import Intake.Json.Printer
import Intake.Json.Reader

/-!
# Strings

Every code point of a string is written as itself or as escapes, and read back in pieces. A code point
above U+FFFF is written as two escaped halves, which the reader puts together again; so two halves that
stood side by side in the string, as two code points, come back as one. No other string changes.

        written   \ud83d \ude00          \ud83d \ude00
        from      U+1F600                U+D83D, U+DE00
        read      U+1F600                U+1F600
-/

namespace Intake

namespace Text

/-- The text with every first half right before a second half put together to one code point. -/
def joined : Text → Text
  | c :: d :: rest =>
    if c.isHighSurrogate && d.isLowSurrogate then Units.paired c.val d.val :: joined rest
    else c :: joined (d :: rest)
  | t => t

/-- A text without halves has none to put together. -/
theorem joined_eq_self {t : Text} (h : t.encodable = true) : t.joined = t := by
  induction t using joined.induct with
  | case1 c d rest hpair ih =>
    rw [encodable, List.all_cons, Bool.and_eq_true] at h
    have hsurrogate : c.isSurrogate = true := by
      rw [Bool.and_eq_true] at hpair
      have := hpair.1
      simp only [CodePoint.isHighSurrogate, Bool.and_eq_true, decide_eq_true_eq] at this
      simp only [CodePoint.isSurrogate, Bool.and_eq_true, decide_eq_true_eq]
      omega
    rw [hsurrogate] at h
    exact absurd h.1 (by decide)
  | case2 c d rest hpair ih =>
    rw [encodable, List.all_cons, Bool.and_eq_true] at h
    rw [joined, if_neg hpair, ih h.2]
  | case3 t hshort => rw [joined.eq_2 t hshort]

end Text

namespace Json

/-! ### Reading what was escaped -/

theorem hexValue?_ofHexDigit : ∀ d < 16, (CodePoint.ofHexDigit d).hexValue? = some d := by decide

theorem readPieces_unitEscape {u : Nat} (hu : u < 0x10000) (t : Text) :
    readPieces (unitEscape u ++ t) = consPiece (.unit u) (readPieces t) := by
  have hex (n : Nat) : (CodePoint.ofHexDigit (n % 16)).hexValue? = some (n % 16) :=
    hexValue?_ofHexDigit _ (Nat.mod_lt _ (by decide))
  have hunit : ((u / 4096 % 16 * 16 + u / 256 % 16) * 16 + u / 16 % 16) * 16 + u % 16 = u := by omega
  rw [unitEscape]
  simp only [List.cons_append, List.nil_append]
  rw [readPieces.eq_def]
  simp [hexUnit?, hex, hunit]

/-- The pieces that a code point is read back in. -/
def piecesOf (c : CodePoint) : List Piece :=
  if c.val = 8 ∨ c.val = 9 ∨ c.val = 10 ∨ c.val = 12 ∨ c.val = 13 ∨ 0x20 ≤ c.val ∧ c.val ≤ 0x7E then
    [.plain c]
  else (Units.toUnits16 c).map .unit

theorem readPieces_plain {c : CodePoint} (h : 0x20 ≤ c.val) (hquote : c ≠ 34) (hslash : c ≠ 92)
    (t : Text) : readPieces (c :: t) = consPiece (.plain c) (readPieces t) := by
  rw [readPieces.eq_def]
  simp [hquote, hslash]
  omega

theorem readPieces_simple {e d : CodePoint} (he : e ≠ 117) (hd : simpleEscape? e = some d) (t : Text) :
    readPieces (92 :: e :: t) = consPiece (.plain d) (readPieces t) := by
  rw [readPieces.eq_def]
  simp [he, hd]

theorem readPieces_units {us : List Nat} (hus : ∀ u ∈ us, u < 0x10000) (t : Text) :
    readPieces (us.flatMap unitEscape ++ t) = (us.map .unit).foldr consPiece (readPieces t) := by
  induction us with
  | nil => rfl
  | cons u us ih =>
    rw [List.flatMap_cons, List.append_assoc, readPieces_unitEscape (hus u (by simp)),
      ih fun u hu => hus u (by simp [hu])]
    rfl

theorem lt_of_mem_toUnits16 {c : CodePoint} {u : Nat} (h : u ∈ Units.toUnits16 c) : u < 0x10000 := by
  have hc := c.isLt
  rw [Units.toUnits16] at h
  split at h
  · rw [List.mem_singleton] at h
    omega
  · simp only [List.mem_cons, List.not_mem_nil, or_false] at h
    omega

/-- An escaped code point is read in its pieces. -/
theorem readPieces_escape (c : CodePoint) (t : Text) :
    readPieces (escape c ++ t) = (piecesOf c).foldr consPiece (readPieces t) := by
  unfold escape
  split
  · rename_i h; subst h; exact readPieces_simple (by decide) rfl t
  split
  · rename_i h; subst h; exact readPieces_simple (by decide) rfl t
  split
  · rename_i h; subst h; exact readPieces_simple (by decide) rfl t
  split
  · rename_i h; subst h; exact readPieces_simple (by decide) rfl t
  split
  · rename_i h; subst h; exact readPieces_simple (by decide) rfl t
  split
  · rename_i h; subst h; exact readPieces_simple (by decide) rfl t
  split
  · rename_i h; subst h; exact readPieces_simple (by decide) rfl t
  rename_i hquote hslash hline hreturn htab hfeed hback
  have hval (n : Nat) (hn : n < 0x110000) (h : c ≠ ⟨n, hn⟩) : c.val ≠ n := fun he => h (Fin.ext he)
  have h8 := hval 8 (by decide) hback
  have h9 := hval 9 (by decide) htab
  have h10 := hval 10 (by decide) hline
  have h12 := hval 12 (by decide) hfeed
  have h13 := hval 13 (by decide) hreturn
  split
  · rename_i h
    rw [piecesOf, if_pos (by omega)]
    exact readPieces_plain h.1 hquote hslash t
  · rw [piecesOf, if_neg (by omega)]
    exact readPieces_units (fun u hu => lt_of_mem_toUnits16 hu) t

theorem readPieces_writeText (s t : Text) :
    readPieces (s.flatMap escape ++ 34 :: t) = some (s.flatMap piecesOf, t) := by
  have hfoldr (ps qs : List Piece) :
      ps.foldr consPiece (some (qs, t)) = some (ps ++ qs, t) := by
    induction ps with
    | nil => rfl
    | cons p ps ih => rw [List.foldr_cons, ih]; rfl
  induction s with
  | nil => rw [List.flatMap_nil, List.nil_append, readPieces.eq_def]; rfl
  | cons c s ih =>
    rw [List.flatMap_cons, List.append_assoc, readPieces_escape, ih, hfoldr, List.flatMap_cons]

/-! ### Putting the pieces together -/

theorem ofNat_val (c : CodePoint) : CodePoint.ofNat c.val = c := by
  rw [CodePoint.ofNat, dif_pos c.isLt]

/-- A first half that no second half follows stands for itself. -/
theorem ofPieces_some {h : Nat} {ps : List Piece}
    (hps : ∀ u, ps.head? = some (.unit u) → Units.isLow u = false) :
    ofPieces (some h) ps = CodePoint.ofNat h :: ofPieces none ps := by
  match ps with
  | [] => rfl
  | .plain c :: ps => rfl
  | .unit u :: ps =>
    have hlow := hps u rfl
    simp [ofPieces, hlow]

theorem piecesOf_of_surrogate {c : CodePoint} (h : c.isSurrogate = true) :
    piecesOf c = [.unit c.val] := by
  simp only [CodePoint.isSurrogate, Bool.and_eq_true, decide_eq_true_eq] at h
  rw [piecesOf, if_neg (by omega), Units.toUnits16, if_pos (by omega)]
  rfl

theorem isSurrogate_of_high {c : CodePoint} (h : c.isHighSurrogate = true) : c.isSurrogate = true := by
  simp only [CodePoint.isHighSurrogate, Bool.and_eq_true, decide_eq_true_eq] at h
  simp only [CodePoint.isSurrogate, Bool.and_eq_true, decide_eq_true_eq]
  omega

theorem isSurrogate_of_low {c : CodePoint} (h : c.isLowSurrogate = true) : c.isSurrogate = true := by
  simp only [CodePoint.isLowSurrogate, Bool.and_eq_true, decide_eq_true_eq] at h
  simp only [CodePoint.isSurrogate, Bool.and_eq_true, decide_eq_true_eq]
  omega

/-- The pieces of a code point that is no first half give it back. -/
theorem ofPieces_piecesOf {c : CodePoint} (h : c.isHighSurrogate = false) (ps : List Piece) :
    ofPieces none (piecesOf c ++ ps) = c :: ofPieces none ps := by
  have hc := c.isLt
  simp only [CodePoint.isHighSurrogate, Bool.and_eq_false_iff, decide_eq_false_iff_not] at h
  unfold piecesOf
  split
  · rfl
  · unfold Units.toUnits16
    split
    · have hhigh : Units.isHigh c.val = false := by
        simp only [Units.isHigh, Bool.and_eq_false_iff, decide_eq_false_iff_not]
        exact h
      simp [ofPieces, hhigh, ofNat_val]
    · have hhigh : Units.isHigh (0xD800 + (c.val - 0x10000) / 1024) = true := by
        simp only [Units.isHigh, Bool.and_eq_true, decide_eq_true_eq]
        omega
      have hlow : Units.isLow (0xDC00 + (c.val - 0x10000) % 1024) = true := by
        simp only [Units.isLow, Bool.and_eq_true, decide_eq_true_eq]
        omega
      have hpaired : Units.paired (0xD800 + (c.val - 0x10000) / 1024)
          (0xDC00 + (c.val - 0x10000) % 1024) = c := by
        have hval : 0x10000 + (0xD800 + (c.val - 0x10000) / 1024 - 0xD800) * 1024 +
            (0xDC00 + (c.val - 0x10000) % 1024 - 0xDC00) = c.val := by omega
        rw [Units.paired, hval, ofNat_val]
      simp [ofPieces, hhigh, hlow, hpaired]

/-- The first piece of a code point is a second half only if the code point is one. -/
theorem isLow_of_piecesOf {c : CodePoint} {u : Nat} {ps : List Piece}
    (h : (piecesOf c ++ ps).head? = some (.unit u)) (hc : c.isLowSurrogate = false) :
    Units.isLow u = false := by
  have hlt := c.isLt
  simp only [CodePoint.isLowSurrogate, Bool.and_eq_false_iff, decide_eq_false_iff_not] at hc
  simp only [Units.isLow, Bool.and_eq_false_iff, decide_eq_false_iff_not]
  unfold piecesOf at h
  split at h
  · simp at h
  · unfold Units.toUnits16 at h
    split at h
    · obtain rfl : c.val = u := by simpa using h
      exact hc
    · have : 0xD800 + (c.val - 0x10000) / 1024 = u := by simpa using h
      omega

/-- The pieces of a text give the text with its halves put together. -/
theorem ofPieces_flatMap (t : Text) : ofPieces none (t.flatMap piecesOf) = t.joined := by
  induction t using Text.joined.induct with
  | case1 c d rest hpair ih =>
    rw [Bool.and_eq_true] at hpair
    obtain ⟨hhigh, hlow⟩ := hpair
    have hc : Units.isHigh c.val = true := hhigh
    have hd : Units.isLow d.val = true := hlow
    rw [Text.joined, if_pos (by rw [hhigh, hlow]; rfl), List.flatMap_cons, List.flatMap_cons,
      piecesOf_of_surrogate (isSurrogate_of_high hhigh), piecesOf_of_surrogate (isSurrogate_of_low hlow)]
    simp [ofPieces, hc, hd, ih]
  | case2 c d rest hpair ih =>
    rw [Text.joined, if_neg hpair, List.flatMap_cons]
    cases hhigh : c.isHighSurrogate with
    | false => rw [ofPieces_piecesOf hhigh, ih]
    | true =>
      have hc : Units.isHigh c.val = true := hhigh
      have hlow : d.isLowSurrogate = false := by simpa [hhigh] using hpair
      rw [piecesOf_of_surrogate (isSurrogate_of_high hhigh), List.singleton_append, ofPieces, if_pos hc,
        ofPieces_some, ih, ofNat_val]
      intro u hu
      exact isLow_of_piecesOf hu hlow
  | case3 t hshort =>
    match t with
    | [] => rfl
    | [c] =>
      cases hhigh : c.isHighSurrogate with
      | false => rw [List.flatMap_cons, ofPieces_piecesOf hhigh]; rfl
      | true =>
        have hc : Units.isHigh c.val = true := hhigh
        rw [List.flatMap_cons, piecesOf_of_surrogate (isSurrogate_of_high hhigh)]
        simp [ofPieces, hc, ofNat_val, Text.joined]
    | c :: d :: rest => exact absurd rfl (hshort c d rest)

/-- A written string is read with its halves put together. -/
theorem readText_writeText (s t : Text) :
    readText (s.flatMap escape ++ 34 :: t) = some (s.joined, t) := by
  rw [readText, readPieces_writeText, ← ofPieces_flatMap]
  rfl

end Json
end Intake
