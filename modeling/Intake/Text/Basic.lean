/-!
# Text

A text is a list of code points. Lone surrogates are allowed, because the escapes of a JSON string
can name one that no encoding can carry, and several rules of the service turn on exactly that.
Everything here is structural recursion on the list, so equality of texts is decided by evaluation
and the laws are plain inductions.
-/

namespace Intake

/-- A Unicode code point, surrogates included. -/
abbrev CodePoint := Fin 0x110000

/-- There are code points at all, so that a number can stand for one. -/
instance CodePoint.neZeroBound : @NeZero Nat Zero.ofOfNat0 0x110000 := ⟨Nat.succ_ne_zero 0x10FFFF⟩

/-- A text: its code points in order. -/
abbrev Text := List CodePoint

namespace CodePoint

/-- The code point of a character. -/
def ofChar (c : Char) : CodePoint :=
  ⟨c.toNat, by
    have h : c.val.toNat < 0xD800 ∨ 0xDFFF < c.val.toNat ∧ c.val.toNat < 0x110000 := c.valid
    change c.val.toNat < 0x110000
    omega⟩

/-- The code point with the given number, or U+FFFD when there is none. -/
def ofNat (n : Nat) : CodePoint :=
  if h : n < 0x110000 then ⟨n, h⟩ else ⟨0xFFFD, by decide⟩

/-- The surrogates: the code points that only UTF-16 uses, and only in pairs. -/
def isSurrogate (c : CodePoint) : Bool := decide (0xD800 ≤ c.val) && decide (c.val ≤ 0xDFFF)

/-- First halves of surrogate pairs. -/
def isHighSurrogate (c : CodePoint) : Bool := decide (0xD800 ≤ c.val) && decide (c.val ≤ 0xDBFF)

/-- Second halves of surrogate pairs. -/
def isLowSurrogate (c : CodePoint) : Bool := decide (0xDC00 ≤ c.val) && decide (c.val ≤ 0xDFFF)

/-- The digits `0` to `9`. -/
def isDigit (c : CodePoint) : Bool := decide (48 ≤ c.val) && decide (c.val ≤ 57)

/-- The value of a decimal digit. -/
def digitValue (c : CodePoint) : Nat := c.val - 48

/-- The code point of a decimal digit. -/
def ofDigit (d : Nat) : CodePoint := ofNat (48 + d)

/-- The value of a hexadecimal digit of either case. -/
def hexValue? (c : CodePoint) : Option Nat :=
  if 48 ≤ c.val ∧ c.val ≤ 57 then some (c.val - 48)
  else if 65 ≤ c.val ∧ c.val ≤ 70 then some (c.val - 55)
  else if 97 ≤ c.val ∧ c.val ≤ 102 then some (c.val - 87)
  else none

/-- The lower-case hexadecimal digit of a value below sixteen. -/
def ofHexDigit (d : Nat) : CodePoint := ofNat (if d < 10 then 48 + d else 87 + d)

/-- A code point with the case of an ASCII capital removed. -/
def asciiLower (c : CodePoint) : CodePoint :=
  if 65 ≤ c.val ∧ c.val ≤ 90 then ofNat (c.val + 32) else c

end CodePoint

namespace Text

/-- The text of a string literal. -/
def ofString (s : String) : Text := s.toList.map CodePoint.ofChar

instance coeString : Coe String Text := ⟨ofString⟩

/-- `part.occursIn whole`: the code points of `part` stand in `whole` side by side. -/
def occursIn (part : Text) : Text → Bool
  | [] => part.isEmpty
  | c :: rest => part.isPrefixOf (c :: rest) || occursIn part rest

/-- Cuts a text at every occurrence of a separator; there is always one piece more than cuts. -/
def pieces (sep : CodePoint) : Text → List Text
  | [] => [[]]
  | c :: rest =>
    if c = sep then [] :: pieces sep rest
    else match pieces sep rest with
      | [] => [[c]]
      | p :: ps => (c :: p) :: ps

/-- Texts one after the other with a separator between neighbours. -/
def join (sep : Text) : List Text → Text
  | [] => []
  | [t] => t
  | t :: u :: ts => t ++ sep ++ join sep (u :: ts)

/-- Drops code points from the end for as long as they satisfy `p`. -/
def dropEndWhile (p : CodePoint → Bool) (t : Text) : Text := (t.reverse.dropWhile p).reverse

/-- Drops code points from both ends for as long as they satisfy `p`. -/
def stripWhile (p : CodePoint → Bool) (t : Text) : Text := dropEndWhile p (t.dropWhile p)

/-- The first piece up to a separator, and what follows the separator if it occurs. -/
def cut (sep : CodePoint) : Text → Text × Option Text
  | [] => ([], none)
  | c :: rest =>
    if c = sep then ([], some rest)
    else ((c :: (cut sep rest).1), (cut sep rest).2)

/-- Decimal digits of a number, most significant first. -/
def ofNat (n : Nat) : Text :=
  if _h : n < 10 then [CodePoint.ofDigit n]
  else ofNat (n / 10) ++ [CodePoint.ofDigit (n % 10)]
termination_by n
decreasing_by omega

/-- Decimal digits of an integer after a minus sign if it is negative. -/
def ofInt : Int → Text
  | .ofNat n => ofNat n
  | .negSucc n => "-" ++ ofNat (n + 1)

/-- The number that a run of decimal digits writes. -/
def digitsValue (t : Text) : Nat := t.foldl (fun n c => 10 * n + c.digitValue) 0

/-- No lone surrogate stands in the text, so every Unicode encoding can carry it. -/
def encodable (t : Text) : Bool := t.all fun c => !c.isSurrogate

/-- Order by code points, the shorter text first when one begins the other. -/
def precedes : Text → Text → Bool
  | _, [] => false
  | [], _ :: _ => true
  | a :: as, b :: bs => decide (a < b) || (decide (a = b) && precedes as bs)

/-! ### Digits -/

end Text

namespace CodePoint

theorem val_ofDigit {d : Nat} (h : d < 10) : (ofDigit d).val = 48 + d := by
  rw [ofDigit, ofNat, dif_pos (by omega)]

theorem isDigit_ofDigit {d : Nat} (h : d < 10) : (ofDigit d).isDigit = true := by
  simp [isDigit, val_ofDigit h]; omega

theorem digitValue_ofDigit {d : Nat} (h : d < 10) : (ofDigit d).digitValue = d := by
  simp [digitValue, val_ofDigit h]

/-- A digit lies in ASCII. -/
theorem lt_of_isDigit {c : CodePoint} (h : c.isDigit = true) : c.val < 128 := by
  simp only [isDigit, Bool.and_eq_true, decide_eq_true_eq] at h
  omega

end CodePoint

namespace Text

theorem digitsValue_concat (t : Text) (c : CodePoint) :
    digitsValue (t ++ [c]) = 10 * digitsValue t + c.digitValue := by
  simp [digitsValue]

theorem ofNat_of_lt {n : Nat} (h : n < 10) : ofNat n = [CodePoint.ofDigit n] := by
  rw [ofNat, dif_pos h]

theorem ofNat_of_ge {n : Nat} (h : ¬ n < 10) :
    ofNat n = ofNat (n / 10) ++ [CodePoint.ofDigit (n % 10)] := by
  rw [ofNat, dif_neg h]

theorem all_isDigit_ofNat (n : Nat) : (ofNat n).all CodePoint.isDigit = true := by
  induction n using ofNat.induct with
  | case1 n h => simp [ofNat_of_lt h, CodePoint.isDigit_ofDigit h]
  | case2 n h ih =>
    rw [ofNat_of_ge h, List.all_append, ih]
    simp [CodePoint.isDigit_ofDigit (Nat.mod_lt n (by decide : 0 < 10))]

/-- The digits of a number read back as the number. -/
@[simp] theorem digitsValue_ofNat (n : Nat) : digitsValue (ofNat n) = n := by
  induction n using ofNat.induct with
  | case1 n h => simp [ofNat_of_lt h, digitsValue, CodePoint.digitValue_ofDigit h]
  | case2 n h ih =>
    rw [ofNat_of_ge h, digitsValue_concat, ih,
      CodePoint.digitValue_ofDigit (Nat.mod_lt n (by decide : 0 < 10))]
    omega

theorem ofNat_inj {m n : Nat} : ofNat m = ofNat n ↔ m = n := by
  constructor
  · intro h
    rw [← digitsValue_ofNat m, h, digitsValue_ofNat]
  · rintro rfl; rfl

/-! ### Pieces -/

theorem pieces_ne_nil (sep : CodePoint) (t : Text) : pieces sep t ≠ [] := by
  induction t with
  | nil => simp [pieces]
  | cons c rest ih =>
    unfold pieces
    split
    · simp
    · split <;> simp

/-- Joining the pieces of a text with the separator gives the text back. -/
theorem join_pieces (sep : CodePoint) (t : Text) : join [sep] (pieces sep t) = t := by
  induction t with
  | nil => rfl
  | cons c rest ih =>
    unfold pieces
    by_cases h : c = sep
    · rw [if_pos h]
      cases hp : pieces sep rest with
      | nil => exact absurd hp (pieces_ne_nil sep rest)
      | cons p ps => rw [hp] at ih; simp [join, ih, h]
    · rw [if_neg h]
      cases hp : pieces sep rest with
      | nil => exact absurd hp (pieces_ne_nil sep rest)
      | cons p ps =>
        rw [hp] at ih
        cases ps with
        | nil => simpa [join] using ih
        | cons q qs => simpa [join] using ih

/-- No piece holds the separator. -/
theorem sep_not_mem_of_mem_pieces {sep : CodePoint} {t p : Text} (h : p ∈ pieces sep t) :
    sep ∉ p := by
  induction t generalizing p with
  | nil => simp [pieces] at h; simp [h]
  | cons c rest ih =>
    unfold pieces at h
    by_cases hc : c = sep
    · rw [if_pos hc] at h
      rcases List.mem_cons.1 h with rfl | h
      · simp
      · exact ih h
    · rw [if_neg hc] at h
      cases hp : pieces sep rest with
      | nil => exact absurd hp (pieces_ne_nil sep rest)
      | cons q qs =>
        rw [hp] at h ih
        rcases List.mem_cons.1 h with rfl | h
        · have := ih (p := q) (by simp)
          simp [this, Ne.symm hc]
        · exact ih (List.mem_cons_of_mem _ h)

end Text
end Intake
