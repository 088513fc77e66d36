import Intake.Proofs.Json.Scalar
import Intake.Proofs.Json.Settled

/-!
# What is written is read

A regular value that is written in either layout is read again, settled. The reader's supply of steps is
the length of the text: every item, member and scalar takes at least one code point, and the layouts put
nothing but blanks after commas and colons.
-/

namespace Intake.Json

/-! ### Blanks -/

/-- Separators are a comma and a colon with blanks after them. -/
structure Layout.Readable (l : Layout) : Prop where
  comma : ∃ bs, l.comma = 44 :: bs ∧ bs.all isSpace = true
  colon : ∃ bs, l.colon = 58 :: bs ∧ bs.all isSpace = true

theorem readable_spaced : Layout.spaced.Readable :=
  ⟨⟨[32], by decide, by decide⟩, ⟨[32], by decide, by decide⟩⟩

theorem skip_cons {c : CodePoint} (h : isSpace c = false) (t : Text) : skip (c :: t) = c :: t := by
  rw [skip, List.dropWhile_cons_of_neg (by simp [h])]

theorem skip_append {bs : Text} (hbs : bs.all isSpace = true) (t : Text) : skip (bs ++ t) = skip t := by
  rw [List.all_eq_true] at hbs
  rw [skip, List.dropWhile_append_of_pos hbs, skip]

/-! ### The first code point of a value -/

/-- A word or a number begins with it. -/
def beginsScalar (c : CodePoint) : Bool :=
  c.isDigit || [45, 110, 116, 102, 78, 73].contains c

theorem beginsScalar_ne {c d : CodePoint} (hc : beginsScalar c = true) (hd : beginsScalar d = false) :
    c ≠ d := by
  rintro rfl
  rw [hc] at hd
  cases hd

theorem isSpace_of_beginsScalar {c : CodePoint} (hc : beginsScalar c = true) : isSpace c = false := by
  have h (d : CodePoint) (hd : beginsScalar d = false) : (c == d) = false :=
    beq_false_of_ne (beginsScalar_ne hc hd)
  rw [isSpace, h 32 (by decide), h 9 (by decide), h 10 (by decide), h 13 (by decide)]
  rfl

theorem beginsScalar_of_digit {c : CodePoint} (hc : c.isDigit = true) : beginsScalar c = true := by
  rw [beginsScalar, hc]; rfl

theorem begin_signed {c : CodePoint} {t : Text} (hc : c.isDigit = true) (negative : Prop)
    [Decidable negative] : ∃ d rest, (if negative then ("-" : Text) else []) ++ c :: t = d :: rest ∧
      beginsScalar d = true := by
  by_cases h : negative
  · exact ⟨45, c :: t, by rw [if_pos h]; rfl, by decide⟩
  · exact ⟨c, t, by rw [if_neg h]; rfl, beginsScalar_of_digit hc⟩

theorem begin_ofInt (n : Int) : ∃ c rest, Text.ofInt n = c :: rest ∧ beginsScalar c = true := by
  cases n with
  | ofNat n =>
    obtain ⟨c, rest, hc, hdigit⟩ := exists_digit (Text.ofNat_ne_nil n) (Text.all_isDigit_ofNat n)
    exact ⟨c, rest, hc, beginsScalar_of_digit hdigit⟩
  | negSucc n => exact ⟨45, Text.ofNat (n + 1), rfl, by decide⟩

theorem begin_writeReal {x : Binary64} (hx : x.Sound) :
    ∃ c rest, writeReal x = c :: rest ∧ beginsScalar c = true := by
  match x, hx with
  | .nan, _ => exact ⟨78, [97, 78], by decide, by decide⟩
  | .infinite false, _ => exact ⟨73, [110, 102, 105, 110, 105, 116, 121], by decide, by decide⟩
  | .infinite true, _ => exact ⟨45, [73, 110, 102, 105, 110, 105, 116, 121], by decide, by decide⟩
  | .negZero, _ => exact ⟨45, [48, 46, 48], by decide, by decide⟩
  | .finite .zero, _ => exact ⟨48, [46, 48], by decide, by decide⟩
  | .finite (.ofOdd n k hodd), hx =>
    obtain ⟨d, htext, hpos, -, -⟩ := hx.render "Infinity" "NaN"
    obtain ⟨c, rest, hc, hdigit⟩ := Numeral.exists_digit (Numeral.wellFormed_ofDecimal hpos)
    rw [writeReal, htext, Numeral.render_eq_text, hc]
    exact begin_signed hdigit (n < 0)

theorem readValue_of_scalar {fuel : Nat} {c : CodePoint} {t : Text} (hc : beginsScalar c = true) :
    readValue (fuel + 1) (c :: t) = readScalar (c :: t) := by
  rw [readValue, if_neg (beginsScalar_ne hc (by decide)), if_neg (beginsScalar_ne hc (by decide)),
    if_neg (beginsScalar_ne hc (by decide))]

/-- The first code point of a value is no blank and closes nothing. -/
theorem begin_write (l : Layout) {v : Value} (hv : v.Regular) :
    ∃ c rest, write l v = c :: rest ∧ isSpace c = false ∧ c ≠ 93 ∧ c ≠ 125 := by
  have hscalar {t : Text} (h : ∃ c rest, t = c :: rest ∧ beginsScalar c = true) :
      ∃ c rest, t = c :: rest ∧ isSpace c = false ∧ c ≠ 93 ∧ c ≠ 125 := by
    obtain ⟨c, rest, ht, hc⟩ := h
    exact ⟨c, rest, ht, isSpace_of_beginsScalar hc, beginsScalar_ne hc (by decide),
      beginsScalar_ne hc (by decide)⟩
  cases v with
  | null => exact hscalar ⟨110, [117, 108, 108], by rw [write]; decide, by decide⟩
  | bool b =>
    cases b with
    | true => exact hscalar ⟨116, [114, 117, 101], by rw [write]; decide, by decide⟩
    | false => exact hscalar ⟨102, [97, 108, 115, 101], by rw [write]; decide, by decide⟩
  | int n => exact hscalar (begin_ofInt n)
  | real x => exact hscalar (begin_writeReal hv)
  | str s => exact ⟨34, _, rfl, by decide, by decide, by decide⟩
  | arr items => exact ⟨91, _, rfl, by decide, by decide, by decide⟩
  | obj ms => exact ⟨123, _, rfl, by decide, by decide, by decide⟩

/-! ### Reading what was written -/

/-- What stands after an item: the closing bracket, or a comma and the next item. -/
theorem ends_items {l : Layout} (hl : l.Readable) (vs : List Value) (t : Text) :
    Ends (writeMoreItems l vs ++ 93 :: t) := by
  obtain ⟨bs, hcomma, -⟩ := hl.comma
  cases vs with
  | nil => simp [writeMoreItems, Ends, CodePoint.isDigit]
  | cons v vs => simp [writeMoreItems, hcomma, Ends, CodePoint.isDigit]

theorem ends_members {l : Layout} (hl : l.Readable) (ms : List (Text × Value)) (t : Text) :
    Ends (writeMoreMembers l ms ++ 125 :: t) := by
  obtain ⟨bs, hcomma, -⟩ := hl.comma
  cases ms with
  | nil => simp [writeMoreMembers, Ends, CodePoint.isDigit]
  | cons e ms =>
    obtain ⟨k, v⟩ := e
    simp [writeMoreMembers, hcomma, Ends, CodePoint.isDigit]

theorem skip_write {l : Layout} {v : Value} (hv : v.Regular) {bs : Text}
    (hbs : bs.all isSpace = true) (t : Text) :
    skip (bs ++ (write l v ++ t)) = write l v ++ t := by
  obtain ⟨c, rest, hc, hspace, -, -⟩ := begin_write l hv
  rw [skip_append hbs, hc, List.cons_append, skip_cons hspace]

theorem skip_writeText {bs : Text} (hbs : bs.all isSpace = true) (s t : Text) :
    skip (bs ++ (writeText s ++ t)) = writeText s ++ t := by
  rw [skip_append hbs, writeText, List.cons_append, skip_cons (by decide)]

mutual
/-- A value is read from the front of its text, whatever ends it. -/
theorem readValue_write {l : Layout} (hl : l.Readable) :
    ∀ (v : Value), v.Regular → ∀ (fuel : Nat) (t : Text), Ends t → (write l v).length ≤ fuel →
      readValue fuel (write l v ++ t) = some (v.settled, t)
  | v, hv, 0, t, ht, hfuel => by
    obtain ⟨c, rest, hc, -⟩ := begin_write l hv
    rw [hc] at hfuel
    cases hfuel
  | .null, hv, fuel + 1, t, ht, hfuel => by
    obtain ⟨hnull, -⟩ := words_eq
    have h := readScalar_null t
    rw [write]
    rw [hnull, List.cons_append] at h ⊢
    rw [readValue_of_scalar (by decide), h]
    rfl
  | .bool true, hv, fuel + 1, t, ht, hfuel => by
    obtain ⟨-, htrue, -⟩ := words_eq
    have h := readScalar_true t
    rw [write]
    rw [htrue, List.cons_append] at h ⊢
    rw [readValue_of_scalar (by decide), h]
    rfl
  | .bool false, hv, fuel + 1, t, ht, hfuel => by
    obtain ⟨-, -, hfalse, -⟩ := words_eq
    have h := readScalar_false t
    rw [write]
    rw [hfalse, List.cons_append] at h ⊢
    rw [readValue_of_scalar (by decide), h]
    rfl
  | .int n, hv, fuel + 1, t, ht, hfuel => by
    obtain ⟨c, rest, hc, hbegin⟩ := begin_ofInt n
    have h := readScalar_ofInt n ht
    rw [write]
    rw [hc, List.cons_append] at h ⊢
    rw [readValue_of_scalar hbegin, h]
    rfl
  | .real x, hv, fuel + 1, t, ht, hfuel => by
    obtain ⟨c, rest, hc, hbegin⟩ := begin_writeReal hv
    have h := readScalar_writeReal hv ht
    rw [write]
    rw [hc, List.cons_append] at h ⊢
    rw [readValue_of_scalar hbegin, h]
    rfl
  | .str s, hv, fuel + 1, t, ht, hfuel => by
    rw [write, writeText, List.cons_append, List.append_assoc, readValue, if_pos rfl]
    simp only [List.cons_append, List.nil_append, readText_writeText]
    rfl
  | .arr [], hv, fuel + 1, t, ht, hfuel => by
    rw [write, List.cons_append, readValue, if_neg (by decide), if_pos rfl]
    rfl
  | .arr (v :: vs), hv, fuel + 1, t, ht, hfuel => by
    obtain ⟨c, rest, hc, hspace, hclose, -⟩ := begin_write l hv.1
    have hitems := readItems_write hl v vs hv.1 hv.2 fuel t (by
      rw [write, writeItems] at hfuel
      simp only [List.length_cons, List.length_append, List.length_nil] at hfuel ⊢
      omega)
    rw [write, writeItems, List.cons_append, readValue, if_neg (by decide), if_pos rfl]
    simp only [List.append_assoc, List.cons_append, List.nil_append]
    rw [hc, List.cons_append] at hitems ⊢
    rw [skip_cons hspace]
    simp only [if_neg hclose, hitems]
    rfl
  | .obj [], hv, fuel + 1, t, ht, hfuel => by
    rw [write, List.cons_append, readValue, if_neg (by decide), if_neg (by decide), if_pos rfl]
    rfl
  | .obj ((k, v) :: ms), hv, fuel + 1, t, ht, hfuel => by
    have hmembers := readMembers_write hl k v ms hv.2.1 hv.2.2 fuel t (by
      rw [write, writeMembers] at hfuel
      simp only [List.length_cons, List.length_append, List.length_nil] at hfuel ⊢
      omega)
    rw [write, writeMembers, List.cons_append, readValue, if_neg (by decide), if_neg (by decide),
      if_pos rfl]
    simp only [List.append_assoc, List.cons_append, List.nil_append]
    rw [writeText, List.cons_append] at hmembers ⊢
    rw [skip_cons (by decide)]
    simp only [hmembers]
    rfl
/-- Items are read up to the closing bracket. -/
theorem readItems_write {l : Layout} (hl : l.Readable) :
    ∀ (v : Value) (vs : List Value), v.Regular → Value.RegularItems vs → ∀ (fuel : Nat) (t : Text),
      (write l v ++ writeMoreItems l vs).length < fuel →
      readItems fuel (write l v ++ (writeMoreItems l vs ++ 93 :: t)) =
        some (v.settled :: Value.settledItems vs, t)
  | v, vs, hv, hvs, 0, t, hfuel => by cases hfuel
  | v, [], hv, hvs, fuel + 1, t, hfuel => by
    have hvalue := readValue_write hl v hv fuel (writeMoreItems l [] ++ 93 :: t) (ends_items hl [] t) (by
      rw [List.length_append] at hfuel
      omega)
    rw [readItems, hvalue]
    simp only [writeMoreItems, List.nil_append]
    rw [skip_cons (by decide)]
    rfl
  | v, w :: vs, hv, hvs, fuel + 1, t, hfuel => by
    obtain ⟨bs, hcomma, hbs⟩ := hl.comma
    have hvalue := readValue_write hl v hv fuel (writeMoreItems l (w :: vs) ++ 93 :: t)
      (ends_items hl (w :: vs) t) (by
        rw [List.length_append] at hfuel
        omega)
    have hitems := readItems_write hl w vs hvs.1 hvs.2 fuel t (by
      rw [writeMoreItems, hcomma] at hfuel
      simp only [List.length_cons, List.length_append] at hfuel ⊢
      omega)
    rw [readItems, hvalue]
    simp only [writeMoreItems, hcomma, List.cons_append, List.append_assoc]
    rw [skip_cons (by decide)]
    simp only [if_true, skip_write hvs.1 hbs, hitems]
    rfl
/-- Members are read up to the closing brace. -/
theorem readMembers_write {l : Layout} (hl : l.Readable) :
    ∀ (k : Text) (v : Value) (ms : List (Text × Value)), v.Regular → Value.RegularMembers ms →
      ∀ (fuel : Nat) (t : Text),
      (writeText k ++ l.colon ++ write l v ++ writeMoreMembers l ms).length < fuel →
      readMembers fuel (writeText k ++ (l.colon ++ (write l v ++ (writeMoreMembers l ms ++ 125 :: t)))) =
        some ((k.joined, v.settled) :: Value.settledMembers ms, t)
  | k, v, ms, hv, hms, 0, t, hfuel => by cases hfuel
  | k, v, [], hv, hms, fuel + 1, t, hfuel => by
    obtain ⟨bs, hcolon, hbs⟩ := hl.colon
    have hvalue := readValue_write hl v hv fuel (writeMoreMembers l [] ++ 125 :: t)
      (ends_members hl [] t) (by
        simp only [List.length_append] at hfuel
        omega)
    rw [writeText, List.cons_append, List.append_assoc, readMembers, if_pos rfl]
    simp only [List.cons_append, List.nil_append, readText_writeText, hcolon]
    rw [skip_cons (by decide)]
    simp only [if_true, skip_write hv hbs, hvalue]
    simp only [writeMoreMembers, List.nil_append]
    rw [skip_cons (by decide)]
    rfl
  | k, v, (k', w) :: ms, hv, hms, fuel + 1, t, hfuel => by
    obtain ⟨bs, hcolon, hbs⟩ := hl.colon
    obtain ⟨cs, hcomma, hcs⟩ := hl.comma
    have hvalue := readValue_write hl v hv fuel (writeMoreMembers l ((k', w) :: ms) ++ 125 :: t)
      (ends_members hl ((k', w) :: ms) t) (by
        simp only [List.length_append] at hfuel
        omega)
    have hmembers := readMembers_write hl k' w ms hms.1 hms.2 fuel t (by
      rw [writeMoreMembers, hcomma] at hfuel
      simp only [List.length_cons, List.length_append] at hfuel ⊢
      omega)
    rw [writeText, List.cons_append, List.append_assoc, readMembers, if_pos rfl]
    simp only [List.cons_append, List.nil_append, readText_writeText, hcolon]
    rw [skip_cons (by decide)]
    simp only [if_true, skip_write hv hbs, hvalue]
    simp only [writeMoreMembers, hcomma, List.cons_append, List.append_assoc]
    rw [skip_cons (by decide)]
    simp only [if_true, skip_writeText hcs, hmembers]
    rfl
end

/-- A value that is written is read again, settled. -/
theorem read?_write {l : Layout} (hl : l.Readable) {v : Value} (hv : v.Regular) :
    read? (write l v) = some v.settled := by
  have hskip : skip ([] ++ (write l v ++ [])) = write l v ++ [] := skip_write hv rfl []
  have hread := readValue_write hl v hv (2 * (write l v).length + 2) [] Ends.nil (by omega)
  rw [List.append_nil] at hskip hread
  rw [read?, ← List.nil_append (write l v), hskip, List.nil_append, hread]
  rfl

end Intake.Json
