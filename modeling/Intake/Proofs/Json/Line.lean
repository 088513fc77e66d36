import Intake.Proofs.Json.Settled
import Intake.Proofs.Number.Displayed

/-!
# What is written is a line of ASCII

Whatever a code point is, it is written in printable ASCII: as itself, as a short escape, or as the escapes
of its units. The words, the numbers and what stands between values are ASCII anyway. So a written value is
one line, which every encoding can carry and no reading of line ends changes.
-/

namespace Intake

namespace Text

/-- Nothing but printable ASCII. -/
def isLine (t : Text) : Bool := t.all fun c => decide (0x20 ≤ c.val) && decide (c.val ≤ 0x7E)

theorem isLine_append (t u : Text) : isLine (t ++ u) = (isLine t && isLine u) := List.all_append

theorem isLine_cons (c : CodePoint) (t : Text) : isLine (c :: t) = (isLine [c] && isLine t) :=
  isLine_append [c] t

theorem isLine_iff {t : Text} : isLine t = true ↔ ∀ c ∈ t, 0x20 ≤ c.val ∧ c.val ≤ 0x7E := by
  simp only [isLine, List.all_eq_true, Bool.and_eq_true, decide_eq_true_iff]

/-- A line can be carried by every encoding. -/
theorem encodable_of_isLine {t : Text} (h : isLine t = true) : t.encodable = true := by
  rw [isLine_iff] at h
  rw [encodable, List.all_eq_true]
  intro c hc
  have hval := h c hc
  simp only [CodePoint.isSurrogate, Bool.not_eq_true', Bool.and_eq_false_iff, decide_eq_false_iff_not]
  omega

theorem isLine_of_marks {t : Text} (h : ∀ c ∈ t, Typed.isMark c = true) : isLine t = true := by
  rw [isLine_iff]
  intro c hc
  have hval := Typed.val_of_isMark (h c hc)
  omega

theorem isLine_ofNat (n : Nat) : isLine (ofNat n) = true :=
  isLine_of_marks fun c hc => Typed.isMark_of_isDigit (List.all_eq_true.1 (all_isDigit_ofNat n) c hc)

theorem isLine_ofInt (n : Int) : isLine (ofInt n) = true := by
  cases n with
  | ofNat n => exact isLine_ofNat n
  | negSucc n => rw [ofInt, isLine_append, isLine_ofNat]; rfl

end Text

namespace Json

open Text

/-! ### Strings -/

theorem isLine_ofHexDigit (n : Nat) : isLine [CodePoint.ofHexDigit (n % 16)] = true := by
  have hall : ∀ d < 16, isLine [CodePoint.ofHexDigit d] = true := by decide
  exact hall _ (Nat.mod_lt n (by decide))

theorem isLine_unitEscape (u : Nat) : isLine (unitEscape u) = true := by
  change isLine ([92, 117] ++ ([CodePoint.ofHexDigit (u / 4096 % 16)] ++
    ([CodePoint.ofHexDigit (u / 256 % 16)] ++ ([CodePoint.ofHexDigit (u / 16 % 16)] ++
      [CodePoint.ofHexDigit (u % 16)])))) = true
  simp only [isLine_append, isLine_ofHexDigit]
  rfl

/-- Every code point is written in printable ASCII. -/
theorem isLine_escape (c : CodePoint) : isLine (escape c) = true := by
  have hunits : isLine ((Units.toUnits16 c).flatMap unitEscape) = true := by
    rw [isLine, List.all_flatMap, List.all_eq_true]
    exact fun u _ => isLine_unitEscape u
  unfold escape
  -- seven short escapes come first; each is two ASCII code points
  iterate 7
    split
    · rfl
  split
  · rename_i hself
    exact isLine_iff.2 fun d hd => List.mem_singleton.1 hd ▸ hself
  · exact hunits

theorem isLine_writeText (t : Text) : isLine (writeText t) = true := by
  have hall : isLine (t.flatMap escape) = true := by
    rw [isLine, List.all_flatMap, List.all_eq_true]
    exact fun c _ => isLine_escape c
  rw [writeText, isLine_cons, isLine_append, hall]
  rfl

/-! ### Numbers -/

theorem isLine_writeReal {x : Binary64} (hx : x.Sound) : isLine (writeReal x) = true := by
  match x, hx with
  | .nan, _ => decide
  | .infinite false, _ => decide
  | .infinite true, _ => decide
  | .negZero, _ => decide
  | .finite .zero, _ => decide
  | .finite (.ofOdd n k hodd), hx =>
    obtain ⟨d, htext, hpos, -, -⟩ := hx.render "Infinity" "NaN"
    have hmarks : isLine (Numeral.ofDecimal d).text = true :=
      isLine_of_marks fun c => Typed.isMark_of_mem_text (Numeral.wellFormed_ofDecimal hpos)
    rw [writeReal, htext, Numeral.render_eq_text, isLine_append, hmarks]
    split <;> rfl

/-! ### Values -/

/-- What stands between values is a line. -/
structure Layout.Plain (l : Layout) : Prop where
  comma : isLine l.comma = true
  colon : isLine l.colon = true

theorem plain_spaced : Layout.spaced.Plain := ⟨by decide, by decide⟩

mutual
/-- A written value is a line. -/
theorem isLine_write {l : Layout} (hl : l.Plain) : ∀ v : Value, v.Regular → isLine (write l v) = true
  | .null, _ => rfl
  | .bool true, _ => rfl
  | .bool false, _ => rfl
  | .int n, _ => isLine_ofInt n
  | .real _, hv => isLine_writeReal hv
  | .str s, _ => isLine_writeText s
  | .arr items, hv => by
    rw [write, isLine_cons, isLine_append, isLine_writeItems hl items hv]
    rfl
  | .obj ms, hv => by
    rw [write, isLine_cons, isLine_append, isLine_writeMembers hl ms hv.2]
    rfl
theorem isLine_writeItems {l : Layout} (hl : l.Plain) : ∀ vs : List Value, Value.RegularItems vs →
    isLine (writeItems l vs) = true
  | [], _ => rfl
  | v :: vs, hv => by
    rw [writeItems, isLine_append, isLine_write hl v hv.1, isLine_writeMoreItems hl vs hv.2]
    rfl
theorem isLine_writeMoreItems {l : Layout} (hl : l.Plain) : ∀ vs : List Value, Value.RegularItems vs →
    isLine (writeMoreItems l vs) = true
  | [], _ => rfl
  | v :: vs, hv => by
    rw [writeMoreItems, isLine_append, isLine_append, hl.comma, isLine_write hl v hv.1,
      isLine_writeMoreItems hl vs hv.2]
    rfl
theorem isLine_writeMembers {l : Layout} (hl : l.Plain) : ∀ ms : List (Text × Value),
    Value.RegularMembers ms → isLine (writeMembers l ms) = true
  | [], _ => rfl
  | (k, v) :: ms, hv => by
    rw [writeMembers, isLine_append, isLine_append, isLine_append, isLine_writeText, hl.colon,
      isLine_write hl v hv.1, isLine_writeMoreMembers hl ms hv.2]
    rfl
theorem isLine_writeMoreMembers {l : Layout} (hl : l.Plain) : ∀ ms : List (Text × Value),
    Value.RegularMembers ms → isLine (writeMoreMembers l ms) = true
  | [], _ => rfl
  | (k, v) :: ms, hv => by
    rw [writeMoreMembers, isLine_append, isLine_append, isLine_append, isLine_append, hl.comma,
      isLine_writeText, hl.colon, isLine_write hl v hv.1, isLine_writeMoreMembers hl ms hv.2]
    rfl
end

end Json

end Intake
