import Intake.Text.Basic

/-!
# Fresh names

Names for what is created are drawn one after the other from an endless list in which none stands twice.
They are ASCII, so that every encoding and every header can carry them. A fixed beginning with a number
behind it is such a list.
-/

namespace Intake

/-- An endless list of names, no two of which are the same. -/
structure Names where
  name : Nat → Text
  injective : ∀ {m n : Nat}, name m = name n → m = n
  ascii : ∀ n, ∀ c ∈ name n, c.val < 128

namespace Names

/-- Names that are told apart by a number. -/
def numbered (beginning : Text) (h : (beginning.all fun c => decide (c.val < 128)) = true) : Names where
  name n := beginning ++ Text.ofNat n
  injective h := Text.ofNat_inj.1 (List.append_cancel_left h)
  ascii n c hc := by
    rcases List.mem_append.1 hc with hc | hc
    · exact of_decide_eq_true (List.all_eq_true.1 h c hc)
    · exact CodePoint.lt_of_isDigit (List.all_eq_true.1 (Text.all_isDigit_ofNat n) c hc)

/-- A name can be carried by every encoding. -/
theorem encodable (ns : Names) (n : Nat) : (ns.name n).encodable = true := by
  rw [Text.encodable, List.all_eq_true]
  intro c hc
  have hascii := ns.ascii n c hc
  simp only [CodePoint.isSurrogate, Bool.not_eq_true', Bool.and_eq_false_iff, decide_eq_false_iff_not]
  omega

/-- A name that was drawn is not the next one. -/
theorem name_ne_next (ns : Names) {n drawn : Nat} (h : n ≤ drawn) : ns.name n ≠ ns.name (drawn + 1) :=
  fun hname => Nat.ne_of_lt (Nat.lt_succ_of_le h) (ns.injective hname)

end Names
end Intake
