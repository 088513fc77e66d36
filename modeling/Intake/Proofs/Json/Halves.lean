import Intake.Proofs.Json.Escape
import Intake.Proofs.Text.Ends

/-!
# What putting halves together leaves alone

When the halves of code points in a text are put together, nothing else changes. What takes their place lies
above U+FFFF, and a half lies among the surrogates:

        text     a  U+D83D  U+DE00  /
        joined   a      U+1F600     /

So the ends of the text, its beginning in ASCII and what it is free of stay what they are, as far as they
are told by a test that neither halves nor code points above U+FFFF pass.
-/

namespace Intake

/-- A test that passes no half and no code point above U+FFFF. -/
def CodePoint.Basic (p : CodePoint → Bool) : Prop :=
  ∀ c : CodePoint, c.isSurrogate = true ∨ 0x10000 ≤ c.val → p c = false

namespace Text

/-- What halves are put together to lies above U+FFFF. -/
theorem le_paired {c d : CodePoint} (h : (c.isHighSurrogate && d.isLowSurrogate) = true) :
    0x10000 ≤ (Units.paired c.val d.val).val := by
  simp only [CodePoint.isHighSurrogate, CodePoint.isLowSurrogate, Bool.and_eq_true,
    decide_eq_true_iff] at h
  have hlt : 0x10000 + (c.val - 0xD800) * 1024 + (d.val - 0xDC00) < 0x110000 := by omega
  rw [Units.paired, CodePoint.ofNat, dif_pos hlt]
  change 0x10000 ≤ 0x10000 + (c.val - 0xD800) * 1024 + (d.val - 0xDC00)
  omega

theorem joined_of_pair {c d : CodePoint} (h : (c.isHighSurrogate && d.isLowSurrogate) = true)
    (rest : Text) : joined (c :: d :: rest) = Units.paired c.val d.val :: joined rest := by
  rw [joined, if_pos h]

theorem joined_of_no_pair {c d : CodePoint} (h : ¬(c.isHighSurrogate && d.isLowSurrogate) = true)
    (rest : Text) : joined (c :: d :: rest) = c :: joined (d :: rest) := by
  rw [joined, if_neg h]

theorem joined_ne_nil {t : Text} (h : t ≠ []) : joined t ≠ [] := by
  induction t using joined.induct with
  | case1 c d rest hpair ih => rw [joined_of_pair hpair]; exact List.cons_ne_nil _ _
  | case2 c d rest hpair ih => rw [joined_of_no_pair hpair]; exact List.cons_ne_nil _ _
  | case3 t hshort => rwa [joined.eq_2 t hshort]

/-- Every code point of a joined text stands in the text or lies above U+FFFF. -/
theorem mem_joined {t : Text} {e : CodePoint} (h : e ∈ joined t) : e ∈ t ∨ 0x10000 ≤ e.val := by
  induction t using joined.induct with
  | case1 c d rest hpair ih =>
    have hfar := le_paired hpair
    rw [joined_of_pair hpair, List.mem_cons] at h
    rcases h with heq | hrest
    · rw [heq]
      exact .inr hfar
    · exact (ih hrest).imp_left fun hmem => List.mem_cons_of_mem _ (List.mem_cons_of_mem _ hmem)
  | case2 c d rest hpair ih =>
    rw [joined_of_no_pair hpair, List.mem_cons] at h
    rcases h with rfl | hrest
    · exact .inl List.mem_cons_self
    · exact (ih hrest).imp_left (List.mem_cons_of_mem _)
  | case3 t hshort =>
    rw [joined.eq_2 t hshort] at h
    exact .inl h

/-- The first code point of a joined text is that of the text or lies above U+FFFF. -/
theorem head?_joined {t : Text} {e : CodePoint} (h : (joined t).head? = some e) :
    t.head? = some e ∨ 0x10000 ≤ e.val := by
  induction t using joined.induct with
  | case1 c d rest hpair ih =>
    have hfar := le_paired hpair
    rw [joined_of_pair hpair, List.head?_cons, Option.some.injEq] at h
    rw [h] at hfar
    exact .inr hfar
  | case2 c d rest hpair ih =>
    rw [joined_of_no_pair hpair] at h
    exact .inl h
  | case3 t hshort =>
    rw [joined.eq_2 t hshort] at h
    exact .inl h

/-- The last code point of a joined text is that of the text or lies above U+FFFF. -/
theorem getLast?_joined {t : Text} {e : CodePoint} (h : (joined t).getLast? = some e) :
    t.getLast? = some e ∨ 0x10000 ≤ e.val := by
  induction t using joined.induct with
  | case1 c d rest hpair ih =>
    have hfar := le_paired hpair
    rw [joined_of_pair hpair, List.getLast?_cons] at h
    cases hlast : (joined rest).getLast? with
    | none =>
      rw [hlast, Option.getD_none, Option.some.injEq] at h
      rw [h] at hfar
      exact .inr hfar
    | some f =>
      rw [hlast, Option.getD_some] at h
      rw [List.getLast?_cons, List.getLast?_cons]
      refine (ih (hlast.trans h)).imp_left fun hrest => ?_
      rw [hrest]
      rfl
  | case2 c d rest hpair ih =>
    have hne : joined (d :: rest) ≠ [] := joined_ne_nil (List.cons_ne_nil _ _)
    rw [joined_of_no_pair hpair, List.getLast?_cons_of_ne_nil hne] at h
    rw [List.getLast?_cons_cons]
    exact ih h
  | case3 t hshort =>
    rw [joined.eq_2 t hshort] at h
    exact .inl h

variable {p : CodePoint → Bool}

/-- A joined text passes a basic test everywhere when the text does. -/
theorem all_joined (hp : CodePoint.Basic p) (t : Text) : (joined t).all p = t.all p := by
  induction t using joined.induct with
  | case1 c d rest hpair ih =>
    have hc : p c = false := hp c (.inl (Json.isSurrogate_of_high (Bool.and_eq_true_iff.1 hpair).1))
    have hpaired : p (Units.paired c.val d.val) = false := hp _ (.inr (le_paired hpair))
    rw [joined_of_pair hpair, List.all_cons, List.all_cons, hpaired, hc, Bool.false_and,
      Bool.false_and]
  | case2 c d rest hpair ih => rw [joined_of_no_pair hpair, List.all_cons, ih]; rfl
  | case3 t hshort => rw [joined.eq_2 t hshort]

/-- What code points below the surrogates begin, they begin after joining, too. -/
theorem isPrefixOf_joined {t part : Text} (hpart : ∀ x ∈ part, x.val < 0xD800) :
    part.isPrefixOf (joined t) = part.isPrefixOf t := by
  induction t using joined.induct generalizing part with
  | case1 c d rest hpair ih =>
    have hc := Json.isSurrogate_of_high (Bool.and_eq_true_iff.1 hpair).1
    rw [CodePoint.isSurrogate, Bool.and_eq_true, decide_eq_true_iff] at hc
    have hfar := le_paired hpair
    rw [joined_of_pair hpair]
    cases part with
    | nil => rw [List.isPrefixOf_nil_left, List.isPrefixOf_nil_left]
    | cons x part =>
      have hnear := hpart x List.mem_cons_self
      have hne : (x == c) = false := beq_false_of_ne fun heq => by
        rw [heq] at hnear
        exact Nat.not_lt.2 hc.1 hnear
      have hne' : (x == Units.paired c.val d.val) = false := beq_false_of_ne fun heq => by
        rw [heq] at hnear
        omega
      rw [List.isPrefixOf, List.isPrefixOf, hne, hne', Bool.false_and, Bool.false_and]
  | case2 c d rest hpair ih =>
    rw [joined_of_no_pair hpair]
    cases part with
    | nil => rw [List.isPrefixOf_nil_left, List.isPrefixOf_nil_left]
    | cons x part =>
      rw [List.isPrefixOf, List.isPrefixOf, ih fun y hy => hpart y (List.mem_cons_of_mem _ hy)]
  | case3 t hshort => rw [joined.eq_2 t hshort]

/-! ### Nothing to strip -/

theorem stripWhile_joined (hp : CodePoint.Basic p) {t : Text} (h : stripWhile p t = t) :
    stripWhile p (joined t) = joined t := by
  rw [stripWhile_eq_self_iff] at h ⊢
  exact ⟨fun c hc => (head?_joined hc).elim (h.1 c) fun hfar => hp c (.inr hfar),
    fun c hc => (getLast?_joined hc).elim (h.2 c) fun hfar => hp c (.inr hfar)⟩

/-- White space is told by a basic test. -/
theorem basic_isBlank : CodePoint.Basic CodePoint.isBlank := by
  intro c hc
  simp only [CodePoint.isSurrogate, Bool.and_eq_true, decide_eq_true_iff] at hc
  simp only [CodePoint.isBlank, Bool.and_eq_false_iff, Bool.or_eq_false_iff, decide_eq_false_iff_not,
    beq_eq_false_iff_ne]
  omega

end Text

end Intake
