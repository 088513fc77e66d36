import Intake.Text.Basic

/-!
# Pieces of a text

Cutting a text at every separator undoes joining texts that do not hold it, and cutting once finds the
first separator. There is one piece more than separators, and every other code point stands in a piece.
-/

namespace Intake

namespace Text

theorem pieces_eq_splitOn (sep : CodePoint) (t : Text) : pieces sep t = t.splitOn sep := by
  rw [List.splitOn]
  induction t with
  | nil => rfl
  | cons c rest ih =>
    rw [pieces, ih, List.splitOnP_cons_eq_if_modifyHead]
    by_cases hc : c = sep
    · rw [if_pos hc, if_pos (beq_iff_eq.2 hc)]
    · rw [if_neg hc, if_neg (by simpa using hc)]
      cases h : List.splitOnP (· == sep) rest with
      | nil => exact absurd h (List.splitOnP_ne_nil _ _)
      | cons p ps => rfl

theorem join_eq_intercalate (sep : Text) (ts : List Text) : join sep ts = sep.intercalate ts := by
  induction ts with
  | nil => rfl
  | cons t ts ih =>
    cases ts with
    | nil => simp [join, List.intercalate]
    | cons u us => rw [join, ih]; simp [List.intercalate, List.intersperse]

/-- Texts without the separator are the pieces of what they are joined to. -/
theorem pieces_join {sep : CodePoint} {ts : List Text} (hne : ts ≠ []) (h : ∀ t ∈ ts, sep ∉ t) :
    pieces sep (join [sep] ts) = ts := by
  rw [pieces_eq_splitOn, join_eq_intercalate]
  exact List.splitOn_intercalate sep h hne

theorem pieces_append (sep : CodePoint) (t u : Text) :
    pieces sep (t ++ sep :: u) = pieces sep t ++ pieces sep u := by
  rw [pieces_eq_splitOn, pieces_eq_splitOn, pieces_eq_splitOn]
  exact List.splitOnP_append_cons t u (beq_self_eq_true sep)

theorem pieces_of_not_mem {sep : CodePoint} {t : Text} (h : sep ∉ t) : pieces sep t = [t] := by
  rw [pieces_eq_splitOn, List.splitOn_eq_singleton h]

/-- There is one piece more than separators. -/
theorem length_pieces (sep : CodePoint) (t : Text) : (pieces sep t).length = t.count sep + 1 := by
  induction t with
  | nil => rfl
  | cons c rest ih =>
    rw [pieces]
    by_cases hc : c = sep
    · rw [if_pos hc, List.length_cons, ih, hc, List.count_cons_self]
    · rw [if_neg hc, List.count_cons_of_ne hc, ← ih]
      cases h : pieces sep rest with
      | nil => exact absurd h (pieces_ne_nil sep rest)
      | cons p ps => rfl

/-- What stands in a joined text is the separator or stands in one of the texts. -/
theorem mem_join {sep c : CodePoint} {ts : List Text} (h : c ∈ join [sep] ts) :
    c = sep ∨ ∃ t ∈ ts, c ∈ t := by
  induction ts with
  | nil => cases h
  | cons t ts ih =>
    cases ts with
    | nil => exact .inr ⟨t, List.mem_cons_self, h⟩
    | cons u us =>
      rw [join, List.mem_append, List.mem_append, List.mem_singleton] at h
      rcases h with (ht | hsep) | hrest
      · exact .inr ⟨t, List.mem_cons_self, ht⟩
      · exact .inl hsep
      · rcases ih hrest with heq | ⟨u, hu, hc⟩
        · exact .inl heq
        · exact .inr ⟨u, List.mem_cons_of_mem _ hu, hc⟩

/-- What stands in one of the texts stands in the joined text. -/
theorem mem_join_of_mem {sep t : Text} {c : CodePoint} {ts : List Text} (ht : t ∈ ts) (hc : c ∈ t) :
    c ∈ join sep ts := by
  induction ts with
  | nil => cases ht
  | cons u us ih =>
    cases us with
    | nil =>
      rw [List.mem_singleton] at ht
      exact ht ▸ hc
    | cons v vs =>
      rw [join, List.append_assoc, List.mem_append, List.mem_append]
      rcases List.mem_cons.1 ht with rfl | hrest
      · exact .inl hc
      · exact .inr (.inr (ih hrest))

/-- What stands in a piece stands in the text. -/
theorem mem_of_mem_pieces {sep c : CodePoint} {t piece : Text} (hpiece : piece ∈ pieces sep t)
    (hc : c ∈ piece) : c ∈ t := by
  rw [← join_pieces sep t]
  exact mem_join_of_mem hpiece hc

/-- What stands in a text is the separator or stands in one of its pieces. -/
theorem mem_pieces (sep : CodePoint) {c : CodePoint} {t : Text} (h : c ∈ t) :
    c = sep ∨ ∃ p ∈ pieces sep t, c ∈ p := by
  rw [← join_pieces sep t] at h
  exact mem_join h

/-! ### Cutting once -/

theorem cut_of_not_mem {sep : CodePoint} {t : Text} (h : sep ∉ t) : cut sep t = (t, none) := by
  induction t with
  | nil => rfl
  | cons c rest ih =>
    rw [List.mem_cons, not_or] at h
    rw [cut, if_neg (Ne.symm h.1), ih h.2]

theorem cut_append {sep : CodePoint} {t : Text} (h : sep ∉ t) (u : Text) :
    cut sep (t ++ sep :: u) = (t, some u) := by
  induction t with
  | nil => rw [List.nil_append, cut, if_pos rfl]
  | cons c rest ih =>
    rw [List.mem_cons, not_or] at h
    rw [List.cons_append, cut, if_neg (Ne.symm h.1), ih h.2]

/-- A cut is the first place where the separator stands. -/
theorem cut_cases (sep : CodePoint) (t : Text) :
    (sep ∉ t ∧ cut sep t = (t, none)) ∨
      ∃ before after, t = before ++ sep :: after ∧ sep ∉ before ∧ cut sep t = (before, some after) := by
  by_cases h : sep ∈ t
  · obtain ⟨before, after, rfl, hbefore⟩ := List.eq_append_cons_of_mem h
    exact .inr ⟨before, after, rfl, hbefore, cut_append hbefore after⟩
  · exact .inl ⟨h, cut_of_not_mem h⟩

end Text

end Intake
