import Intake.Text.Blank
import Mathlib.Data.List.DropRight

/-!
# The ends of a text

Dropping from the end leaves a text whose last code point is to stay, and stripping both ends leaves one
where both are. So a text stays as it is exactly when its ends are to stay, and dropping or stripping a
second time changes nothing.
-/

namespace Intake.Text

variable {p : CodePoint → Bool}

theorem stripWhile_sublist (p : CodePoint → Bool) (t : Text) : (stripWhile p t).Sublist t :=
  (List.rdropWhile_prefix p _).sublist.trans (List.dropWhile_sublist p)

/-- What is left was at the beginning. -/
theorem dropEndWhile_begins (p : CodePoint → Bool) (t : Text) : dropEndWhile p t <+: t :=
  List.rdropWhile_prefix p t

/-- What a text was stripped of does not stand at its end any more. -/
theorem getLast?_dropEndWhile {t : Text} {c : CodePoint}
    (h : (dropEndWhile p t).getLast? = some c) : p c = false := by
  obtain ⟨hne, rfl⟩ := List.mem_getLast?_eq_getLast h
  exact Bool.eq_false_iff.2 (List.rdropWhile_last_not p t hne)

/-- Nothing is dropped at the end exactly when the last code point is to stay. -/
theorem dropEndWhile_eq_self_iff {t : Text} :
    dropEndWhile p t = t ↔ ∀ c, t.getLast? = some c → p c = false := by
  constructor
  · intro h c hc
    rw [← h] at hc
    exact getLast?_dropEndWhile hc
  · intro h
    exact List.rdropWhile_eq_self_iff.2 fun hne =>
      Bool.eq_false_iff.1 (h _ (List.getLast?_eq_some_getLast hne))

/-- Nothing is dropped at the beginning exactly when the first code point is to stay. -/
theorem dropWhile_eq_self_iff {t : Text} :
    t.dropWhile p = t ↔ ∀ c, t.head? = some c → p c = false := by
  cases t with
  | nil => simp
  | cons c rest =>
    rw [List.dropWhile_eq_self_iff]
    simp

/-- Nothing is stripped exactly when both ends are to stay. -/
theorem stripWhile_eq_self_iff {t : Text} : stripWhile p t = t ↔
    (∀ c, t.head? = some c → p c = false) ∧ ∀ c, t.getLast? = some c → p c = false := by
  rw [← dropWhile_eq_self_iff, ← dropEndWhile_eq_self_iff, stripWhile]
  constructor
  · intro h
    have hdrop : t.dropWhile p = t := by
      refine (List.dropWhile_suffix p).eq_of_length_le ?_
      rw [← congrArg List.length h]
      exact (dropEndWhile_begins p _).length_le
    exact ⟨hdrop, by rwa [hdrop] at h⟩
  · rintro ⟨hdrop, hend⟩
    rw [hdrop, hend]

/-- What was stripped stays as it is. -/
theorem stripWhile_stripWhile (p : CodePoint → Bool) (t : Text) :
    stripWhile p (stripWhile p t) = stripWhile p t := by
  refine stripWhile_eq_self_iff.2 ⟨fun c hc => ?_, fun c hc => getLast?_dropEndWhile hc⟩
  obtain ⟨rest, hrest⟩ : stripWhile p t <+: t.dropWhile p := dropEndWhile_begins p _
  have hfirst := List.head?_dropWhile_not p t
  rw [← hrest, List.head?_append_of_ne_nil _ (by rintro hnil; rw [hnil] at hc; cases hc), hc] at hfirst
  exact hfirst

theorem trim_trim (t : Text) : trim (trim t) = trim t := stripWhile_stripWhile _ t

/-- A text of which nothing is to go is not stripped. -/
theorem stripWhile_of_forall {t : Text} (h : ∀ c ∈ t, p c = false) : stripWhile p t = t :=
  stripWhile_eq_self_iff.2 ⟨fun c hc => h c (List.mem_of_mem_head? hc),
    fun c hc => h c (List.mem_of_getLast? hc)⟩

/-- What stands before something that is to stay stays, too. -/
theorem dropEndWhile_append (t : Text) {u : Text} {c : CodePoint} (hmem : c ∈ u) (hc : p c = false) :
    dropEndWhile p (t ++ u) = t ++ dropEndWhile p u := by
  have hne : (u.reverse.dropWhile p).isEmpty = false := by
    rw [List.isEmpty_eq_false_iff, Ne, dropWhile_eq_nil_iff]
    exact fun h => Bool.eq_false_iff.1 hc (h c (List.mem_reverse.2 hmem))
  rw [dropEndWhile, List.reverse_append, List.dropWhile_append, hne, if_neg Bool.false_ne_true,
    List.reverse_append, List.reverse_reverse, dropEndWhile]

/-- What is dropped is the same code point again and again. -/
theorem exists_dropEndWhile_append (c : CodePoint) (t : Text) :
    ∃ n, t = dropEndWhile (· == c) t ++ List.replicate n c := by
  have hdropped : t.reverse.takeWhile (· == c) =
      List.replicate (t.reverse.takeWhile (· == c)).length c :=
    List.eq_replicate_iff.2 ⟨rfl, fun d hd => beq_iff_eq.1 (List.mem_takeWhile_imp (p := (· == c)) hd)⟩
  refine ⟨(t.reverse.takeWhile (· == c)).length, ?_⟩
  calc t = (t.reverse.takeWhile (· == c) ++ t.reverse.dropWhile (· == c)).reverse := by
        rw [List.takeWhile_append_dropWhile, List.reverse_reverse]
    _ = dropEndWhile (· == c) t ++ (t.reverse.takeWhile (· == c)).reverse := List.reverse_append
    _ = _ := by rw [hdropped, List.reverse_replicate, List.length_replicate]

end Intake.Text
