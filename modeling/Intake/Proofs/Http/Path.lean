import Intake.Http.Url
import Intake.Proofs.Text.Percent
import Intake.Proofs.Text.Pieces

/-!
# Paths without dot segments

A path is straight when none of its segments is `.` or `..`. Carrying out the dot segments leaves a straight
path as it is and makes every other path straight, with fewer slashes than before. Escaping works inside
the segments and makes no dot segment where there was none. So a path that was normalised once stays what
it is when it is normalised again.

        /v0/a/../b   ──▶   /v0/b   ──▶   /v0/b
-/

namespace Intake

namespace Http.Url

open Percent

/-- A segment that stays or goes back. -/
def IsDots (segment : Text) : Prop := segment = "." ∨ segment = ".."

theorem not_isDots_nil : ¬IsDots [] := by
  rintro (h | h) <;> cases h

/-- The path has no segment that stays or goes back. -/
def Straight (path : Text) : Prop := ∀ segment ∈ Text.pieces 47 path, ¬IsDots segment

/-! ### Carrying out dot segments -/

theorem walk_of_not_isDots {segment : Text} (h : ¬IsDots segment) (done : List Text) :
    walk done segment = done ++ [segment] := by
  rw [IsDots, not_or] at h
  rw [walk, if_neg h.1, if_neg h.2]

/-- A dot segment adds nothing. -/
theorem length_walk_of_isDots {segment : Text} (h : IsDots segment) (done : List Text) :
    (walk done segment).length ≤ done.length := by
  unfold walk
  split
  · exact Nat.le_refl _
  · split
    · split
      · exact Nat.le_refl _
      · exact (List.dropLast_sublist done).length_le
    · rename_i h1 h2
      exact absurd h (not_or.2 ⟨h1, h2⟩)

theorem length_walk (done : List Text) (segment : Text) :
    (walk done segment).length ≤ done.length + 1 := by
  by_cases h : IsDots segment
  · exact Nat.le_succ_of_le (length_walk_of_isDots h done)
  · exact Nat.le_of_eq (by rw [walk_of_not_isDots h, List.length_append, List.length_singleton])

/-- What a walk has passed was there before or is a segment that is no dot segment. -/
theorem mem_walk {done : List Text} {segment p : Text} (h : p ∈ walk done segment) :
    p ∈ done ∨ p = segment ∧ ¬IsDots segment := by
  by_cases hdots : IsDots segment
  · refine .inl ?_
    unfold walk at h
    split at h
    · exact h
    · split at h
      · split at h
        · exact h
        · exact List.dropLast_subset _ h
      · rename_i h1 h2
        exact absurd hdots (not_or.2 ⟨h1, h2⟩)
  · rw [walk_of_not_isDots hdots, List.mem_append, List.mem_singleton] at h
    exact h.imp_right fun heq => ⟨heq, hdots⟩

theorem foldl_walk_of_straight {segments : List Text} (h : ∀ p ∈ segments, ¬IsDots p)
    (done : List Text) : segments.foldl walk done = done ++ segments := by
  induction segments generalizing done with
  | nil => rw [List.foldl_nil, List.append_nil]
  | cons p rest ih =>
    rw [List.foldl_cons, walk_of_not_isDots (h p List.mem_cons_self),
      ih fun q hq => h q (List.mem_cons_of_mem _ hq), List.append_assoc]
    rfl

theorem mem_foldl_walk {segments done : List Text} {p : Text} (h : p ∈ segments.foldl walk done) :
    p ∈ done ∨ p ∈ segments ∧ ¬IsDots p := by
  induction segments generalizing done with
  | nil => exact .inl h
  | cons q rest ih =>
    rcases ih h with hwalk | ⟨hrest, hp⟩
    · rcases mem_walk hwalk with hdone | ⟨rfl, hp⟩
      · exact .inl hdone
      · exact .inr ⟨List.mem_cons_self, hp⟩
    · exact .inr ⟨List.mem_cons_of_mem _ hrest, hp⟩

theorem length_foldl_walk (segments done : List Text) :
    (segments.foldl walk done).length ≤ done.length + segments.length := by
  induction segments generalizing done with
  | nil => exact Nat.le_refl _
  | cons p rest ih =>
    have hwalk := length_walk done p
    have hrest := ih (walk done p)
    rw [List.foldl_cons, List.length_cons]
    omega

/-- With a dot segment among them fewer segments are left. -/
theorem length_foldl_walk_of_isDots {segments : List Text} (h : ∃ p ∈ segments, IsDots p)
    (done : List Text) : (segments.foldl walk done).length < done.length + segments.length := by
  induction segments generalizing done with
  | nil =>
    obtain ⟨p, hp, -⟩ := h
    cases hp
  | cons p rest ih =>
    rw [List.foldl_cons, List.length_cons]
    by_cases hp : IsDots p
    · have hwalk := length_walk_of_isDots hp done
      have hrest := length_foldl_walk rest (walk done p)
      omega
    · obtain ⟨q, hq, hdots⟩ := h
      rcases List.mem_cons.1 hq with rfl | hq
      · exact absurd hdots hp
      · have hwalk := length_walk done p
        have hrest := ih ⟨q, hq, hdots⟩ (walk done p)
        omega

/-- A straight path stays as it is. -/
theorem plainPath_of_straight {path : Text} (h : Straight path) : plainPath path = path := by
  rw [plainPath, foldl_walk_of_straight h, List.nil_append, Text.join_pieces]

/-- The segments that are left. -/
theorem pieces_plainPath {path : Text} (h : (Text.pieces 47 path).foldl walk [] ≠ []) :
    Text.pieces 47 (plainPath path) = (Text.pieces 47 path).foldl walk [] := by
  refine Text.pieces_join h fun p hp => ?_
  rcases mem_foldl_walk hp with hnil | ⟨hmem, -⟩
  · cases hnil
  · exact Text.sep_not_mem_of_mem_pieces hmem

/-- Without its dot segments a path is straight. -/
theorem straight_plainPath (path : Text) : Straight (plainPath path) := by
  intro p hp
  by_cases hnil : (Text.pieces 47 path).foldl walk [] = []
  · rw [plainPath, hnil] at hp
    exact List.mem_singleton.1 hp ▸ not_isDots_nil
  · rw [pieces_plainPath hnil] at hp
    rcases mem_foldl_walk hp with hnone | ⟨-, hp⟩
    · cases hnone
    · exact hp

/-- A path that is not straight loses a slash, if it has one. -/
theorem count_plainPath {path : Text} (h : ¬Straight path) (hslash : 47 ∈ path) :
    (plainPath path).count 47 < path.count 47 := by
  by_cases hnil : (Text.pieces 47 path).foldl walk [] = []
  · rw [plainPath, hnil]
    exact List.count_pos_iff.2 hslash
  · have hdots : ∃ p ∈ Text.pieces 47 path, IsDots p := by
      simpa [Straight] using h
    have hfewer := length_foldl_walk_of_isDots hdots []
    rw [← pieces_plainPath hnil, Text.length_pieces, Text.length_pieces, List.length_nil] at hfewer
    omega

/-! ### Escaping inside segments -/

theorem visibleBut_of_isWritten {bad : List CodePoint} (hbad : bad.any isWritten = false)
    {c : CodePoint} (h : isWritten c = true) : visibleBut bad c = true := by
  have hnot : bad.contains c = false := Bool.eq_false_iff.2 fun hmem =>
    List.any_eq_false.1 hbad c (List.contains_iff_mem.1 hmem) h
  rw [visibleBut, hnot]
  simp only [isWritten, Bool.or_eq_true, Bool.and_eq_true, decide_eq_true_eq, beq_iff_eq] at h
  simp only [Bool.not_false, Bool.and_true, Bool.and_eq_true, decide_eq_true_eq]
  omega

theorem isPath_of_isWritten : ∀ c, isWritten c = true → isPath c = true :=
  fun _ => visibleBut_of_isWritten (by decide)

theorem isFragment_of_isWritten : ∀ c, isWritten c = true → isFragment c = true :=
  fun _ => visibleBut_of_isWritten (by decide)

theorem isUser_of_isWritten : ∀ c, isWritten c = true → isUser c = true :=
  fun _ => visibleBut_of_isWritten (by decide)

/-- Escaping works inside the segments. -/
theorem pieces_escape (path : Text) :
    Text.pieces 47 (escape isPath path) = (Text.pieces 47 path).map (escape isPath) := by
  have hjoin : ∀ ts : List Text,
      escape isPath (Text.join [47] ts) = Text.join [47] (ts.map (escape isPath)) := by
    intro ts
    induction ts with
    | nil => rfl
    | cons t us ih =>
      cases us with
      | nil => rfl
      | cons u us =>
        rw [Text.join, escape, List.flatMap_append, List.flatMap_append]
        exact congrArg (escape isPath t ++ [47] ++ ·) ih
  have hslash : ∀ t ∈ (Text.pieces 47 path).map (escape isPath), 47 ∉ t := by
    intro t ht
    obtain ⟨p, hp, rfl⟩ := List.mem_map.1 ht
    intro hmem
    rcases mem_escape hmem with ⟨hmem, -⟩ | hwritten
    · exact Text.sep_not_mem_of_mem_pieces hp hmem
    · exact absurd hwritten (by decide)
  have hne : (Text.pieces 47 path).map (escape isPath) ≠ [] := by
    simpa using Text.pieces_ne_nil 47 path
  have hpieces := Text.pieces_join hne hslash
  rwa [← hjoin, Text.join_pieces] at hpieces

/-- Escaping keeps the number of slashes. -/
theorem count_escape (path : Text) : (escape isPath path).count 47 = path.count 47 := by
  have hlength := congrArg List.length (pieces_escape path)
  rw [List.length_map, Text.length_pieces, Text.length_pieces] at hlength
  exact Nat.succ.inj hlength

/-- Escaping makes no dot segment. -/
theorem straight_escape {path : Text} (h : Straight path) : Straight (escape isPath path) := by
  intro segment hsegment hdots
  rw [pieces_escape] at hsegment
  obtain ⟨p, hp, rfl⟩ := List.mem_map.1 hsegment
  by_cases hsafe : ∀ c ∈ p, isPath c = true
  · rw [escape_of_all hsafe] at hdots
    exact h p hp hdots
  · -- an escape leaves a percent sign, and there is none in a dot segment
    obtain ⟨c, hunsafe⟩ := Classical.not_forall.1 hsafe
    obtain ⟨hc, hunsafe⟩ := Classical.not_imp.1 hunsafe
    have hpercent := percent_mem_escape isPath_of_isWritten hc (by simpa using hunsafe)
    rcases hdots with hdots | hdots <;> rw [hdots] at hpercent <;> exact absurd hpercent (by decide)

end Http.Url
end Intake
