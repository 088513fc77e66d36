import Intake.Store.Basic
import Mathlib.Data.List.Sort

/-!
# The newest first

Rows are given by the times of their creation, whatever the order in which they lie in the store. None is
lost and none comes twice, and none comes before a newer one. Where the store keeps rows by the times of
their creation, the newest first is therefore the store backwards.

        stored      r₁   r₂   r₃        later and later
        given       r₃   r₂   r₁
-/

namespace Intake.Store

variable {Row : Type} (createdAt : Row → Nat)

/-- Sorting is by insertion, with the later times in front. -/
theorem newestFirst_eq (rows : List Row) :
    newestFirst createdAt rows = rows.insertionSort fun a b => createdAt b ≤ createdAt a := by
  have hinsert (row : Row) (rows : List Row) : insertByTime createdAt row rows =
      rows.orderedInsert (fun a b => createdAt b ≤ createdAt a) row := by
    induction rows with
    | nil => rfl
    | cons r rs ih => rw [insertByTime, List.orderedInsert_cons, ih]
  induction rows with
  | nil => rfl
  | cons row rows ih => rw [newestFirst, ih, hinsert, List.insertionSort_cons]

variable {rows : List Row}

theorem perm_newestFirst (rows : List Row) : (newestFirst createdAt rows).Perm rows := by
  rw [newestFirst_eq]
  exact List.perm_insertionSort _ rows

theorem mem_newestFirst {row : Row} : row ∈ newestFirst createdAt rows ↔ row ∈ rows :=
  (perm_newestFirst createdAt rows).mem_iff

/-- Rows of different times come in the order of their times. -/
theorem pairwise_newestFirst (h : (rows.map createdAt).Nodup) :
    (newestFirst createdAt rows).Pairwise fun newer older => createdAt older < createdAt newer := by
  have : Std.Total fun a b : Row => createdAt b ≤ createdAt a := ⟨fun a b => Nat.le_total _ _⟩
  have : IsTrans Row fun a b => createdAt b ≤ createdAt a := ⟨fun _ _ _ h g => Nat.le_trans g h⟩
  have hsorted : (newestFirst createdAt rows).Pairwise fun a b => createdAt b ≤ createdAt a := by
    rw [newestFirst_eq]
    exact List.pairwise_insertionSort _ rows
  have hnodup : (newestFirst createdAt rows).Pairwise fun a b => createdAt a ≠ createdAt b :=
    List.pairwise_map.1 (((perm_newestFirst createdAt rows).map createdAt).nodup_iff.2 h)
  exact hsorted.imp₂ (fun _ _ hle hne => Nat.lt_of_le_of_ne hle (Ne.symm hne)) hnodup

/-- Rows that were stored at later and later times come backwards. -/
theorem newestFirst_of_ascending (h : rows.Pairwise fun older newer => createdAt older < createdAt newer) :
    newestFirst createdAt rows = rows.reverse := by
  have htimes : (rows.map createdAt).Nodup := List.pairwise_map.2 (h.imp Nat.ne_of_lt)
  refine List.Perm.eq_of_pairwise ?_ (pairwise_newestFirst createdAt htimes) (List.pairwise_reverse.2 h)
    ((perm_newestFirst createdAt rows).trans (List.reverse_perm rows).symm)
  intro a b _ _ hab hba
  exact absurd hab (Nat.lt_asymm hba)

end Intake.Store
