import Intake.Proofs.Rule.NormalForm

/-!
# Values that stand in for each other

A condition compares an answer with its value in three ways: by strict equality, by strict equality with
an item of the answer, and by searching the text of the value in the answer. The first two cannot tell
values of one meaning apart. The third turns the value into a text first, and here it matters that a whole
number is written without a fraction whatever its kind: so values of one meaning have one text, as long as
no object stands in them, whose text shows the order of its members.

        2 ──┐                          [2, null, [0]] ──┐
            ├──▶ "2"                                    ├──▶ "2,,0"
      2.0 ──┘                     [2.0, null, [-0.0]] ──┘
-/

namespace Intake

/-! ### Whole numbers -/

namespace Binary64

/-- A fraction in lowest terms that equals a whole number is that number in units of a power of two. -/
theorem units_of_ofOdd_eq {m k n : Int} {hodd : m % 2 = 1} (h : Dyadic.ofOdd m k hodd = (n : Dyadic)) :
    k ≤ 0 ∧ m * twoTo (-k) = n := by
  have hvalue : (Dyadic.ofOdd m k hodd).toRat = m * 2 ^ (-k) := Dyadic.toRat_ofOdd_eq_mul_two_pow
  rw [h, Dyadic.toRat_intCast] at hvalue
  rcases Int.lt_or_le 0 k with hk | hk
  · -- with a power of two below the bar the odd number above it would be even
    obtain ⟨j, rfl⟩ : ∃ j : Nat, k = (j + 1 : Nat) := ⟨(k - 1).toNat, by omega⟩
    rw [zpow_neg, ← div_eq_mul_inv, eq_div_iff (by positivity), zpow_natCast] at hvalue
    have hm : n * 2 ^ (j + 1) = m := by exact_mod_cast hvalue
    have heven : m = 2 * (n * 2 ^ j) := by rw [← hm]; ring
    omega
  · rw [← twoTo_of_nonneg (by omega)] at hvalue
    exact ⟨hk, by exact_mod_cast hvalue.symm⟩

/-- A number that equals a whole number is known for whole, and nothing is cut off from it. -/
theorem whole_of_value? {x : Binary64} {n : Int} (h : x.value? = some (n : Dyadic)) :
    x.isIntegral = true ∧ x.truncate? = some n := by
  cases x with
  | nan => cases h
  | infinite s => cases h
  | negZero =>
    have hn : n = 0 := Value.dyadic_intCast_inj.1 (Option.some.inj h).symm
    rw [hn]
    exact ⟨rfl, rfl⟩
  | finite d =>
    have hd : d = (n : Dyadic) := Option.some.inj h
    cases d with
    | zero =>
      have hn : n = 0 := Value.dyadic_intCast_inj.1 hd.symm
      rw [hn]
      exact ⟨rfl, rfl⟩
    | ofOdd m k hodd =>
      obtain ⟨hk, hm⟩ := units_of_ofOdd_eq hd
      refine ⟨decide_eq_true hk, ?_⟩
      rw [truncate?, if_pos hk, hm]

theorem value?_of_eqInt {x : Binary64} {n : Int} (h : x.eqInt n = true) :
    x.value? = some (n : Dyadic) := by
  cases x <;> simp_all [eqInt, value?]

/-- Equal floating-point numbers are one number, or both are a zero. -/
theorem eq_or_zero_of_numEq {x y : Binary64} (h : x.numEq y = true) :
    x = y ∨ x.value? = some 0 ∧ y.value? = some 0 := by
  cases x <;> cases y <;> simp_all [numEq, value?]

end Binary64

namespace Value

/-! ### Texts of one meaning -/

mutual
/-- No object stands in the value. -/
def isObjectFree : Value → Bool
  | .obj _ => false
  | .arr items => isObjectFreeItems items
  | _ => true
/-- No object stands in the items. -/
def isObjectFreeItems : List Value → Bool
  | [] => true
  | v :: vs => isObjectFree v && isObjectFreeItems vs
end

theorem shownReal_of_whole {x : Binary64} {n : Int} (h : x.value? = some (n : Dyadic)) :
    shownReal x = Text.ofInt n := by
  obtain ⟨hintegral, htruncate⟩ := Binary64.whole_of_value? h
  rw [shownReal, hintegral, htruncate]

/-- Numbers that mean the same are shown with the same digits. -/
theorem shown_number {v w : Value} (hv : v.isNumber = true) (h : same v w = true) :
    v.shown = w.shown := by
  have hw := isNumber_of_same hv h
  cases v with
  | int a =>
    cases w with
    | int b => rw [beq_iff_eq.1 (show (a == b) = true from h)]
    | real y => exact (shownReal_of_whole (Binary64.value?_of_eqInt h)).symm
    | _ => cases hw
  | real x =>
    cases w with
    | int b => exact shownReal_of_whole (Binary64.value?_of_eqInt h)
    | real y =>
      rcases Binary64.eq_or_zero_of_numEq h with rfl | ⟨hx, hy⟩
      · rfl
      · exact (shownReal_of_whole (n := 0) hx).trans (shownReal_of_whole (n := 0) hy).symm
    | _ => cases hw
  | _ => cases hv

theorem isNull_congr {v w : Value} (h : same v w = true) : v.isNull = w.isNull := by
  cases v <;> cases w <;> first | rfl | cases h

mutual
/-- Values of one meaning without objects have one text. -/
theorem shown_congr : ∀ v w : Value, v.isObjectFree = true → same v w = true → v.shown = w.shown
  | .null, w, _, h => by
    cases w with
    | null => rfl
    | _ => cases h
  | .bool a, w, _, h => by
    cases w with
    | bool b => rw [beq_iff_eq.1 (show (a == b) = true from h)]
    | _ => cases h
  | .str s, w, _, h => by rw [eq_of_same_str h]
  | .int _, _, _, h => shown_number rfl h
  | .real _, _, _, h => shown_number rfl h
  | .arr as, w, hfree, h => by
    cases w with
    | arr bs => exact shownItems_congr as bs hfree h
    | _ => cases h
  | .obj _, _, hfree, _ => by cases hfree
/-- So have lists that agree item by item. -/
theorem shownItems_congr : ∀ as bs : List Value, isObjectFreeItems as = true →
    sameItems as bs = true → shownItems as = shownItems bs
  | [], bs, _, h => by
    cases bs with
    | nil => rfl
    | cons b bs => cases h
  | a :: as, bs, hfree, h => by
    cases bs with
    | nil => cases h
    | cons b bs =>
      rw [isObjectFreeItems, Bool.and_eq_true] at hfree
      rw [sameItems, Bool.and_eq_true] at h
      have hfirst := shown_congr a b hfree.1 h.1
      have hrest := shownItems_congr as bs hfree.2 h.2
      -- a comma follows an item when there is another one, in both lists alike
      cases as with
      | nil =>
        cases bs with
        | nil => rw [shownItems, shownItems, isNull_congr h.1, hfirst]
        | cons b' bs => cases h.2
      | cons a' as =>
        cases bs with
        | nil => cases h.2
        | cons b' bs => rw [shownItems, shownItems, isNull_congr h.1, hfirst, hrest]
end

/-! ### Comparing with values of one meaning -/

theorem same_comm {v w : Value} (hv : v.Regular) (hw : w.Regular) : same v w = same w v := by
  rw [Bool.eq_iff_iff, same_iff v w hv hw, same_iff w v hw hv]
  constructor
  · rintro ⟨hleft, hright, hnormal⟩
    exact ⟨hright, hleft, hnormal.symm⟩
  · rintro ⟨hleft, hright, hnormal⟩
    exact ⟨hright, hleft, hnormal.symm⟩

/-- What a value is the same as, is also the same as whatever means the same. -/
theorem same_congr_right {v w : Value} (hv : v.Regular) (hw : w.Regular) (h : same v w = true)
    {x : Value} (hx : x.Regular) : same x v = same x w := by
  rw [same_comm hx hv, same_congr v w h hw x, same_comm hw hx]

end Value

open Value (Means)

namespace Condition

section Values

variable {v w : Value} (hv : v.Regular) (hw : w.Regular) (hfree : v.isObjectFree = true)
  (h : v.same w = true)

include hv hw hfree h

theorem includes_congr_value {a : Value} (ha : a.Regular) : includes a v = includes a w := by
  cases a with
  | arr items =>
    rw [Value.Regular, Value.regularItems_iff] at ha
    rw [includes, includes, Bool.eq_iff_iff, List.any_eq_true, List.any_eq_true]
    refine exists_congr fun item => and_congr_right fun hitem => ?_
    rw [Value.same_congr_right hv hw h (ha item hitem)]
  | str s => rw [includes, includes, Value.shown_congr v w hfree h]
  | _ => rfl

/-- No operator tells such values of a condition apart. -/
theorem compare_congr_value (op : Operator) {a : Value} (ha : a.Regular) :
    compare op a v = compare op a w := by
  cases op with
  | equals => exact Value.same_congr_right hv hw h ha
  | notEquals => exact congrArg (!·) (Value.same_congr_right hv hw h ha)
  | contains => exact includes_congr_value hv hw hfree h ha

/-- Conditions of one operator that have such values hold alike for answers of one meaning. -/
theorem holdsFor_congr_value {c d : Value} (hop : operator? c = operator? d) (hc : value c = v)
    (hd : value d = w) {a b : Option Value} (hab : Option.Rel Means a b) :
    holdsFor c a = holdsFor d b := by
  cases hab with
  | none => rfl
  | @some a b hmeans =>
    unfold holdsFor
    rw [← hop, hc, hd]
    cases operator? c with
    | none => rfl
    | some op =>
      simp only [unanswered_congr (.inr hmeans), compare_congr (.inr hmeans),
        compare_congr_value hv hw hfree h op hmeans.2]

end Values

/-- **Evaluation respects strict equality.** Two values that are strictly equal and hold no object have one
text; and whatever else a condition says, with the one value under some answers it evaluates as with the
other under answers to the same questions that are strictly equal one by one. -/
theorem evaluation_respects_equality {v w : Value} (hv : v.Regular) (hw : w.Regular)
    (hfree : v.isObjectFree = true) (h : v.same w = true) :
    (∀ condition : Value, ∀ answers others : Members,
      (∀ key, Option.Rel Means (answers.get? key) (others.get? key)) →
      evaluate (condition.withMember "value" v) (.obj answers) =
        evaluate (condition.withMember "value" w) (.obj others)) ∧
    v.shown = w.shown := by
  refine ⟨?_, Value.shown_congr v w hfree h⟩
  intro condition answers others hanswers
  have hsubject (x : Value) : subject? (condition.withMember "value" x) = subject? condition :=
    subject?_withMember condition x (by decide)
  have hop (x : Value) : operator? (condition.withMember "value" x) = operator? condition :=
    operator?_withMember condition x (by decide)
  unfold evaluate holds
  simp only [hsubject]
  cases hkey : subject? condition with
  | none => rfl
  | some key =>
    obtain ⟨ms, rfl⟩ := exists_members_of_subject? hkey
    have hholds := holdsFor_congr_value hv hw hfree h ((hop v).trans (hop w).symm)
      (Value.member_withMember_self ms "value" v) (Value.member_withMember_self ms "value" w)
      (hanswers key)
    exact congrArg Except.ok hholds

/-- A list with whole numbers that have no points. -/
def wholeList : Value := .arr [.int 2, .null, .arr [.int 0]]

/-- The same list with points in the numbers. -/
def pointList : Value := .arr [.real (.ofDecimal false 20 (-1)), .null, .arr [.real .negZero]]

theorem evaluation_respects_equality_nested :
    wholeList.Regular ∧ pointList.Regular ∧ wholeList.isObjectFree = true ∧
    wholeList.same pointList = true ∧
    (∀ key, Option.Rel Means (Members.get? [("q", .arr [wholeList])] key)
      (Members.get? [("q", .arr [pointList])] key)) ∧
    evaluate ((written "q" "contains" .null).withMember "value" wholeList)
        (.obj [("q", .arr [wholeList])]) =
      evaluate ((written "q" "contains" .null).withMember "value" pointList)
        (.obj [("q", .arr [pointList])]) ∧
    wholeList.shown = pointList.shown := by
  have hreal (digits : Nat) (exponent : Int) :
      (Value.real (.ofDecimal false digits exponent)).Regular :=
    Binary64.sound_ofDecimal false digits exponent
  have hwhole : wholeList.Regular := ⟨trivial, trivial, ⟨trivial, trivial⟩, trivial⟩
  have hpoint : pointList.Regular := ⟨hreal _ _, trivial, ⟨trivial, trivial⟩, trivial⟩
  have hsame : wholeList.same pointList = true := by decide
  have hanswers : ∀ key, Option.Rel Means (Members.get? [("q", .arr [wholeList])] key)
      (Members.get? [("q", .arr [pointList])] key) := by
    intro key
    rw [Members.get?_cons, Members.get?_cons]
    split
    · exact .some ⟨by decide, hpoint, trivial⟩
    · exact .none
  obtain ⟨hevaluate, hshown⟩ := evaluation_respects_equality hwhole hpoint rfl hsame
  exact ⟨hwhole, hpoint, rfl, hsame, hanswers, hevaluate _ _ _ hanswers, hshown⟩

end Condition
end Intake
