import Intake.Proofs.Rule.Meaning

/-!
# Equality of meaning

What a value means is its normal form: a number is nothing but its exact value or the sign of its
infinity, whatever kind of number it is, a list has the normal forms of its items in order, and an object
is the finite map from its keys to the normal forms below them, in no order. Two values are strictly equal
exactly when neither holds a NaN and both have one normal form. So strict equality is symmetric and
transitive, and only a value that holds a NaN differs from itself. The values are regular, as all values
are that were read from a text: an object that named a key twice would be no finite map.

        2    ──▶ exactly 2 ◀── 2.0          {"a": 0, "b": []}   ──▶ a ↦ exactly 0 ◀── {"b": [], "a": -0.0}
        true ──▶ true                                               b ↦ []
-/

namespace Intake

/-- What a value means. A NaN is a number without a quantity. -/
inductive NormalForm where
  | null
  | bool (b : Bool)
  | number (quantity : Option (Bool ⊕ Dyadic))
  | str (s : Text)
  | arr (items : List NormalForm)
  | obj (lookup : Text → Option NormalForm)

namespace Value

mutual
/-- The normal form of a value. -/
def normal : Value → NormalForm
  | .null => .null
  | .bool b => .bool b
  | .int n => .number (quantity? (.int n))
  | .real x => .number (quantity? (.real x))
  | .str s => .str s
  | .arr items => .arr (normalItems items)
  | .obj ms => .obj (normalMembers ms)
/-- The normal forms of the items, in order. -/
def normalItems : List Value → List NormalForm
  | [] => []
  | v :: vs => normal v :: normalItems vs
/-- The normal form that stands under a key. -/
def normalMembers : List (Text × Value) → Text → Option NormalForm
  | [], _ => none
  | (k, v) :: rest, key => if k = key then some (normal v) else normalMembers rest key
end

/-- No number in the value is a NaN. -/
def isNanFree (v : Value) : Bool := v.allReal fun x => !decide (x = .nan)

/-- Neither value holds a NaN, and both have one normal form. -/
def OneMeaning (v w : Value) : Prop :=
  v.isNanFree = true ∧ w.isNanFree = true ∧ v.normal = w.normal

/-! ### Numbers -/

theorem normal_of_number {v : Value} (hv : v.isNumber = true) : v.normal = .number v.quantity? := by
  cases v with
  | int n => rfl
  | real x => rfl
  | _ => cases hv

/-- Among the numbers only a NaN has no quantity. -/
theorem isNanFree_of_number {v : Value} (hv : v.isNumber = true) :
    v.isNanFree = v.quantity?.isSome := by
  cases v with
  | int n => rfl
  | real x => cases x <;> rfl
  | _ => cases hv

/-- Nothing else has the normal form of a number. -/
theorem isNumber_of_normal {v : Value} {quantity : Option (Bool ⊕ Dyadic)}
    (hv : v.normal = .number quantity) : v.isNumber = true := by
  cases v with
  | int n => rfl
  | real x => rfl
  | _ => cases hv

theorem same_iff_of_number {v : Value} (hv : v.isNumber = true) (w : Value) :
    same v w = true ↔ OneMeaning v w := by
  unfold OneMeaning
  rw [normal_of_number hv]
  cases hw : w.isNumber with
  | false =>
    rw [same_of_number hv hw]
    constructor
    · intro h
      cases h
    · rintro ⟨-, -, hnormal⟩
      rw [isNumber_of_normal hnormal.symm] at hw
      cases hw
  | true =>
    rw [same_number hv hw, isNanFree_of_number hv, isNanFree_of_number hw, normal_of_number hw,
      NormalForm.number.injEq]
    constructor
    · rintro ⟨q, hvq, hwq⟩
      rw [hvq, hwq]
      exact ⟨rfl, rfl, rfl⟩
    · rintro ⟨hsome, -, hquantity⟩
      obtain ⟨q, hq⟩ := Option.isSome_iff_exists.1 hsome
      exact ⟨q, hq, hquantity ▸ hq⟩

/-! ### Lists and objects -/

theorem oneMeaning_cons {a b : Value} {as bs : List Value} :
    OneMeaning (.arr (a :: as)) (.arr (b :: bs)) ↔
      OneMeaning a b ∧ OneMeaning (.arr as) (.arr bs) := by
  simp only [OneMeaning, isNanFree, allReal, allRealItems, normal, normalItems, Bool.and_eq_true,
    NormalForm.arr.injEq, List.cons.injEq]
  tauto

theorem normalMembers_eq (ms : Members) (key : Text) :
    normalMembers ms key = (ms.get? key).map normal := by
  induction ms with
  | nil => rfl
  | cons e rest ih =>
    obtain ⟨k, v⟩ := e
    rw [normalMembers, Members.get?_cons]
    by_cases hk : k = key
    · rw [if_pos hk, if_pos hk, Option.map_some]
    · rw [if_neg hk, if_neg hk, ih]

theorem normal_obj_eq_iff {ms ns : Members} : normal (.obj ms) = normal (.obj ns) ↔
    ∀ key, (ms.get? key).map normal = (ns.get? key).map normal := by
  rw [normal, normal, NormalForm.obj.injEq, funext_iff]
  simp only [normalMembers_eq]

section Objects

variable {ms ns : Members} (hns : ns.keys.Nodup)
  (ih : ∀ e ∈ ms, ∀ w, (e.1, w) ∈ ns → (same e.2 w = true ↔ OneMeaning e.2 w))

include hns ih

/-- Strictly equal objects are one finite map. -/
theorem oneMeaning_of_same_obj (h : same (.obj ms) (.obj ns) = true) :
    OneMeaning (.obj ms) (.obj ns) := by
  obtain ⟨-, hpartner⟩ := same_obj_iff.1 h
  refine ⟨allRealMembers_iff.2 fun e he => ?_, allRealMembers_iff.2 fun f hf => ?_,
    normal_obj_eq_iff.2 fun key => ?_⟩
  · obtain ⟨w, hw, hsame⟩ := hpartner e he
    exact ((ih e he w (Members.mem_of_get? hw)).1 hsame).1
  · obtain ⟨v, hv, hsame⟩ := exists_partner_of_same h hns hf
    exact ((ih _ hv f.2 hf).1 hsame).2.1
  · have hkeys := isSome_get?_of_same h key
    cases hv : ms.get? key with
    | none =>
      have hw : Members.get? ns key = none := by simpa [hv] using hkeys.symm
      rw [hw]
    | some v =>
      have hmem := Members.mem_of_get? hv
      obtain ⟨w, hw, hsame⟩ := hpartner _ hmem
      rw [hw, Option.map_some, Option.map_some,
        ((ih _ hmem w (Members.mem_of_get? hw)).1 hsame).2.2]

/-- Objects that are one finite map are strictly equal. -/
theorem same_obj_of_oneMeaning (hms : ms.keys.Nodup) (h : OneMeaning (.obj ms) (.obj ns)) :
    same (.obj ms) (.obj ns) = true := by
  obtain ⟨hleft, hright, hnormal⟩ := h
  rw [normal_obj_eq_iff] at hnormal
  refine same_obj_iff.2 ⟨fun f hf => ?_, fun e he => ?_⟩
  · have hlookup := hnormal f.1
    rw [Members.get?_of_mem hns hf, Option.map_some, Option.map_eq_some_iff] at hlookup
    obtain ⟨v, hv, -⟩ := hlookup
    exact Option.isSome_iff_exists.2 ⟨v, hv⟩
  · have hlookup := hnormal e.1
    rw [Members.get?_of_mem hms he, Option.map_some, eq_comm, Option.map_eq_some_iff] at hlookup
    obtain ⟨w, hw, hvalue⟩ := hlookup
    have hmem := Members.mem_of_get? hw
    refine ⟨w, hw, (ih e he w hmem).2 ⟨?_, ?_, hvalue.symm⟩⟩
    · exact allRealMembers_iff.1 hleft e he
    · exact allRealMembers_iff.1 hright _ hmem

end Objects

/-! ### All values -/

mutual
/-- Values are strictly equal exactly when they have one meaning. -/
theorem same_iff : ∀ v w : Value, v.Regular → w.Regular → (same v w = true ↔ OneMeaning v w)
  | .null, w, _, _ => by cases w <;> simp [same, OneMeaning, normal, isNanFree, allReal]
  | .bool _, w, _, _ => by cases w <;> simp [same, OneMeaning, normal, isNanFree, allReal]
  | .str _, w, _, _ => by cases w <;> simp [same, OneMeaning, normal, isNanFree, allReal]
  | .int _, w, _, _ => same_iff_of_number rfl w
  | .real _, w, _, _ => same_iff_of_number rfl w
  | .arr as, w, hv, hw => by
    cases w with
    | arr bs => exact sameItems_iff as bs hv hw
    | _ => simp [same, OneMeaning, normal]
  | .obj ms, w, hv, hw => by
    cases w with
    | obj ns =>
      have ih : ∀ e ∈ ms, ∀ w, (e.1, w) ∈ ns → (same e.2 w = true ↔ OneMeaning e.2 w) :=
        fun e he w hmem => sameMember_iff ms hv.2 e he w (regularMembers_iff.1 hw.2 _ hmem)
      exact ⟨oneMeaning_of_same_obj hw.1 ih, same_obj_of_oneMeaning hw.1 ih hv.1⟩
    | _ => simp [same, OneMeaning, normal]
/-- So are lists, item by item. -/
theorem sameItems_iff : ∀ as bs : List Value, RegularItems as → RegularItems bs →
    (sameItems as bs = true ↔ OneMeaning (.arr as) (.arr bs))
  | [], bs, _, _ => by
    cases bs <;> simp [sameItems, OneMeaning, normal, normalItems, isNanFree, allReal, allRealItems]
  | a :: as, bs, has, hbs => by
    cases bs with
    | nil => simp [sameItems, OneMeaning, normal, normalItems]
    | cons b bs =>
      rw [sameItems, Bool.and_eq_true, same_iff a b has.1 hbs.1, sameItems_iff as bs has.2 hbs.2,
        oneMeaning_cons]
/-- So are the values of members. -/
theorem sameMember_iff : ∀ ms : Members, RegularMembers ms → ∀ e ∈ ms, ∀ w : Value, w.Regular →
    (same e.2 w = true ↔ OneMeaning e.2 w)
  | [], _, _, he, _, _ => absurd he List.not_mem_nil
  | (_, v) :: ms, hms, e, he, w, hw => by
    rcases List.mem_cons.1 he with rfl | hrest
    · exact same_iff v w hms.1 hw
    · exact sameMember_iff ms hms.2 e hrest w hw
end

/-- **Strict equality is equality of meaning.** For all values of any nesting: two are strictly equal
exactly when neither holds a NaN and both have one normal form. Hence strict equality is symmetric and
transitive, and a value is strictly equal to itself exactly when it holds no NaN. -/
theorem strict_equality_is_of_meaning {v w x : Value} (hv : v.Regular) (hw : w.Regular)
    (hx : x.Regular) :
    (same v w = true ↔ v.isNanFree = true ∧ w.isNanFree = true ∧ v.normal = w.normal) ∧
    (same v w = same w v) ∧
    (same v w = true → same w x = true → same v x = true) ∧
    (same v v = true ↔ v.isNanFree = true) := by
  refine ⟨same_iff v w hv hw, ?_, ?_, ?_⟩
  · rw [Bool.eq_iff_iff, same_iff v w hv hw, same_iff w v hw hv]
    constructor
    · rintro ⟨hleft, hright, hnormal⟩
      exact ⟨hright, hleft, hnormal.symm⟩
    · rintro ⟨hleft, hright, hnormal⟩
      exact ⟨hright, hleft, hnormal.symm⟩
  · intro hvw hwx
    obtain ⟨hvfree, -, hvnormal⟩ := (same_iff v w hv hw).1 hvw
    obtain ⟨-, hxfree, hwnormal⟩ := (same_iff w x hw hx).1 hwx
    exact (same_iff v x hv hx).2 ⟨hvfree, hxfree, hvnormal.trans hwnormal⟩
  · rw [same_iff v v hv hv]
    constructor
    · rintro ⟨hfree, -, -⟩
      exact hfree
    · intro hfree
      exact ⟨hfree, hfree, rfl⟩

/-- An answer with whole numbers. -/
def wholeAnswer : Value := .arr [.int 2, .obj [("a", .int 0), ("b", .arr [.bool true])]]

/-- The same answer with points in its numbers and its members in another order. -/
def pointAnswer : Value :=
  .arr [.real (.ofDecimal false 20 (-1)), .obj [("b", .arr [.bool true]), ("a", .real .negZero)]]

/-- The same answer once more. -/
def mixedAnswer : Value :=
  .arr [.int 2, .obj [("b", .arr [.bool true]), ("a", .real (.ofDecimal false 0 0))]]

theorem strict_equality_is_of_meaning_nested :
    wholeAnswer.Regular ∧ pointAnswer.Regular ∧ mixedAnswer.Regular ∧
    same wholeAnswer pointAnswer = true ∧ same pointAnswer mixedAnswer = true ∧
    wholeAnswer.normal = pointAnswer.normal ∧ same pointAnswer wholeAnswer = true ∧
    same wholeAnswer mixedAnswer = true ∧ same mixedAnswer mixedAnswer = true := by
  have hreal (digits : Nat) (exponent : Int) :
      (Value.real (.ofDecimal false digits exponent)).Regular :=
    Binary64.sound_ofDecimal false digits exponent
  have hwhole : wholeAnswer.Regular :=
    ⟨trivial, ⟨by decide, trivial, ⟨trivial, trivial⟩, trivial⟩, trivial⟩
  have hpoint : pointAnswer.Regular :=
    ⟨hreal _ _, ⟨by decide, ⟨trivial, trivial⟩, trivial, trivial⟩, trivial⟩
  have hmixed : mixedAnswer.Regular :=
    ⟨trivial, ⟨by decide, ⟨trivial, trivial⟩, hreal _ _, trivial⟩, trivial⟩
  obtain ⟨hmeaning, hsymm, htrans, -⟩ := strict_equality_is_of_meaning hwhole hpoint hmixed
  obtain ⟨-, -, -, hself⟩ := strict_equality_is_of_meaning hmixed hmixed hmixed
  have hsame : same wholeAnswer pointAnswer = true := by decide
  have hnext : same pointAnswer mixedAnswer = true := by decide
  exact ⟨hwhole, hpoint, hmixed, hsame, hnext, (hmeaning.1 hsame).2.2, hsymm ▸ hsame,
    htrans hsame hnext, hself.2 (by decide)⟩

/-- Above `2 ^ 53` a whole number can differ from the nearest number with a point. -/
example : same (.int (2 ^ 53 + 1)) (.real (.ofInt (2 ^ 53 + 1))) = false := by decide

/-- A NaN anywhere in a value makes it differ from itself. -/
example : same (.arr [.int 1, .real .nan]) (.arr [.int 1, .real .nan]) = false := by decide

end Value
end Intake
