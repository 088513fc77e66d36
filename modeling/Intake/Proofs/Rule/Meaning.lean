import Intake.Proofs.Json.Settled
import Intake.Proofs.Rule.Extending

/-!
# Answers of one meaning

Two values that mean the same are told apart by no condition: what equals the one equals the other, and
what is among the items of the one is among the items of the other. Numbers mean an exact value or a
signed infinity, whatever their kind; objects are compared as finite maps, so the first of two objects
may name its members in any order. An object that named a key twice would break this, because only the
first of the two members is ever looked up.

        2 ≈ 2.0        {"a": 1, "b": 2} ≈ {"b": 2.0, "a": 1}
-/

namespace Intake

namespace Value

/-! ### Numbers -/

/-- The value is a number. -/
def isNumber : Value → Bool
  | int _ => true
  | real _ => true
  | _ => false

/-- What a number means: the sign of an infinity, or an exact value. A NaN means nothing. -/
def quantity? : Value → Option (Bool ⊕ Dyadic)
  | int n => some (.inr n)
  | real (.infinite s) => some (.inl s)
  | real x => x.value?.map .inr
  | _ => none

theorem dyadic_intCast_inj {a b : Int} : (a : Dyadic) = b ↔ a = b := by
  rw [← Dyadic.toRat_inj, Dyadic.toRat_intCast, Dyadic.toRat_intCast, Rat.intCast_inj]

/-- Numbers are the same when both mean one quantity. -/
theorem same_number {v w : Value} (hv : v.isNumber = true) (hw : w.isNumber = true) :
    same v w = true ↔ ∃ q, v.quantity? = some q ∧ w.quantity? = some q := by
  cases v with
  | int a =>
    cases w with
    | int b => simpa [same, quantity?, dyadic_intCast_inj] using eq_comm
    | real y => cases y <;> simp [same, quantity?, Binary64.eqInt, Binary64.value?]
    | _ => cases hw
  | real x =>
    cases w with
    | int b => cases x <;> simp [same, quantity?, Binary64.eqInt, Binary64.value?] <;> exact eq_comm
    | real y =>
      cases x <;> cases y <;> simp [same, quantity?, Binary64.numEq, Binary64.value?] <;> exact eq_comm
    | _ => cases hw
  | _ => cases hv

theorem isNumber_of_same {v w : Value} (hv : v.isNumber = true) (h : same v w = true) :
    w.isNumber = true := by
  cases v <;> cases w <;> simp_all [isNumber, same]

theorem same_of_number {v x : Value} (hv : v.isNumber = true) (hx : x.isNumber = false) :
    same v x = false := by
  cases v <;> cases x <;> simp_all [isNumber, same]

/-- Numbers that mean the same are the same as the same values. -/
theorem same_congr_number {v w : Value} (hv : v.isNumber = true) (h : same v w = true) (x : Value) :
    same v x = same w x := by
  have hw := isNumber_of_same hv h
  cases hx : x.isNumber with
  | false => rw [same_of_number hv hx, same_of_number hw hx]
  | true =>
    obtain ⟨q, hvq, hwq⟩ := (same_number hv hw).1 h
    rw [Bool.eq_iff_iff, same_number hv hx, same_number hw hx, hvq, hwq]

/-! ### Texts and objects -/

theorem eq_of_same_str {s : Text} {w : Value} (h : same (.str s) w = true) : w = .str s := by
  cases w with
  | str t => rw [beq_iff_eq.1 (show (s == t) = true from h)]
  | _ => cases h

theorem keysWithin_iff {ms ns : Members} :
    keysWithin ms ns = true ↔ ∀ e ∈ ms, (ns.get? e.1).isSome = true := by
  rw [keysWithin, List.all_eq_true]
  rfl

/-- Every member has a partner under its key. -/
theorem sameMembers_iff {ms ns : Members} :
    sameMembers ms ns = true ↔ ∀ e ∈ ms, ∃ w, Members.get? ns e.1 = some w ∧ same e.2 w = true := by
  induction ms with
  | nil => simp [sameMembers]
  | cons e rest ih =>
    obtain ⟨k, v⟩ := e
    rw [sameMembers, Bool.and_eq_true, ih, List.forall_mem_cons]
    cases Members.get? ns k <;> simp

theorem same_obj_iff {ms ns : Members} : same (.obj ms) (.obj ns) = true ↔
    (∀ f ∈ ns, (ms.get? f.1).isSome = true) ∧
      ∀ e ∈ ms, ∃ w, Members.get? ns e.1 = some w ∧ same e.2 w = true := by
  rw [same, Bool.and_eq_true, keysWithin_iff, sameMembers_iff]

section Objects

variable {ms ns : Members} (h : same (.obj ms) (.obj ns) = true)

include h

/-- Objects that mean the same have the same keys. -/
theorem isSome_get?_of_same (key : Text) : (ms.get? key).isSome = (ns.get? key).isSome := by
  obtain ⟨hback, hpartner⟩ := same_obj_iff.1 h
  rw [Bool.eq_iff_iff]
  constructor
  · intro hsome
    obtain ⟨v, hv⟩ := Option.isSome_iff_exists.1 hsome
    obtain ⟨w, hw, -⟩ := hpartner _ (Members.mem_of_get? hv)
    exact Option.isSome_iff_exists.2 ⟨w, hw⟩
  · intro hsome
    obtain ⟨w, hw⟩ := Option.isSome_iff_exists.1 hsome
    exact hback _ (Members.mem_of_get? hw)

/-- Each member of the second object is the partner of a member of the first one, if it stands alone
under its key. -/
theorem exists_partner_of_same (hkeys : ns.keys.Nodup) {f : Text × Value} (hf : f ∈ ns) :
    ∃ v, (f.1, v) ∈ ms ∧ same v f.2 = true := by
  obtain ⟨hback, hpartner⟩ := same_obj_iff.1 h
  obtain ⟨v, hv⟩ := Option.isSome_iff_exists.1 (hback f hf)
  have hmem := Members.mem_of_get? hv
  obtain ⟨w, hw, hsame⟩ := hpartner _ hmem
  rw [Members.get?_of_mem hkeys (show (f.1, f.2) ∈ ns from hf)] at hw
  obtain rfl := Option.some.inj hw
  exact ⟨v, hmem, hsame⟩

/-- Objects that mean the same are the same as the same objects, if their members are. -/
theorem same_congr_obj (hkeys : ns.keys.Nodup)
    (ih : ∀ e ∈ ms, ∀ w, (e.1, w) ∈ ns → same e.2 w = true → ∀ x, same e.2 x = same w x)
    (xs : Members) : same (.obj ms) (.obj xs) = same (.obj ns) (.obj xs) := by
  have hwithin : keysWithin xs ms = keysWithin xs ns := by
    rw [Bool.eq_iff_iff, keysWithin_iff, keysWithin_iff]
    simp only [isSome_get?_of_same h]
  have hmembers : sameMembers ms xs = sameMembers ns xs := by
    rw [Bool.eq_iff_iff, sameMembers_iff, sameMembers_iff]
    constructor
    · intro hall f hf
      obtain ⟨v, hv, hsame⟩ := exists_partner_of_same h hkeys hf
      obtain ⟨x, hx, hvx⟩ := hall _ hv
      rw [ih _ hv f.2 hf hsame] at hvx
      exact ⟨x, hx, hvx⟩
    · intro hall e he
      obtain ⟨w, hw, hsame⟩ := (same_obj_iff.1 h).2 e he
      have hmem := Members.mem_of_get? hw
      obtain ⟨x, hx, hwx⟩ := hall _ hmem
      rw [← ih e he w hmem hsame] at hwx
      exact ⟨x, hx, hwx⟩
  rw [same, same, hwithin, hmembers]

end Objects

/-! ### All values -/

mutual
/-- What means the same as a value is the same as whatever that value is the same as. -/
theorem same_congr : ∀ v w : Value, same v w = true → w.Regular → ∀ x, same v x = same w x
  | .null, w, h, _, x => by
    cases w with
    | null => rfl
    | _ => cases h
  | .bool a, w, h, _, x => by
    cases w with
    | bool b => rw [beq_iff_eq.1 (show (a == b) = true from h)]
    | _ => cases h
  | .str s, w, h, _, x => by rw [eq_of_same_str h]
  | .int _, _, h, _, x => same_congr_number rfl h x
  | .real _, _, h, _, x => same_congr_number rfl h x
  | .arr as, w, h, hw, x => by
    cases w with
    | arr bs =>
      cases x with
      | arr xs => exact sameItems_congr as bs h hw xs
      | _ => rfl
    | _ => cases h
  | .obj ms, w, h, hw, x => by
    cases w with
    | obj ns =>
      cases x with
      | obj xs =>
        refine same_congr_obj h hw.1 (fun e he w hmem hsame => ?_) xs
        exact sameMembers_congr ms e he w hsame (regularMembers_iff.1 hw.2 _ hmem)
      | _ => rfl
    | _ => cases h
/-- So are lists that agree item by item. -/
theorem sameItems_congr : ∀ as bs : List Value, sameItems as bs = true → RegularItems bs →
    ∀ xs, sameItems as xs = sameItems bs xs
  | [], bs, h, _, xs => by
    cases bs with
    | nil => rfl
    | cons b bs => cases h
  | a :: as, bs, h, hbs, xs => by
    cases bs with
    | nil => cases h
    | cons b bs =>
      rw [sameItems, Bool.and_eq_true] at h
      cases xs with
      | nil => rfl
      | cons x xs =>
        rw [sameItems, sameItems, same_congr a b h.1 hbs.1 x, sameItems_congr as bs h.2 hbs.2 xs]
/-- So are the members of an object. -/
theorem sameMembers_congr : ∀ ms : Members, ∀ e ∈ ms, ∀ w : Value, same e.2 w = true → w.Regular →
    ∀ x, same e.2 x = same w x
  | [], _, he, _, _, _, _ => absurd he List.not_mem_nil
  | (_, v) :: ms, e, he, w, h, hw, x => by
    rcases List.mem_cons.1 he with rfl | hrest
    · exact same_congr v w h hw x
    · exact sameMembers_congr ms e hrest w h hw x
end

/-- The second value, in which no object names a key twice, means the same as the first. -/
def Means (v w : Value) : Prop := same v w = true ∧ w.Regular

/-- The values are one, or mean the same. -/
def Agrees (v w : Value) : Prop := v = w ∨ Means v w

theorem Agrees.same_eq {v w : Value} (h : Agrees v w) (x : Value) : same v x = same w x := by
  rcases h with rfl | ⟨hsame, hw⟩
  · rfl
  · exact same_congr v w hsame hw x

/-- Items of lists that mean the same are the same as the same values. -/
theorem any_same_congr {as bs : List Value} (h : sameItems as bs = true) (hbs : RegularItems bs)
    (x : Value) : (as.any fun item => item.same x) = bs.any fun item => item.same x := by
  induction as generalizing bs with
  | nil =>
    cases bs with
    | nil => rfl
    | cons b bs => cases h
  | cons a as ih =>
    cases bs with
    | nil => cases h
    | cons b bs =>
      rw [sameItems, Bool.and_eq_true] at h
      rw [List.any_cons, List.any_cons, same_congr a b h.1 hbs.1 x, ih h.2 hbs.2]

end Value

open Value (Agrees)

namespace Condition

theorem includes_congr {a b : Value} (h : Agrees a b) (v : Value) : includes a v = includes b v := by
  rcases h with rfl | ⟨hsame, hb⟩
  · rfl
  · cases a with
    | arr as =>
      cases b with
      | arr bs => exact Value.any_same_congr hsame hb v
      | _ => cases hsame
    | str s => rw [Value.eq_of_same_str hsame]
    | _ =>
      cases b with
      | arr bs => cases hsame
      | str t => cases hsame
      | _ => rfl

/-- No operator tells such answers apart. -/
theorem compare_congr {a b : Value} (h : Agrees a b) (op : Operator) (v : Value) :
    compare op a v = compare op b v := by
  cases op with
  | equals => exact h.same_eq v
  | notEquals => exact congrArg (!·) (h.same_eq v)
  | contains => exact includes_congr h v

/-- Such answers say something or nothing alike. -/
theorem unanswered_congr {a b : Value} (h : Agrees a b) :
    unanswered (some a) = unanswered (some b) := by
  rcases h with rfl | ⟨hsame, -⟩
  · rfl
  · cases a with
    | null =>
      cases b with
      | null => rfl
      | _ => cases hsame
    | str s => rw [Value.eq_of_same_str hsame]
    | _ =>
      cases b with
      | null => cases hsame
      | str t => cases hsame
      | _ => rfl

/-- The answers are related, or neither says anything. -/
def Alike (R : Value → Value → Prop) (a b : Option Value) : Prop :=
  Option.Rel R a b ∨ unanswered a = true ∧ unanswered b = true

/-- A condition does not tell answers apart that agree or say nothing. -/
theorem holdsFor_of_alike {R : Value → Value → Prop} (hR : ∀ v w, R v w → Agrees v w)
    {condition : Value} {a b : Option Value} (h : Alike R a b) :
    holdsFor condition a = holdsFor condition b := by
  rcases h with hrel | ⟨ha, hb⟩
  · cases hrel with
    | none => rfl
    | some hab =>
      unfold holdsFor
      cases operator? condition with
      | none => rfl
      | some op => simp only [unanswered_congr (hR _ _ hab), compare_congr (hR _ _ hab)]
  · rw [holdsFor_of_unanswered ha, holdsFor_of_unanswered hb]

end Condition

namespace Rules

/-- A rule shows the same when its conditions hold alike. -/
theorem shows_congr {rules : Value} {answers others : Members}
    (h : ∀ condition ∈ conditions rules,
      Condition.holds condition answers = Condition.holds condition others) :
    shows rules answers = shows rules others := by
  unfold shows
  split
  · rfl
  · split
    · rfl
    · rfl
    · rename_i c cs hconditions
      rw [conditions, hconditions] at h
      rw [List.map_congr_left h]
    · rfl
  · rfl

/-- A well-formed rule does not tell answers apart that are alike under the keys that it refers to. -/
theorem shows_of_alike {R : Value → Value → Prop} (hR : ∀ v w, R v w → Agrees v w) {rules : Value}
    (hrules : wellFormed rules = true) {answers others : Members}
    (h : ∀ ref ∈ references rules, Condition.Alike R (answers.get? ref) (others.get? ref)) :
    shows rules answers = shows rules others := by
  refine shows_congr fun condition hcondition => ?_
  unfold Condition.holds
  cases hsubject : Condition.subject? condition with
  | none => rfl
  | some key =>
    exact Condition.holdsFor_of_alike hR (h key (mem_references hrules hcondition hsubject))

/-- **A rule depends on the questions that it names, and on nothing else.** A well-formed rule gives one
verdict under any two sets of answers that agree, or say nothing, under each key that it refers to. These
keys are the questions that its conditions look up, each listed once, in the order in which they are first
named. -/
theorem rule_depends_on_references {rules : Value} (hrules : wellFormed rules = true) :
    (∀ answers others : Members,
      (∀ ref ∈ references rules, Condition.Alike Agrees (answers.get? ref) (others.get? ref)) →
      shows rules answers = shows rules others) ∧
    (conditions rules).map Condition.subject? = (subjects rules).map some ∧
    FirstSeen (references rules) (subjects rules) := by
  refine ⟨?_, map_subject? hrules, ?_⟩
  · intro answers others halike
    exact shows_of_alike (fun _ _ hagrees => hagrees) hrules halike
  · rw [references_eq hrules]
    exact firstSeen_distinct _

/-- Three conditions on two questions. -/
def twoQuestions : Value :=
  written "OR" [Condition.written "b" "equals" (.int 2),
    Condition.written "a" "notEquals" (.ofString "x"), Condition.written "b" "contains" (.ofString "u")]

theorem rule_depends_on_references_two :
    wellFormed twoQuestions = true ∧ references twoQuestions = (["b", "a"] : List Text) ∧
    shows twoQuestions [("b", .int 2), ("c", .ofString "z")] =
      shows twoQuestions [("a", .null), ("b", .real (.ofDecimal false 2 0))] ∧
    (conditions twoQuestions).map Condition.subject? = (["b", "a", "b"] : List Text).map some ∧
    FirstSeen (references twoQuestions) (["b", "a", "b"] : List Text) := by
  have hrules : wellFormed twoQuestions = true := by decide
  have hreferences : references twoQuestions = (["b", "a"] : List Text) := by decide
  have hb : Agrees (.int 2) (.real (.ofDecimal false 2 0)) :=
    .inr ⟨by decide, Binary64.sound_ofDecimal false 2 0⟩
  obtain ⟨hverdict, hsubjects, hfirst⟩ := rule_depends_on_references hrules
  refine ⟨hrules, hreferences, hverdict _ _ ?_, hsubjects, hfirst⟩
  rw [hreferences, List.forall_mem_cons, List.forall_mem_singleton]
  exact ⟨.inl (.some hb), .inr ⟨rfl, rfl⟩⟩

end Rules
end Intake
