import Intake.Number.Shortest

/-!
# JSON values

The values that forms, answers and notifications are made of. Whole numbers and floating-point
numbers are different kinds, whole numbers have any size, and an object keeps the order in which its
members were given, because the first failure is reported in that order and the text form of an
object shows it. The member functions treat an object as a finite map: setting a key that is present
replaces its value in place.
-/

namespace Intake

/-- A JSON value. -/
inductive Value where
  | null
  | bool (b : Bool)
  | int (n : Int)
  | real (x : Binary64)
  | str (s : Text)
  | arr (items : List Value)
  | obj (members : List (Text × Value))

/-- The members of an object in order. -/
abbrev Members := List (Text × Value)

namespace Members

/-- The value under a key: the first one, if a key stands there twice. -/
def get? : Members → Text → Option Value
  | [], _ => none
  | (k, v) :: rest, key => if k = key then some v else get? rest key

/-- The value under a key, or null when the key is missing. -/
def getD (m : Members) (key : Text) : Value := (m.get? key).getD .null

/-- The key is present. -/
def has (m : Members) (key : Text) : Bool := (m.get? key).isSome

/-- Puts a value under a key: in place of the old value, or as a new last member. -/
def set : Members → Text → Value → Members
  | [], key, v => [(key, v)]
  | (k, w) :: rest, key, v => if k = key then (k, v) :: rest else (k, w) :: set rest key v

/-- The members without a key. -/
def erase (m : Members) (key : Text) : Members := m.filter fun e => !decide (e.1 = key)

/-- The keys in order. -/
def keys (m : Members) : List Text := m.map (·.1)

/-- Members set one after the other, starting from none. -/
def ofPairs (pairs : List (Text × Value)) : Members :=
  pairs.foldl (fun m e => m.set e.1 e.2) []

/-! ### Looking up after setting -/

@[simp] theorem get?_nil (key : Text) : get? [] key = none := rfl

theorem get?_cons (k : Text) (v : Value) (rest : Members) (key : Text) :
    get? ((k, v) :: rest) key = if k = key then some v else get? rest key := rfl

@[simp] theorem get?_set_self (m : Members) (key : Text) (v : Value) :
    (m.set key v).get? key = some v := by
  induction m with
  | nil => simp [set, get?]
  | cons e rest ih =>
    obtain ⟨k, w⟩ := e
    by_cases h : k = key <;> simp [set, get?, h, ih]

theorem get?_set_of_ne {m : Members} {key other : Text} {v : Value} (h : other ≠ key) :
    (m.set key v).get? other = m.get? other := by
  induction m with
  | nil => simp [set, get?, Ne.symm h]
  | cons e rest ih =>
    obtain ⟨k, w⟩ := e
    by_cases hk : k = key
    · subst hk; simp [set, get?, Ne.symm h]
    · simp [set, get?, hk, ih]

end Members

namespace Value

/-- The members of an object; nothing else has members. -/
def members? : Value → Option Members
  | obj ms => some ms
  | _ => none

/-- The value under a key of an object; null when the key is missing or there are no members. -/
def member : Value → Text → Value
  | obj ms, key => Members.getD ms key
  | _, _ => null

/-- The text of a string. -/
def text? : Value → Option Text
  | str s => some s
  | _ => none

/-- The value is null. -/
def isNull : Value → Bool
  | null => true
  | _ => false

/-- Values that count as absent in a yes-or-no question: null, false, zero and everything empty. -/
def isFalsy : Value → Bool
  | null => true
  | bool b => !b
  | int n => n == 0
  | real x => x.eqInt 0
  | str s => s.isEmpty
  | arr items => items.isEmpty
  | obj ms => ms.isEmpty

/-- A literal string value. -/
def ofString (s : String) : Value := str (Text.ofString s)

/-- A string value, or null. -/
def ofText? : Option Text → Value
  | some t => str t
  | none => null

mutual
/-- Everything in the value satisfies `p`: every string and every key. -/
def allText (p : Text → Bool) : Value → Bool
  | str s => p s
  | arr items => allTextItems p items
  | obj ms => allTextMembers p ms
  | _ => true
/-- Every string and key in a list of values satisfies `p`. -/
def allTextItems (p : Text → Bool) : List Value → Bool
  | [] => true
  | v :: vs => allText p v && allTextItems p vs
/-- Every key and every string below it satisfies `p`. -/
def allTextMembers (p : Text → Bool) : List (Text × Value) → Bool
  | [] => true
  | (k, v) :: rest => p k && allText p v && allTextMembers p rest
end

mutual
/-- Every floating-point number in the value satisfies `p`. -/
def allReal (p : Binary64 → Bool) : Value → Bool
  | real x => p x
  | arr items => allRealItems p items
  | obj ms => allRealMembers p ms
  | _ => true
/-- Every floating-point number in a list of values satisfies `p`. -/
def allRealItems (p : Binary64 → Bool) : List Value → Bool
  | [] => true
  | v :: vs => allReal p v && allRealItems p vs
/-- Every floating-point number below the members satisfies `p`. -/
def allRealMembers (p : Binary64 → Bool) : List (Text × Value) → Bool
  | [] => true
  | (_, v) :: rest => allReal p v && allRealMembers p rest
end

end Value
end Intake
