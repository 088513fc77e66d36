import Intake.Json.Value

/-!
# Strict equality of values

An answer equals the value of a condition when both mean the same: booleans only equal booleans, a
number equals a number of the same exact value whatever its kind, texts are compared code point by
code point, arrays in order and objects as finite maps. A NaN equals nothing. Values of any depth are
compared; a bound that an interpreter may set on nesting is no part of this.
-/

namespace Intake.Value

/-- Every key of the one object is a key of the other. -/
def keysWithin (ms ns : Members) : Bool := ms.all fun e => ns.has e.1

mutual
/-- The two values mean the same. -/
def same : Value → Value → Bool
  | null, null => true
  | bool a, bool b => a == b
  | int a, int b => a == b
  | int a, real y => y.eqInt a
  | real x, int b => x.eqInt b
  | real x, real y => x.numEq y
  | str s, str t => s == t
  | arr as, arr bs => sameItems as bs
  | obj ms, obj ns => keysWithin ns ms && sameMembers ms ns
  | _, _ => false
/-- The two lists agree item by item. -/
def sameItems : List Value → List Value → Bool
  | [], [] => true
  | a :: as, b :: bs => same a b && sameItems as bs
  | _, _ => false
/-- Every member has a partner of the same meaning under its key. -/
def sameMembers : List (Text × Value) → List (Text × Value) → Bool
  | [], _ => true
  | (k, v) :: rest, ns =>
    (match Members.get? ns k with
      | some w => same v w
      | none => false) && sameMembers rest ns
end

end Intake.Value
