import Intake.Json.Value

/-!
# Using unchecked values

Some functions take values that nobody has checked. What can go wrong is always one of a few things: a
member is looked up in a value without members, a value of one kind is used as another, a value of the
right kind has unusable content, or an entry that must be there is missing.
-/

namespace Intake

/-- What goes wrong when a value is used as something that it is not. -/
inductive Misuse where
  | noMembers
  | wrongKind
  | badContent
  | noEntry
  deriving DecidableEq

namespace Value

/-- The values that a value lists: items of an array, keys of an object, characters of a text. -/
def listed? : Value → Option (List Value)
  | arr items => some items
  | obj ms => some (ms.map fun e => str e.1)
  | str s => some (s.map fun c => str [c])
  | _ => none

/-- The values that a value lists, where an empty or absent value lists nothing. -/
def listedOrNone (v : Value) : Except Misuse (List Value) :=
  match v.listed? with
  | some items => .ok items
  | none => if v.isFalsy then .ok [] else .error .wrongKind

/-- The members of an object, where anything else is a misuse. -/
def membersOrMisuse : Value → Except Misuse Members
  | obj ms => .ok ms
  | _ => .error .noMembers

end Value
end Intake
