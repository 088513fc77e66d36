import Intake.Json.Value

/-!
# Checking records

A record is checked field by field in the order in which its fields are declared, and every fault is
reported, not only the first. A check therefore gives either a value or the list of its issues; two
checks side by side give both values or all issues of both, in order. An issue says what is wrong and
where: the keys and positions that lead to the faulty value.
-/

namespace Intake

/-- What can be wrong with a value. -/
inductive Fault where
  | missing
  | notRecord (name : Text)
  | notText
  | notUnicode
  | tooShort
  | notOneOf (choices : List Text)
  | notBool
  | unclearBool
  | notWhole
  | unclearWhole
  | fractional
  | notFinite
  | tooLarge
  | notNumber
  | unclearNumber
  | notPositive
  | notList
  | notObject
  | notMoment
  | unclearMoment (reason : Text)
  | unclearDate (reason : Text)
  | rejected (reason : Text)
  deriving DecidableEq

namespace Fault

/-- Quoted choices with commas and a last `or`. -/
def choiceText : List Text → Text
  | [] => []
  | [c] => ("'" : Text) ++ c ++ ("'" : Text)
  | [c, d] => ("'" : Text) ++ c ++ ("' or '" : Text) ++ d ++ ("'" : Text)
  | c :: d :: e :: rest => ("'" : Text) ++ c ++ ("', " : Text) ++ choiceText (d :: e :: rest)

/-- The stable code of a fault. -/
def code : Fault → Text
  | missing => "missing"
  | notRecord _ => "model_type"
  | notText => "string_type"
  | notUnicode => "string_unicode"
  | tooShort => "string_too_short"
  | notOneOf _ => "literal_error"
  | notBool => "bool_type"
  | unclearBool => "bool_parsing"
  | notWhole => "int_type"
  | unclearWhole => "int_parsing"
  | fractional => "int_from_float"
  | notFinite => "finite_number"
  | tooLarge => "int_parsing_size"
  | notNumber => "float_type"
  | unclearNumber => "float_parsing"
  | notPositive => "greater_than"
  | notList => "list_type"
  | notObject => "dict_type"
  | notMoment => "datetime_type"
  | unclearMoment _ => "datetime_parsing"
  | unclearDate _ => "datetime_from_date_parsing"
  | rejected _ => "value_error"

/-- The sentence that explains a fault. -/
def message : Fault → Text
  | missing => "Field required"
  | notRecord name => ("Input should be a valid dictionary or instance of " : Text) ++ name
  | notText => "Input should be a valid string"
  | notUnicode => "Input should be a valid string, unable to parse raw data as a unicode string"
  | tooShort => "String should have at least 1 character"
  | notOneOf choices => ("Input should be " : Text) ++ choiceText choices
  | notBool => "Input should be a valid boolean"
  | unclearBool => "Input should be a valid boolean, unable to interpret input"
  | notWhole => "Input should be a valid integer"
  | unclearWhole => "Input should be a valid integer, unable to parse string as an integer"
  | fractional => "Input should be a valid integer, got a number with a fractional part"
  | notFinite => "Input should be a finite number"
  | tooLarge => "Unable to parse input string as an integer, exceeded maximum size"
  | notNumber => "Input should be a valid number"
  | unclearNumber => "Input should be a valid number, unable to parse string as a number"
  | notPositive => "Input should be greater than 0"
  | notList => "Input should be a valid list"
  | notObject => "Input should be a valid dictionary"
  | notMoment => "Input should be a valid datetime"
  | unclearMoment reason => ("Input should be a valid datetime, " : Text) ++ reason
  | unclearDate reason => ("Input should be a valid datetime or date, " : Text) ++ reason
  | rejected reason => ("Value error, " : Text) ++ reason

end Fault

/-- One step on the way to a value. -/
inductive Step where
  | key (k : Text)
  | index (i : Nat)
  deriving DecidableEq

/-- A fault and where it is. -/
structure Issue where
  path : List Step
  fault : Fault
  deriving DecidableEq

/-- The issue seen from one step further out. -/
def Issue.within (s : Step) (i : Issue) : Issue := { i with path := s :: i.path }

/-- The outcome of a check: a value, or all issues. -/
inductive Checked (α : Type) where
  | ok (a : α)
  | failed (issues : List Issue)

namespace Checked

variable {α β γ : Type}

/-- A single fault right here. -/
def fault (f : Fault) : Checked α := .failed [⟨[], f⟩]

/-- Changes the value of a check. -/
def map (f : α → β) : Checked α → Checked β
  | .ok a => .ok (f a)
  | .failed e => .failed e

/-- The value, if there are no issues. -/
def toOption : Checked α → Option α
  | .ok a => some a
  | .failed _ => none

/-- Both checks: the combined value, or the issues of the first and then of the second. -/
def both (f : α → β → γ) : Checked α → Checked β → Checked γ
  | .ok a, .ok b => .ok (f a b)
  | .ok _, .failed e => .failed e
  | .failed e, .ok _ => .failed e
  | .failed e, .failed e' => .failed (e ++ e')

/-- One more check beside the ones before. -/
def also (f : Checked (α → β)) (a : Checked α) : Checked β := both (fun g x => g x) f a

/-- The issues of a part, seen from the whole. -/
def within (s : Step) : Checked α → Checked α
  | .ok a => .ok a
  | .failed e => .failed (e.map (Issue.within s))

/-- Checks the items of a list from a position on. -/
def itemsFrom (check : Value → Checked α) : Nat → List Value → Checked (List α)
  | _, [] => .ok []
  | i, v :: vs => both List.cons (within (.index i) (check v)) (itemsFrom check (i + 1) vs)

/-- A list of values that all pass a check. -/
def list (check : Value → Checked α) : Value → Checked (List α)
  | .arr items => itemsFrom check 0 items
  | _ => fault .notList

/-- An object. -/
def object : Value → Checked Members
  | .obj ms => .ok ms
  | _ => fault .notObject

/-- A value or null. -/
def optional (check : Value → Checked α) : Value → Checked (Option α)
  | .null => .ok none
  | v => (check v).map some

end Checked

/-- A field of a record: its name on the wire and its name inside the program. Both are read, the
wire name first. An issue names a field as it was given, and a missing one as on the wire. -/
structure FieldName where
  wire : Text
  plain : Text

namespace FieldName

/-- A field with one name. -/
def same (name : Text) : FieldName := ⟨name, name⟩

/-- The name under which a field is given, and its value. -/
def given? (n : FieldName) (ms : Members) : Option (Text × Value) :=
  match ms.get? n.wire with
  | some v => some (n.wire, v)
  | none => (ms.get? n.plain).map fun v => (n.plain, v)

variable {α : Type}

/-- A field that must be given. -/
def required (n : FieldName) (check : Value → Checked α) (ms : Members) : Checked α :=
  match n.given? ms with
  | some (name, v) => Checked.within (.key name) (check v)
  | none => Checked.within (.key n.wire) (Checked.fault .missing)

/-- A field with a default. -/
def withDefault (n : FieldName) (d : α) (check : Value → Checked α) (ms : Members) : Checked α :=
  match n.given? ms with
  | some (name, v) => Checked.within (.key name) (check v)
  | none => .ok d

end FieldName

/-- Which names a record is written with. -/
inductive Naming where
  | wire
  | plain
  deriving DecidableEq

/-- The name of a field in a naming. -/
def FieldName.under (n : FieldName) : Naming → Text
  | .wire => n.wire
  | .plain => n.plain

/-- A record is an object; its fields are checked together. -/
def Checked.record {α : Type} (name : Text) (fields : Members → Checked α) : Value → Checked α
  | .obj ms => fields ms
  | _ => Checked.fault (.notRecord name)

end Intake
