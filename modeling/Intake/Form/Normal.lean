import Intake.Form.Payload
import Intake.Rule.Equality

/-!
# Normal rules

Before a form is stored the rule of every question is reduced to its declared fields; everything else
about the question stays as it is. A question may also be given as a list of key-value pairs; keys that
are the same number count as one key, which keeps the form in which it came first.
-/

namespace Intake.Normal

/-- Why questions cannot be normalised. -/
inductive NormalError where
  | misuse (m : Misuse)
  | rules (issues : List Issue)

/-- The text of a key that is not a text itself. -/
def keyText : Value → Text
  | .str s => s
  | .null => "null"
  | .bool true => "true"
  | .bool false => "false"
  | .real .nan => "NaN"
  | .real (.infinite false) => "Infinity"
  | .real (.infinite true) => "-Infinity"
  | v => v.display

/-- A key as it is compared with others: yes counts as one and no as zero. -/
def comparable : Value → Value
  | .bool b => .int (if b then 1 else 0)
  | v => v

/-- Two keys count as one. -/
def sameKey (k l : Value) : Bool := (comparable k).same (comparable l)

/-- A pair of a key and a value: anything that lists two values, the first of them simple. -/
def pair (v : Value) : Except Misuse (Value × Value) :=
  match v.listed? with
  | none => .error .wrongKind
  | some [k, w] =>
    match k with
    | .arr _ => .error .wrongKind
    | .obj _ => .error .wrongKind
    | _ => .ok (k, w)
  | some _ => .error .badContent

/-- Sets a pair: in place of the value of a key that counts as the same, or as a new last one. -/
def setPair (k w : Value) : List (Value × Value) → List (Value × Value)
  | [] => [(k, w)]
  | (l, v) :: rest => if sameKey l k then (l, w) :: rest else (l, v) :: setPair k w rest

/-- Sets the pairs one after the other. -/
def ofPairs (acc : List (Value × Value)) : List Value → Except Misuse (List (Value × Value))
  | [] => .ok acc
  | v :: vs =>
    match pair v with
    | .ok (k, w) => ofPairs (setPair k w acc) vs
    | .error e => .error e

/-- A question as an object. -/
def asObject : Value → Except Misuse Members
  | .obj ms => .ok ms
  | v =>
    match v.listed? with
    | some items =>
      match ofPairs [] items with
      | .ok pairs => .ok (Members.ofPairs (pairs.map fun e => (keyText e.1, e.2)))
      | .error e => .error e
    | none => .error .wrongKind

/-- A question with its rule reduced to the declared fields. -/
def question (v : Value) : Except NormalError Value :=
  match asObject v with
  | .error e => .error (.misuse e)
  | .ok ms =>
    match Members.getD ms "conditionalRules" with
    | .null => .ok (.obj ms)
    | rules =>
      match RuleRecord.check rules with
      | .ok r => .ok (.obj (Members.set ms "conditionalRules" (r.dump .wire)))
      | .failed issues => .error (.rules issues)

/-- Questions with their rules reduced, up to the first that cannot be. -/
def questions : List Value → Except NormalError (List Value)
  | [] => .ok []
  | v :: vs =>
    match question v with
    | .error e => .error e
    | .ok q =>
      match questions vs with
      | .error e => .error e
      | .ok qs => .ok (q :: qs)

/-- The questions that a value lists, with their rules reduced. -/
def ofValue (v : Value) : Except NormalError (List Value) :=
  match v.listed? with
  | some items => questions items
  | none => .error (.misuse .wrongKind)

end Intake.Normal
