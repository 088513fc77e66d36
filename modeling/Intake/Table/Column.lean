import Intake.Form.Question
import Intake.Json.Misuse
import Intake.Json.Display

/-!
# Columns of a remote table

The remote service describes a table as an unchecked value. Each entry of its field list becomes a
column with a type, the names of its choices and a mark whether a form can ask for it. Parts of an entry
that have the wrong shape count as absent; only an entry that is no object at all is a misuse.
-/

namespace Intake

/-- A column of a remote table. -/
structure Column where
  id : Value
  name : Value
  type : Text
  options : List Text

namespace Column

/-- A form can ask for the column. -/
def supported (c : Column) : Bool := !unsupportedTypes.contains c.type

/-- The name of a choice, if it has one. -/
def choiceName? (choice : Value) : Option Text :=
  match choice.member "name" with
  | .null => none
  | v => some v.display

/-- The names of the choices of a field. -/
def choiceNames (field : Value) : List Text :=
  match (field.member "options").member "choices" with
  | .arr choices => choices.filterMap choiceName?
  | _ => []

/-- The type of a field; empty when none is given. -/
def typeOf (field : Value) : Text :=
  let t := field.member "type"
  if t.isFalsy then [] else t.display

/-- The column that an entry of the field list describes. -/
def ofField (field : Value) : Except Misuse Column :=
  match field with
  | .obj _ => .ok ⟨field.member "id", field.member "name", typeOf field, choiceNames field⟩
  | _ => .error .noMembers

/-- The columns of entries, up to the first that is no object. -/
def ofFields : List Value → Except Misuse (List Column)
  | [] => .ok []
  | f :: fs =>
    match ofField f with
    | .error e => .error e
    | .ok c =>
      match ofFields fs with
      | .error e => .error e
      | .ok cs => .ok (c :: cs)

/-- The columns of a table. -/
def ofTable (table : Value) : Except Misuse (List Column) :=
  match table with
  | .obj _ =>
    match (table.member "fields").listedOrNone with
    | .ok fields => ofFields fields
    | .error e => .error e
  | _ => .error .noMembers

/-- A column as an object. -/
def dump (c : Column) : Value :=
  .obj [("id", c.id), ("name", c.name), ("type", .str c.type),
    ("options", .arr (c.options.map .str)), ("supported", .bool c.supported)]

end Column

/-- The first table whose id or name is the one asked for; asking for none finds a table that lacks
one of the two. -/
def findTable (wanted : Option Text) : List Value → Except Misuse (Option Value)
  | [] => .ok none
  | t :: ts =>
    match t with
    | .obj _ =>
      if isWanted (t.member "id") || isWanted (t.member "name") then .ok (some t)
      else findTable wanted ts
    | _ => .error .noMembers
where
  /-- The value is the id or name asked for. -/
  isWanted (v : Value) : Bool :=
    match wanted, v with
    | some w, .str s => w == s
    | none, .null => true
    | _, _ => false

/-- The table asked for among those that a value lists. -/
def findTableIn (wanted : Option Text) (tables : Value) : Except Misuse (Option Value) :=
  match tables.listed? with
  | some ts => findTable wanted ts
  | none => .error .wrongKind

end Intake
