import Intake.Table.Column

/-!
# Draft questions

Every column that a form can ask for becomes a draft question. Drafts are numbered without gaps in the
order of the table, whatever columns were left out in between, and carry no rule; the author adds those.
-/

namespace Intake

/-- A draft question for a column. -/
structure Draft where
  key : Text
  column : Column

namespace Draft

/-- The key of the draft with a number. -/
def keyOf (n : Nat) : Text := ("q_" : Text) ++ Text.ofNat n

/-- Numbers columns from `n` on. -/
def numbered : Nat → List Column → List Draft
  | _, [] => []
  | n, c :: cs => ⟨keyOf n, c⟩ :: numbered (n + 1) cs

/-- The drafts for the columns of a table. -/
def ofColumns (columns : List Column) : List Draft := numbered 1 (columns.filter (·.supported))

/-- The drafts for a table. -/
def ofTable (table : Value) : Except Misuse (List Draft) := (Column.ofTable table).map ofColumns

/-- A draft as an object. -/
def dump (d : Draft) : Value :=
  .obj [("questionKey", .str d.key), ("airtableFieldId", d.column.id), ("label", d.column.name),
    ("type", .str d.column.type), ("required", .bool false),
    ("options", .arr (d.column.options.map .str)), ("conditionalRules", .null)]

end Draft
end Intake
