import Intake.Json.Value
import Intake.Number.Significant

/-!
# Cells

Every column of the store that callers fill holds a text that some Unicode encoding can carry. Simple
values are stored as their text, and truth values as one or zero; null is no text at all, and no column
takes it.
-/

namespace Intake.Store

/-- Why the store does not do what it is asked for. -/
inductive StoreError where
  | unavailable
  | empty
  | notEncodable
  | unsupported
  | tooLarge
  deriving DecidableEq

/-- The text of a cell. -/
def cell (t : Text) : Except StoreError Text := if t.encodable then .ok t else .error .notEncodable

/-- The text that a value is in a cell, if it is any. -/
def cellOf : Value → Except StoreError (Option Text)
  | .null => .ok none
  | .str s => if s.encodable then .ok (some s) else .error .notEncodable
  | .int n => if fitsWord n then .ok (some (Text.ofInt n)) else .error .tooLarge
  | .bool b => .ok (some (if b then [49] else [48]))
  | .real x => .ok x.columnText?
  | _ => .error .unsupported

/-- The texts of several values, the first error first. -/
def cellsOf : List Value → Except StoreError (List (Option Text))
  | [] => .ok []
  | v :: vs =>
    match cellOf v with
    | .error e => .error e
    | .ok c =>
      match cellsOf vs with
      | .error e => .error e
      | .ok cs => .ok (c :: cs)

/-- Cells that are all filled. -/
def filled : List (Option Text) → Except StoreError (List Text)
  | [] => .ok []
  | none :: _ => .error .empty
  | some t :: rest =>
    match filled rest with
    | .error e => .error e
    | .ok ts => .ok (t :: ts)

end Intake.Store
