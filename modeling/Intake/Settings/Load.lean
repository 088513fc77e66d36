import Intake.Settings.Access
import Intake.Settings.Setting

/-!
# Loading the settings

The texts of all settings are turned into a checked configuration. The database is checked first; then
the waiting time must be a number at all; then the access to the remote service is checked as a whole,
and the origins come last. The first of these steps that fails is reported.
-/

namespace Intake.Settings

/-- A checked configuration. -/
structure Config where
  database : Text
  access : Access
  origins : List Text

/-- Why a configuration is refused. -/
inductive LoadError where
  | database (issues : List Issue)
  | timeout
  | access (issues : List Issue)
  deriving DecidableEq

/-- The database must be named by more than white space. -/
def checkDatabase (dsn : Text) : Checked Text :=
  if dsn.isBlank then
    Checked.within (.key "dsn")
      (Checked.fault (.rejected "database.dsn must be a non-empty string"))
  else .ok dsn

/-- The origins in a text: pieces between commas, without white space around them and without the empty
ones. -/
def originsOf (t : Text) : List Text :=
  ((t.pieces 44).map Text.trim).filter fun o => !o.isEmpty

/-- The settings that a world gives. -/
def load (w : World) : Except LoadError Config :=
  match checkDatabase ((Setting.text? w .database).getD []) with
  | .failed issues => .error (.database issues)
  | .ok database =>
    match Typed.real? (Text.trim ((Setting.text? w .timeout).getD [])) with
    | none => .error .timeout
    | some timeout =>
      match Access.check (.obj [("api_url", .str ((Setting.text? w .apiUrl).getD [])),
          ("token", Value.ofText? (Setting.text? w .token)), ("timeout_seconds", .real timeout)]) with
      | .failed issues => .error (.access issues)
      | .ok access => .ok ⟨database, access, originsOf ((Setting.text? w .origins).getD [])⟩

end Intake.Settings
