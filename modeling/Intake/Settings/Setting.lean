import Intake.Json.Display
import Intake.Settings.Access
import Intake.Settings.World

/-!
# Which source decides

Every setting has a list of sources. The first one that gives a text other than the empty one decides;
when none does, the last source has its way, even if it gives the empty text or nothing. Variables
come before the files of the directory `config`, those before the JSON file, and a default stands last.
-/

namespace Intake.Settings

/-- What can be set. -/
inductive Setting where
  | database
  | apiUrl
  | token
  | timeout
  | origins
  deriving DecidableEq

/-- The member at the end of a path of keys; nothing but objects has members. -/
def at? : List Text → Value → Option Value
  | [], v => some v
  | key :: rest, .obj ms => (Members.get? ms key).bind (at? rest)
  | _ :: _, _ => none

/-- The text of a value in the JSON file: items of a list with commas between them, anything else as it
is displayed. Null stands for no text. -/
def textOf : Value → Option Text
  | .null => none
  | .arr items => some (Text.join [44] (items.map Value.display))
  | v => some v.display

/-- The text that the JSON file gives at a path. -/
def World.base? (w : World) (path : List Text) : Option Text := (at? path w.base).bind textOf

/-- The database when nothing else is set: one in memory. -/
def defaultDatabase : Text := "sqlite+pysqlite:///:memory:"

/-- The origin that is admitted when nothing else is set. -/
def defaultOrigin : Text := "http://localhost:5173"

/-- The sources of a setting, the strongest first. A default for a path that the JSON file lacks takes
the place of that path. -/
def Setting.sources (w : World) : Setting → List (Option Text)
  | database => [w.valueOf? "TEST_DATABASE_URL", w.valueOf? "DATABASE_URL",
      w.override? "database.url", w.base? ["database", "dsn"], some defaultDatabase]
  | apiUrl => [w.valueOf? "AIRTABLE_API_URL", w.override? "airtable.api_url",
      (w.base? ["airtable", "api_url"]).or (some Access.publicUrl)]
  | token => [w.valueOf? "AIRTABLE_PERSONAL_ACCESS_TOKEN", w.override? "airtable.token",
      w.base? ["airtable", "token"]]
  | timeout => [w.valueOf? "AIRTABLE_TIMEOUT_SECONDS", w.override? "airtable.timeout_seconds",
      (w.base? ["airtable", "timeout_seconds"]).or (some "10")]
  | origins => [w.valueOf? "CORS_ORIGINS", w.override? "cors.origins",
      (w.base? ["cors", "origins"]).or (some defaultOrigin)]

/-- A source that decides: it gives a text other than the empty one. -/
def decisive : Option Text → Bool
  | some (_ :: _) => true
  | _ => false

/-- What the first decisive source gives; without one, what the last source gives. -/
def firstGiven : List (Option Text) → Option Text
  | [] => none
  | [s] => s
  | s :: t :: rest => if decisive s then s else firstGiven (t :: rest)

/-- The text of a setting. -/
def Setting.text? (w : World) (s : Setting) : Option Text := firstGiven (s.sources w)

/-- A decisive source that comes first decides. -/
theorem firstGiven_cons_of_decisive {s : Option Text} (rest : List (Option Text))
    (h : decisive s = true) : firstGiven (s :: rest) = s := by
  cases rest with
  | nil => rfl
  | cons t ts => simp [firstGiven, h]

/-- A source that does not decide is passed over when others follow. -/
theorem firstGiven_cons_of_not_decisive {s t : Option Text} {rest : List (Option Text)}
    (h : decisive s = false) : firstGiven (s :: t :: rest) = firstGiven (t :: rest) := by
  simp [firstGiven, h]

end Intake.Settings
