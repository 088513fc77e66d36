import Intake.Json.Value
import Intake.Text.Blank
import Intake.Text.Case

/-!
# Logging

One level holds for the whole service. It is taken from a variable, in any case and with white space
around it, and must be one of the known names; two of them are older names of others. Logging that
somebody has already set up is left alone.
-/

namespace Intake.Logging

/-- The levels, the most urgent first. -/
inductive Level where
  | critical
  | error
  | warning
  | info
  | debug
  | unset
  deriving DecidableEq

namespace Level

/-- The name of a level. -/
def name : Level → Text
  | critical => "CRITICAL"
  | error => "ERROR"
  | warning => "WARNING"
  | info => "INFO"
  | debug => "DEBUG"
  | unset => "NOTSET"

/-- The level with a name, older names included. -/
def ofName? (t : Text) : Option Level :=
  if t = "CRITICAL" ∨ t = "FATAL" then some critical
  else if t = "ERROR" then some error
  else if t = "WARNING" ∨ t = "WARN" then some warning
  else if t = "INFO" then some info
  else if t = "DEBUG" then some debug
  else if t = "NOTSET" then some unset
  else none

/-- Every level is found under its name. -/
@[simp] theorem ofName?_name (l : Level) : ofName? l.name = some l := by
  cases l <;> decide

end Level

/-- The name of the level that a variable asks for. -/
def levelName (asked : Option Text) : Text :=
  let given : Text := match asked with
    | some (c :: cs) => c :: cs
    | _ => "INFO"
  given.trim.upper

/-- The handler of everything that is logged. -/
def handlers : Value := .arr [.ofString "console"]

/-- A logger that writes to the handler itself. -/
def ownLogger (level : Text) : Value :=
  .obj [("level", .str level), ("handlers", handlers), ("propagate", .bool false)]

/-- The set-up of logging for the name of a level. -/
def setup (level : Text) : Value :=
  .obj [("version", .int 1), ("disable_existing_loggers", .bool false),
    ("formatters", .obj [("default",
      .obj [("format", .ofString "%(asctime)s %(levelname)s:%(name)s:%(message)s")])]),
    ("handlers", .obj [("console",
      .obj [("class", .ofString "logging.StreamHandler"), ("level", .str level),
        ("formatter", .ofString "default"), ("stream", .ofString "ext://sys.stdout")])]),
    ("root", .obj [("level", .str level), ("handlers", handlers)]),
    ("loggers", .obj [("uvicorn", ownLogger level), ("uvicorn.error", ownLogger level),
      ("uvicorn.access", ownLogger level), ("httpx", .obj [("level", .ofString "WARNING")])])]

/-- What the root logger writes to, and from which level on. -/
structure Root where
  handlers : List Text
  level : Level

/-- The root logger when somebody else has set it up. -/
def foreign : Root := ⟨["NullHandler"], .warning⟩

/-- Sets up the root logger, unless that is done; an unknown level is refused. -/
def configure (configured : Bool) (level : Text) : Option Root :=
  if configured then some foreign
  else (Level.ofName? level).map fun l => ⟨["StreamHandler"], l⟩

end Intake.Logging
