import Intake.Json.Reader
import Intake.Text.Blank
import Intake.Text.Utf8

/-!
# Where settings come from

Settings are looked for in variables, in small text files of the directory `config` (one value each,
with white space around it), and in one JSON file. Whatever cannot be used counts as not there: a
missing file, a directory in its place, octets that are not UTF-8, a malformed JSON text, and a JSON
text that is not an object where one is expected.
-/

namespace Intake.Settings

/-- What stands at a path. -/
inductive Entry where
  | file (content : Octets)
  | directory
  deriving DecidableEq

/-- Variables by name and entries by path. -/
structure World where
  environment : List (Text × Text)
  entries : List (Text × Entry)

/-- The line ends of all systems as line feeds. -/
def lines : Text → Text
  | 13 :: 10 :: rest => 10 :: lines rest
  | 13 :: rest => 10 :: lines rest
  | c :: rest => c :: lines rest
  | [] => []

/-- The text of a file, if its octets are well-formed. -/
def Entry.text? : Entry → Option Text
  | .file content => (Utf8.decode? content).map lines
  | .directory => none

namespace World

/-- The value of a variable. -/
def valueOf? (w : World) (name : Text) : Option Text :=
  (w.environment.find? fun e => e.1 == name).map (·.2)

/-- The text of the file at a path. -/
def text? (w : World) (path : Text) : Option Text :=
  (w.entries.find? fun e => e.1 == path).bind fun e => e.2.text?

/-- The value in a file of the directory `config`, without white space around it. -/
def override? (w : World) (name : Text) : Option Text :=
  (w.text? (("config/" : Text) ++ name)).map Text.trim

/-- The JSON file's name. -/
def baseName : Text := "formsync_config.json"

/-- The content of the JSON file; an empty object when there is none. -/
def base (w : World) : Value :=
  ((w.text? baseName).bind Json.read?).getD (.obj [])

end World
end Intake.Settings
