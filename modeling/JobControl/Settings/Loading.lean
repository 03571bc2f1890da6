import JobControl.Files
import JobControl.Settings.Environment
import JobControl.Settings.File
import JobControl.Settings.Overlay

/-!
# Loading settings

Settings are loaded from a file and from the environment, which is laid over the file; what
neither of them says is left at its default.
-/

namespace JobControl.Settings

/-- The files that are tried in turn if no file is named. -/
def usualFiles : List String := ["config/scheduler.toml", "scheduler.toml"]

def isThere (files : Files) (path : String) : Bool :=
  match files.find path with
  | .ok _ => true
  | .error _ => false

/-- The file from which settings are loaded, if there is one. -/
def source? (files : Files) : Option String → Except SettingsRefusal (Option String)
  | some path => if isThere files path then .ok (some path) else .error (.noFile path)
  | none => .ok (usualFiles.find? (isThere files))

/-- The path of the file with the ending `.toml` beside a directory. A path that does not end
with the name of a directory has none. -/
def beside? (path : String) : Option String :=
  match (Files.names path).reverse.dropWhile fun name => name == "" || name == "." with
  | ".." :: _ | [] => none
  | name :: before => some (joined "/" ((name ++ ".toml") :: before).reverse)

/-- The text of a settings file. A path that leads to a directory stands for the file beside
it. -/
def fileText? (files : Files) (path : String) : Option String :=
  files.read? path <|> (beside? path).bind files.read?

/-- A point in time is a text where the kinds of values are not known. -/
def timeText (t : Toml.Time) : Json := .str t.text

/-- The settings in a file, in which every whole number has room in 64 bits with a sign. -/
def fileLayer (files : Files) (path : String) :
    Except SettingsRefusal (List (String × Json)) :=
  let document? : Option Toml := do
    let text ← fileText? files path
    (Toml.parse? (String.ofList (Toml.unmarked text.toList))).filter fun t =>
      t.allInts fun n => -0x8000000000000000 ≤ n ∧ n < 0x8000000000000000
  match document? with
  | some (.table _ fields) => .ok (Toml.fieldsToJson timeText fields)
  | _ => .error .unbuildable

/-- The settings of a scheduler that is started with the given files and variables, and with
the path of a settings file if there is one. -/
def load (files : Files) (path : Option String) (vars : Table String) :
    Except SettingsRefusal Settings := do
  let lowest ← match ← source? files path with
    | some path => fileLayer files path
    | none => pure []
  match Manner.converting.settings (Overlay.merged [lowest, Variable.layer vars]) with
  | some s => s.checked
  | none => .error .mistyped

end JobControl.Settings
