import JobControl.Settings.Manner
import JobControl.Toml.Document
import JobControl.Toml.Printer

/-!
# Settings files

Settings as the text of a TOML document. Writing leaves out what is not set; a whole number in
such a document has room in 64 bits with a sign, so a count beyond that cannot be written.
-/

namespace JobControl

/-- Why there are no settings. -/
inductive SettingsRefusal
  /-- The text of a document is not one, or does not describe settings. -/
  | malformed
  /-- Settings have no text. -/
  | unwritable
  | noFile (path : String)
  /-- The sources of settings cannot be put together. -/
  | unbuildable
  /-- What the sources say does not describe settings. -/
  | mistyped
  | defective (defect : SettingsDefect)
  deriving DecidableEq, Repr

namespace SettingsRefusal

def message : SettingsRefusal → String
  | malformed => "解析TOML配置失败"
  | unwritable => "序列化配置为TOML失败"
  | noFile path => "配置文件不存在: " ++ path
  | unbuildable => "构建配置失败"
  | mistyped => "反序列化配置失败"
  | defective d => d.heading

/-- What is behind a refusal. -/
def cause? : SettingsRefusal → Option String
  | defective d => some d.message
  | _ => none

end SettingsRefusal

namespace Settings

/-- Settings without a defect. -/
def checked (s : Settings) : Except SettingsRefusal Settings :=
  match s.defect? with
  | some d => .error (.defective d)
  | none => .ok s

/-! ## Reading -/

/-- A point in time stands for no value of settings, but for a record of which no field is
known. -/
def timeRecord (t : Toml.Time) : Json := .obj [("time", .str t.text)]

/-- The settings that a document describes. -/
def ofToml? (t : Toml) : Option Settings := Manner.exact.settings (t.toJson timeRecord)

/-- The settings in the text of a document. -/
def ofText (text : String) : Except SettingsRefusal Settings :=
  match (Toml.parse? text).bind ofToml? with
  | some s => s.checked
  | none => .error .malformed

/-! ## Writing -/

/-- A count that has room in 64 bits with a sign. -/
def countLine? (name : String) (n : Nat) : Option Toml.Line :=
  if n < 0x8000000000000000 then some (.field name (.int n)) else none

/-- The lines of the settings of the store. -/
def storageLines? (s : StorageSettings) : Option (List Toml.Line) := do
  let path := s.snapshotPath.map fun path => Toml.Line.field "snapshot_path" (.text path)
  return .table ["storage"] :: path.toList
    ++ [← countLine? "backup_retention" s.backupRetention]

def apiKeyLines (k : ApiKey) : List Toml.Line :=
  [.item ["auth", "api_keys"], .field "name" (.text k.name), .field "key_hash" (.text k.hash),
    .field "roles" (.texts k.roles), .field "capabilities" (.texts k.capabilities),
    .field "is_active" (.bool k.isActive)]

def authLines (s : AuthSettings) : List Toml.Line :=
  [.table ["auth"], .field "jwt_secret" (.text s.secret),
      .field "jwt_expiration_hours" (.int s.tokenHours.toInt)]
    ++ (if s.apiKeys.isEmpty then [.field "api_keys" (.texts [])] else [])
    ++ s.apiKeys.flatMap apiKeyLines

def recordLines? (s : RecordSettings) : Option (List Toml.Line) := do
  return [.table ["observability"], .field "log_level" (.text s.level),
    .field "log_format" (.text s.format), ← countLine? "event_buffer_size" s.capacity,
    .field "metrics_enabled" (.bool s.metrics)]

/-- The lines of a document that describes settings. -/
def lines? (s : Settings) : Option (List Toml.Line) := do
  return (← storageLines? s.storage) ++ authLines s.auth ++ (← recordLines? s.records)

/-- The text of a document that describes settings. -/
def text (s : Settings) : Except SettingsRefusal String :=
  match s.lines? with
  | some lines => .ok (Toml.written lines)
  | none => .error .unwritable

end Settings

end JobControl
