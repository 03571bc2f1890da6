import JobControl.Severity
import JobControl.Text.Blank

/-!
# Settings

How a scheduler is set up: where its store is kept and how many backups, whom it trusts, and
what it records.
-/

namespace JobControl

/-- A key that callers may show, by its hash. -/
structure ApiKey where
  name : String
  hash : String
  roles : List String
  capabilities : List String
  isActive : Bool
  deriving DecidableEq, Repr, Inhabited

/-- Settings of the store. -/
structure StorageSettings where
  snapshotPath : Option String
  backupRetention : Nat
  deriving DecidableEq, Repr, Inhabited

/-- Settings of credentials. -/
structure AuthSettings where
  secret : String
  tokenHours : Int64
  apiKeys : List ApiKey
  deriving DecidableEq, Repr, Inhabited

/-- Settings of records. -/
structure RecordSettings where
  level : String
  format : String
  capacity : Nat
  metrics : Bool
  deriving DecidableEq, Repr, Inhabited

/-- How a scheduler is set up. -/
structure Settings where
  storage : StorageSettings
  auth : AuthSettings
  records : RecordSettings
  deriving DecidableEq, Repr, Inhabited

/-- No snapshot, and two dozen backups. -/
def StorageSettings.default : StorageSettings := ⟨none, 24⟩

/-- No keys, and tokens that are good for a day. -/
def AuthSettings.default : AuthSettings :=
  ⟨"your-secret-key-change-this-in-production", 24, []⟩

/-- A thousand events. -/
def RecordSettings.default : RecordSettings := ⟨"info", "pretty", 1000, true⟩

/-- The settings that stand for everything that is left open. -/
def Settings.default : Settings := ⟨.default, .default, .default⟩

/-! ## Validation -/

/-- A reason to refuse settings. -/
inductive SettingsDefect
  | retentionZero
  | snapshotPathBlank
  | secretShort
  | tokenHoursNotPositive
  | apiKeyNameBlank
  | apiKeyHashBlank (name : String)
  | level (text : String)
  | format (text : String)
  | capacityZero
  deriving DecidableEq, Repr

namespace SettingsDefect

def message : SettingsDefect → String
  | retentionZero => "备份保留数量必须大于0"
  | snapshotPathBlank => "快照路径不能为空字符串"
  | secretShort => "JWT密钥长度不能少于16个字符"
  | tokenHoursNotPositive => "JWT过期时间必须大于0"
  | apiKeyNameBlank => "API密钥名称不能为空"
  | apiKeyHashBlank name => "API密钥 " ++ name ++ " 缺少 key_hash"
  | level text => "配置错误: Invalid log level: " ++ text
  | format text => "不支持的日志格式: " ++ text
  | capacityZero => "事件缓冲区大小必须大于0"

/-- The text of the section in which a defect is. -/
def heading : SettingsDefect → String
  | retentionZero | snapshotPathBlank => "存储配置验证失败"
  | secretShort | tokenHoursNotPositive | apiKeyNameBlank | apiKeyHashBlank _ =>
    "认证配置验证失败"
  | level _ | format _ | capacityZero => "可观测性配置验证失败"

end SettingsDefect

/-- The first defect of the settings of the store. -/
def StorageSettings.defect? (s : StorageSettings) : Option SettingsDefect :=
  if s.backupRetention == 0 then some .retentionZero
  else if s.snapshotPath.any Text.blank then some .snapshotPathBlank
  else none

def ApiKey.defect? (k : ApiKey) : Option SettingsDefect :=
  if Text.blank k.name then some .apiKeyNameBlank
  else if Text.blank k.hash then some (.apiKeyHashBlank k.name)
  else none

/-- The first defect of the settings of credentials. A secret has at least 16 bytes. -/
def AuthSettings.defect? (s : AuthSettings) : Option SettingsDefect :=
  if s.secret.utf8ByteSize < 16 then some .secretShort
  else if s.tokenHours ≤ 0 then some .tokenHoursNotPositive
  else s.apiKeys.findSome? ApiKey.defect?

/-- The first defect of the settings of records. -/
def RecordSettings.defect? (s : RecordSettings) : Option SettingsDefect :=
  if (Severity.ofText? s.level).isNone then some (.level s.level)
  else if s.format != "json" && s.format != "pretty" then some (.format s.format)
  else if s.capacity == 0 then some .capacityZero
  else none

def Settings.defect? (s : Settings) : Option SettingsDefect :=
  s.storage.defect? <|> s.auth.defect? <|> s.records.defect?

end JobControl
