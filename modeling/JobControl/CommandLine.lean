import JobControl.Collections
import JobControl.Severity

/-!
# The command line

A call asks for one of three things: to answer requests, to show the form in which a key stands
in the settings, or to make up a new key. Options may stand anywhere in a call, each followed
by its value.
-/

namespace JobControl

/-- What the options of a call say. -/
structure CallOptions where
  /-- The path of the settings file. -/
  settings : Option String
  /-- The level that is recorded, in place of that of the settings. -/
  level : Option String
  /-- The format of the records, in place of that of the settings. -/
  format : Option String
  /-- The path of the file with the requests; `-` is the standard input. -/
  requests : String
  deriving DecidableEq, Repr

/-- What a call asks for. -/
inductive Call
  | run (options : CallOptions)
  | hashKey (key : String)
  | generateKey
  deriving DecidableEq, Repr

namespace CallOptions

/-- What a call without options says: the requests are on the standard input. -/
def initial : CallOptions := ⟨none, none, none, "-"⟩

/-- The options after one more of them. -/
def set? (o : CallOptions) (option value : String) : Option CallOptions :=
  match option with
  | "-c" | "--config" => some { o with settings := some value }
  | "-r" | "--requests" => some { o with requests := value }
  | "-l" | "--log-level" =>
    if (Severity.all.map Severity.name).contains value then some { o with level := some value }
    else none
  | "--log-format" =>
    if ["json", "pretty"].contains value then some { o with format := some value } else none
  | _ => none

/-- An option, and not one of the words that say what a call asks for. -/
def isOption (word : String) : Bool :=
  ['-'].isPrefixOf word.toList && word != "-"

/-- The options of a call, and its other words. -/
def split (o : CallOptions) : List String → Option (CallOptions × List String)
  | [] => some (o, [])
  | [word] => if isOption word then none else some (o, [word])
  | word :: value :: rest =>
    if isOption word then (o.set? word value).bind fun o => split o rest
    else (split o (value :: rest)).map fun (o, words) => (o, word :: words)

end CallOptions

/-- What the words of a call ask for. -/
def Call.ofWords? (words : List String) : Option Call :=
  match CallOptions.initial.split words with
  | some (o, ["run"]) => some (.run o)
  | some (_, ["hash-key", key]) => some (.hashKey key)
  | some (_, ["generate-key"]) => some .generateKey
  | _ => none

/-- How calls are made. -/
def Call.usage : String :=
  joined "\n" [
    "Usage: scheduler-admin [OPTIONS] <COMMAND>",
    "",
    "Commands:",
    "  run           按顺序分发请求文件中的请求并输出响应",
    "  hash-key      计算API密钥在配置中的存储形式",
    "  generate-key  生成新的随机API密钥",
    "",
    "Options:",
    "  -c, --config <FILE>        配置文件路径，未指定时查找默认位置",
    "  -r, --requests <FILE>      JSON请求数组文件，\"-\" 表示标准输入",
    "  -l, --log-level <LEVEL>    日志级别，覆盖配置文件",
    "      --log-format <FORMAT>  日志格式，覆盖配置文件"]

end JobControl
