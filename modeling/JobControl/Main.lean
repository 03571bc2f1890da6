import JobControl.CommandLine
import JobControl.Control.Dispatch
import JobControl.Control.Setup
import JobControl.Settings.Loading
import JobControl.Wire.Request
import JobControl.Wire.Response
import Std.Time.DateTime.Timestamp

/-!
# The program

Brings the clock, the files, the variables and fresh random bytes to the scheduler, hands it
one request after the other, and prints its answers.
-/

namespace JobControl.Program

/-- The variables that are settings. -/
def variableNames : List String :=
  ["STORAGE__SNAPSHOT_PATH", "STORAGE__BACKUP_RETENTION", "AUTH__JWT_SECRET",
    "AUTH__JWT_EXPIRATION_HOURS", "AUTH__API_KEYS", "OBSERVABILITY__LOG_LEVEL",
    "OBSERVABILITY__LOG_FORMAT", "OBSERVABILITY__EVENT_BUFFER_SIZE",
    "OBSERVABILITY__METRICS_ENABLED"].map fun name => "SCHEDULER_" ++ name

/-- The variables that are settings, with their texts. -/
def environmentVariables : IO (Table String) := do
  let texts ← variableNames.mapM fun name => return (name, ← IO.getEnv name)
  return texts.foldl (fun vars (name, text) => text.elim vars (vars.insert name)) ∅

/-- The path itself behind the paths that lead to it. -/
def onTheWay (path : String) : List String :=
  let names := Files.names path
  (List.range names.length).map fun n => joined "/" (names.take (n + 1))

def isThere (path : String) : IO Bool := do
  try
    discard (IO.FS.realPath path)
    return true
  catch _ => return false

/-- Adds what is at a path to some files. -/
def addEntry (files : Files) (path : String) : IO Files := do
  if path == "" || !(← isThere path) then return files
  if ← isThere (path ++ "/.") then return files.putDirectory path
  return files.put path (← IO.FS.readFile path)

/-- Adds what is at a path, and on the way to it, to some files. -/
def addFile (files : Files) (path : String) : IO Files :=
  (onTheWay path).foldlM addEntry files

def filesAt (paths : List String) : IO Files :=
  paths.foldlM addFile ∅

/-- Causes below a message; more than one of them are numbered. -/
def listed (causes : List String) : String :=
  let lines :=
    match causes with
    | [] | [_] => causes
    | _ => causes.zipIdx.map fun (cause, i) => toString i ++ ": " ++ cause
  if lines.isEmpty then "" else joined "\n    " ("\n\nCaused by:" :: lines)

def stop {α : Type} (message : String) (causes : List String) : IO α :=
  throw (.userError (message ++ listed causes))

/-- The time in milliseconds of the epoch. -/
def clock : IO Int64 := do
  return Int64.ofInt (← Std.Time.Timestamp.now).toMillisecondsSinceUnixEpoch.val

/-- The settings that a call says where to find. -/
def settings (o : CallOptions) : IO Settings := do
  let paths := o.settings.elim Settings.usualFiles ([·])
  let files ← filesAt (paths ++ paths.filterMap Settings.beside?)
  match Settings.load files o.settings (← environmentVariables) with
  | .ok s =>
    return { s with records.level := o.level.getD s.records.level,
                    records.format := o.format.getD s.records.format }
  | .error e =>
    stop ("加载配置失败: " ++ o.settings.getD "<默认位置>") (e.message :: e.cause?.toList)

/-- The requests that a call says where to find. -/
def requests (o : CallOptions) : IO (List Request) := do
  let text ←
    if o.requests == "-" then (← IO.getStdin).readToEnd
    else
      try IO.FS.readFile o.requests
      catch e => stop ("读取请求文件失败: " ++ o.requests) [toString e]
  match (Json.parse? text).bind decode with
  | some requests => return requests
  | none => stop "解析请求失败，需要JSON数组" []

/-- What a scheduler with these settings runs in, with tokens that differ from run to run. -/
def environment (s : Settings) : IO Environment := do
  let seed := (← IO.getRandomBytes 16).toList.foldl (fun n byte => n * 256 + byte.toNat) 0
  return { s.environment with token := fun n => Text.freshToken (seed + n) }

/-- Answers a request, prints the answer, and keeps the snapshot if one was written. -/
def answer (env : Environment) (w : World) (request : Request) : IO World := do
  let (next, response) := World.dispatch env { w with nowMs := ← clock } request
  if let some path := env.snapshotPath then
    if let some text := next.files.read? path then
      if w.files.read? path != some text then IO.FS.writeFile path text
  IO.println (encode response).indented
  return next

/-- Answers the requests of a call one after the other. -/
def run (o : CallOptions) : IO Unit := do
  let s ← settings o
  let requests ← requests o
  let env ← environment s
  let files ← filesAt env.snapshotPath.toList
  match World.load env.snapshotPath files with
  | .ok store => discard (requests.foldlM (answer env) (World.start (← clock) 0 files store))
  | .error fault => stop "装配调度器状态失败" [fault.message]

/-- Does what a call asks for. -/
def perform : Call → IO Unit
  | .run o => run o
  | .hashKey key => IO.println (hashOfKey key)
  | .generateKey => do
    let key := Base64.standard (← IO.getRandomBytes 32).toList
    IO.println ("key:      " ++ key)
    IO.println ("key_hash: " ++ hashOfKey key)

end JobControl.Program

/-- Does what the words of the call ask for. -/
def main (words : List String) : IO UInt32 := do
  match JobControl.Call.ofWords? words with
  | none =>
    IO.eprintln JobControl.Call.usage
    return 2
  | some call =>
    try
      JobControl.Program.perform call
      return 0
    catch e =>
      IO.eprintln ("Error: " ++ toString e)
      return 1
