import JobControl.Response
import JobControl.Wire.Entities

/-!
# Responses as documents

A response leaves out its message, its result and its warnings when there are none. A result
is written with its type.
-/

namespace JobControl

open Json (required optional withDefault)

instance : Codec QuotaInfo where
  encode i := .obj
    [("quota", encode i.quota), ("prod_consumption", encode i.production),
      ("non_prod_consumption", encode i.nonProduction)]
  read s j := do
    let fields ← j.object?
    return ⟨← required s fields "quota", ← required s fields "prod_consumption",
      ← required s fields "non_prod_consumption"⟩

instance : Codec JobStats where
  encode s := .obj
    [("active_task_count", encode s.active), ("pending_task_count", encode s.pending),
      ("finished_task_count", encode s.finished), ("failed_task_count", encode s.failed)]
  read s j := do
    let fields ← j.object?
    return ⟨← required s fields "active_task_count", ← required s fields "pending_task_count",
      ← required s fields "finished_task_count", ← required s fields "failed_task_count"⟩

instance : Codec JobSummary where
  encode s := .obj
    [("job", encode s.job), ("stats", encode s.stats), ("next_cron_run_ms", encode s.nextRunMs)]
  read s j := do
    let fields ← j.object?
    return ⟨← required s fields "job", ← required s fields "stats",
      ← optional s fields "next_cron_run_ms"⟩

instance : Codec RoleSummary where
  encode s := .obj
    [("role", encode s.role), ("job_count", encode s.jobs), ("cron_job_count", encode s.cronJobs)]
  read s j := do
    let fields ← j.object?
    return ⟨← required s fields "role", ← required s fields "job_count",
      ← required s fields "cron_job_count"⟩

instance : Codec HostMode where
  encode m := .str m.name
  read := Json.named? HostMode.all HostMode.name

instance : Codec ResponseCode where
  encode c := .str c.name
  read := Json.named? ResponseCode.all ResponseCode.name

def Result.types : List String :=
  ["populate_job", "schedule_status", "role_summary", "job_summary", "jobs", "quota",
    "host_statuses", "backups", "query_recovery", "version", "lock"]

def encodeTyped {α : Type} [Codec α] (type : String) (value : α) : Json :=
  .obj [("type", .str type), ("value", encode value)]

instance : Codec Result where
  encode
    | .populated tasks => encodeTyped "populate_job" tasks
    | .tasks tasks => encodeTyped "schedule_status" tasks
    | .roles summaries => encodeTyped "role_summary" summaries
    | .jobSummaries summaries => encodeTyped "job_summary" summaries
    | .jobs jobs => encodeTyped "jobs" jobs
    | .quota info => encodeTyped "quota" info
    | .hosts modes => encodeTyped "host_statuses" modes
    | .backups ids => encodeTyped "backups" ids
    | .stagedTasks tasks => encodeTyped "query_recovery" tasks
    | .version major => encodeTyped "version" (Json.obj [("major", encode major)])
    | .lock lock => encodeTyped "lock" lock
  read s j := do
    let fields ← j.object?
    let type : Json ← required s fields "type"
    match ← Json.named? Result.types id s type with
    | "populate_job" => return .populated (← required s fields "value")
    | "schedule_status" => return .tasks (← required s fields "value")
    | "role_summary" => return .roles (← required s fields "value")
    | "job_summary" => return .jobSummaries (← required s fields "value")
    | "jobs" => return .jobs (← required s fields "value")
    | "quota" => return .quota (← required s fields "value")
    | "host_statuses" => return .hosts (← required s fields "value")
    | "backups" => return .backups (← required s fields "value")
    | "query_recovery" => return .stagedTasks (← required s fields "value")
    | "version" =>
      let version : Json ← required s fields "value"
      return .version (← required s (← version.object?) "major")
    | _ => return .lock (← required s fields "value")

instance : Codec Response where
  encode r := .obj <|
    [("response_code", encode r.code)]
      ++ (r.message.map fun m => ("message", encode m)).toList
      ++ (r.result.map fun v => ("result", encode v)).toList
      ++ if r.warnings.isEmpty then [] else [("warnings", encode r.warnings)]
  read s j := do
    let fields ← j.object?
    return {
      code := ← required s fields "response_code"
      message := ← optional s fields "message"
      result := ← optional s fields "result"
      warnings := ← withDefault [] s fields "warnings" }

end JobControl
