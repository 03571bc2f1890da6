import JobControl.Job.Sanitized
import JobControl.Json.Codec
import JobControl.Lock
import JobControl.Rewrite
import JobControl.Task.Query

/-!
# Jobs and tasks as documents

The forms in which jobs, tasks, locks and queries are written and read, field by field in the
order in which they are written.
-/

namespace JobControl

open Json (required optional withDefault)

instance : Codec JobKey where
  encode k := .obj
    [("role", encode k.role), ("environment", encode k.environment), ("name", encode k.name)]
  read s j := do
    let fields ← j.object?
    return ⟨← required s fields "role", ← required s fields "environment",
      ← required s fields "name"⟩

instance : Codec Identity where
  encode i := .obj [("role", encode i.role), ("user", encode i.user)]
  read s j := do
    let fields ← j.object?
    return ⟨← required s fields "role", ← required s fields "user"⟩

instance : Codec Executor where
  encode e := .obj [("name", encode e.name), ("data", encode e.data)]
  read s j := do
    let fields ← j.object?
    return ⟨← required s fields "name", ← required s fields "data"⟩

instance : Codec Resources where
  encode r := .obj
    [("num_cpus", encode r.numCpus), ("ram_mb", encode r.ramMb), ("disk_mb", encode r.diskMb)]
  read s j := do
    let fields ← j.object?
    return ⟨← required s fields "num_cpus", ← required s fields "ram_mb",
      ← required s fields "disk_mb"⟩

instance : Codec TaskSpec where
  encode t := .obj
    [("owner", encode t.owner), ("environment", encode t.environment),
      ("job_name", encode t.jobName), ("is_service", encode t.isService),
      ("num_cpus", encode t.numCpus), ("ram_mb", encode t.ramMb),
      ("disk_mb", encode t.diskMb), ("priority", encode t.priority),
      ("max_task_failures", encode t.maxTaskFailures), ("production", encode t.production),
      ("contact_email", encode t.contactEmail), ("requested_ports", encode t.requestedPorts),
      ("executor_config", encode t.executor)]
  read s j := do
    let fields ← j.object?
    return {
      owner := ← required s fields "owner"
      environment := ← withDefault "" s fields "environment"
      jobName := ← withDefault "" s fields "job_name"
      isService := ← optional s fields "is_service"
      numCpus := ← required s fields "num_cpus"
      ramMb := ← required s fields "ram_mb"
      diskMb := ← required s fields "disk_mb"
      priority := ← optional s fields "priority"
      maxTaskFailures := ← optional s fields "max_task_failures"
      production := ← optional s fields "production"
      contactEmail := ← optional s fields "contact_email"
      requestedPorts := ← withDefault ∅ s fields "requested_ports"
      executor := ← optional s fields "executor_config" }

instance : Codec Job where
  encode j := .obj
    [("key", encode j.key), ("owner", encode j.owner),
      ("cron_schedule", encode j.cronSchedule), ("task_config", encode j.task),
      ("instance_count", encode j.instanceCount)]
  read s j := do
    let fields ← j.object?
    return {
      key := ← required s fields "key"
      owner := ← required s fields "owner"
      cronSchedule := ← optional s fields "cron_schedule"
      task := ← required s fields "task_config"
      instanceCount := ← required s fields "instance_count" }

instance : Codec Status where
  encode s := .str s.name
  read := Json.named? Status.all Status.name

instance : Codec StatusChange where
  encode c := .obj
    [("timestamp_ms", encode c.timestampMs), ("status", encode c.status),
      ("message", encode c.message), ("scheduler", encode c.scheduler)]
  read s j := do
    let fields ← j.object?
    return {
      timestampMs := ← required s fields "timestamp_ms"
      status := ← required s fields "status"
      message := ← optional s fields "message"
      scheduler := ← optional s fields "scheduler" }

/-- The part of a task that says what runs where. -/
def Task.encodeAssignment (t : Task) : Json :=
  .obj
    [("task_id", encode t.id), ("slave_id", encode t.agentId), ("slave_host", encode t.host),
      ("task", encode t.spec), ("assigned_ports", encode t.ports),
      ("instance_id", encode t.instanceId)]

instance : Codec Task where
  encode t := .obj
    [("assigned_task", t.encodeAssignment), ("status", encode t.status),
      ("failure_count", encode t.failures), ("task_events", encode t.history),
      ("ancestor_id", encode t.ancestor)]
  read s j := do
    let fields ← j.object?
    let assigned : Json ← required s fields "assigned_task"
    let assignment ← assigned.object?
    return {
      id := ← required s assignment "task_id"
      agentId := ← optional s assignment "slave_id"
      host := ← optional s assignment "slave_host"
      spec := ← required s assignment "task"
      ports := ← withDefault ∅ s assignment "assigned_ports"
      instanceId := ← required s assignment "instance_id"
      status := ← required s fields "status"
      failures := ← withDefault 0 s fields "failure_count"
      history := ← withDefault [] s fields "task_events"
      ancestor := ← optional s fields "ancestor_id" }

/-- A query with everything left open is an empty object. -/
instance : Codec TaskQuery where
  encode q := .obj
    [("role", encode q.role), ("environment", encode q.environment),
      ("job_name", encode q.jobName), ("task_ids", encode q.taskIds),
      ("statuses", encode q.statuses), ("instance_ids", encode q.instanceIds),
      ("slave_host", encode q.host)]
  read s j := do
    let fields ← j.object?
    return {
      role := ← optional s fields "role"
      environment := ← optional s fields "environment"
      jobName := ← optional s fields "job_name"
      taskIds := ← withDefault ∅ s fields "task_ids"
      statuses := ← withDefault ∅ s fields "statuses"
      instanceIds := ← withDefault ∅ s fields "instance_ids"
      host := ← optional s fields "slave_host" }

/-! ## Locks -/

/-- What a lock is for. Only jobs can be locked. -/
def encodeLockSubject (k : JobKey) : Json :=
  .obj [("type", .str "job"), ("key", encode k)]

/-- The job that a lock is for. Where it stands in front of the type that says that it is a job,
it has to be kept until then, so nothing in it may be garbled. -/
def readLockSubject (s : Json.Spelling) (j : Json) : Option JobKey := do
  let fields ← j.object?
  let type : Json ← required s fields "type"
  let _ ← Json.named? [()] (fun _ => "job") s type
  match fields.find? fun field => field.1 == "type" || field.1 == "key" with
  | some ("key", key) => if key.isClear then required s fields "key" else none
  | _ => required s fields "key"

instance : Codec Lock where
  encode l := .obj
    [("key", encodeLockSubject l.key), ("token", encode l.token), ("user", encode l.user),
      ("timestamp_ms", encode l.timestampMs), ("message", encode l.message)]
  read s j := do
    let fields ← j.object?
    return {
      key := ← readLockSubject s (← required s fields "key")
      token := ← required s fields "token"
      user := ← required s fields "user"
      timestampMs := ← required s fields "timestamp_ms"
      message := ← optional s fields "message" }

instance : Codec ReleaseMode where
  encode
    | .checked => .str "CHECKED"
    | .unchecked => .str "UNCHECKED"
  read := Json.named? [.checked, .unchecked] fun
    | .checked => "CHECKED"
    | .unchecked => "UNCHECKED"

/-! ## Rewrites -/

instance : Codec InstanceKey where
  encode k := .obj [("job_key", encode k.job), ("instance_id", encode k.instanceId)]
  read s j := do
    let fields ← j.object?
    return ⟨← required s fields "job_key", ← required s fields "instance_id"⟩

def Rewrite.types : List String := ["job_rewrite", "instance_rewrite"]

/-- The type of a rewrite, or its place among the types. -/
def Rewrite.type? (s : Json.Spelling) : Json → Option String
  | .str type => if types.contains type then some type else none
  | .int n => if s == .wide && 0 ≤ n then types[n.toNat]? else none
  | _ => none

instance : Codec Rewrite where
  encode
    | .job old new => .obj
      [("type", .str "job_rewrite"), ("old_job", encode old), ("rewritten_job", encode new)]
    | .task key old new => .obj
      [("type", .str "instance_rewrite"), ("instance_key", encode key),
        ("old_task", encode old), ("rewritten_task", encode new)]
  read s j := do
    let fields ← j.object?
    match ← Rewrite.type? s (← required s fields "type") with
    | "job_rewrite" =>
      return .job (← required s fields "old_job") (← required s fields "rewritten_job")
    | _ =>
      return .task (← required s fields "instance_key") (← required s fields "old_task")
        (← required s fields "rewritten_task")

end JobControl
