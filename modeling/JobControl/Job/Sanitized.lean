import JobControl.Job.Defect
import JobControl.Text.Blank

/-!
# Sanitized jobs

A job that is accepted has a valid key, an owner of the key's role, at least one instance and a
task that can run. Sanitizing checks this, lets the job's key and owner stand for those of its
task, and fills what was left open. It depends on nothing but the job, and a sanitized job is
left as it is by sanitizing it again.
-/

namespace JobControl

/-- How a job is started: by a request, by its schedule, or by a request although it has a
schedule that is empty, which older requests do. -/
inductive CronUse
  | notCron
  | cron
  | emptySchedule
  deriving DecidableEq, Repr, Inhabited

/-- How a job with this schedule is started. -/
def CronUse.ofSchedule : Option String → CronUse
  | none => notCron
  | some schedule => if schedule == "" then emptySchedule else cron

/-- What the author of an empty schedule is told. -/
def emptyScheduleWarning : String :=
  "Empty cron schedule is treated as no cron schedule. "
    ++ "This is deprecated and will be rejected in a future release."

namespace TaskSpec

/-- The task with everything filled that was left open. -/
def populated (t : TaskSpec) : TaskSpec :=
  { t with
    priority := some (t.priority.getD 0)
    maxTaskFailures := some (t.maxTaskFailures.getD 1)
    isService := some (t.isService.getD false)
    production := some (t.production.getD false) }

/-- The limit is minus one, for no limit, or positive. -/
def isFailureLimit (n : Int32) : Bool :=
  n == -1 || n > 0

def defect? (t : TaskSpec) : Option Defect :=
  if Text.blank t.owner.role || Text.blank t.owner.user then some .taskOwnerUnset
  else if !isIdentifier t.environment then some (.environment t.environment)
  else if !isIdentifier t.jobName then some (.jobName t.jobName)
  else if t.numCpus.isNaN || t.numCpus ≤ 0 then some (.numCpus t.numCpus)
  else if t.ramMb ≤ 0 then some (.ramMb t.ramMb)
  else if t.diskMb ≤ 0 then some (.diskMb t.diskMb)
  else match t.maxTaskFailures.filter (!isFailureLimit ·), t.executor with
    | some limit, _ => some (.maxTaskFailures limit)
    | none, none => some .executorUnset
    | none, some executor =>
      if Text.blank executor.name then some .executorNameUnset
      else (t.requestedPorts.toList.find? (!isIdentifier ·)).map .portName

/-- The populated task, if it has no defect. -/
def sanitize (t : TaskSpec) : Except Defect TaskSpec :=
  match t.defect? with
  | some defect => .error defect
  | none => .ok t.populated

end TaskSpec

namespace Job

/-- The first defect of a job, its task aside. -/
def defect? (j : Job) : Option Defect :=
  if !j.key.isValid then some (.invalidKey j.key)
  else if Text.blank j.owner.role then some .ownerRoleUnset
  else if Text.blank j.owner.user then some .ownerUserUnset
  else if j.owner.role != j.key.role then some (.foreignOwner j.key j.owner.role)
  else if j.instanceCount ≤ 0 then some (.noInstances j.instanceCount)
  else none

/-- The task of a job, under the job's own name and owner. -/
def ownTask (j : Job) : TaskSpec :=
  { j.task with owner := j.owner, environment := j.key.environment, jobName := j.key.name }

/-- The job with its populated task, if neither has a defect. -/
def sanitize (j : Job) : Except Defect Job :=
  match j.defect? with
  | some defect => .error defect
  | none => j.ownTask.sanitize.map fun task => { j with task := task }

end Job

/-- The numbers of the first instances. -/
def instanceIds (count : Int32) : List Int32 :=
  (List.range count.toInt.toNat).map Int32.ofNat

/-- A job that has been accepted, and what its author is told. -/
structure Sanitized where
  job : Job
  cron : CronUse
  warnings : List String
  deriving BEq, Repr

namespace Sanitized

def ofJob (j : Job) : Except Defect Sanitized :=
  j.sanitize.map fun job =>
    let start := CronUse.ofSchedule job.cronSchedule
    ⟨job, start, if start == .emptySchedule then [emptyScheduleWarning] else []⟩

/-- What each instance runs: all the same. -/
def tasks (s : Sanitized) : List (Int32 × TaskSpec) :=
  (instanceIds s.job.instanceCount).map fun id => (id, s.job.task)

def isCron (s : Sanitized) : Bool := s.cron == .cron

/-- The schedule of a job that is started by one. -/
def schedule? (s : Sanitized) : Option String :=
  if s.isCron then s.job.cronSchedule else none

end Sanitized

end JobControl
