import JobControl.Control.World
import JobControl.Cron.Templates
import JobControl.Request

/-!
# Launching tasks

Jobs are created and get further instances. A launch changes nothing unless the job is well
described, its lock is presented if it has one, none of the instances is active already, and
production stays within the allotment of the role.
-/

namespace JobControl

/-- A step whose failures are faults. -/
def checked {ε α : Type} (cause : ε → Fault) (step : Except ε α) : Except Refusal α :=
  match step with
  | .ok a => .ok a
  | .error e => .error (.fault (cause e))

def checkKey (key : JobKey) : Except Refusal Unit :=
  if key.isValid then .ok () else .error (.fault (.description (.invalidKey key)))

namespace Store

/-- A task of the job is active, or a template of it is filed. -/
def hasJob (s : Store) (key : JobKey) : Bool :=
  !(s.findTasks (TaskQuery.ofJob key).active).isEmpty
    || s.managers.any fun manager => (s.job? manager key).isSome

/-- Those of some instances of a job that are active. -/
def activeInstances (s : Store) (key : JobKey) (ids : Std.ExtTreeSet Int32) :
    Std.ExtTreeSet Int32 :=
  setOf ((s.findTasks ((TaskQuery.ofJob key).instances ids).active).map Task.instanceId)

/-- Production stays within the allotment of the role if these tasks are launched. -/
def admitLaunch (s : Store) (role : String) (specs : List (Int32 × TaskSpec)) :
    Except QuotaRefusal Unit := do
  let demand ← productionDemand role (specs.map Prod.snd)
  s.admission role demand

end Store

namespace World

/-- Creates a job: launches all its instances, if there is no such job yet. -/
def createJob (env : Environment) (w : World) (job : Job) (lock : Option Lock) :
    Except Refusal (World × Response) := do
  let sanitized ← checked .description (Sanitized.ofJob job)
  let key := sanitized.job.key
  if sanitized.isCron then throw (.fault (.launch (.hasSchedule key)))
  checked .lock (w.live.checkLock key lock)
  if w.live.hasJob key then throw (.fault (.launch (.jobExists key)))
  let specs := sanitized.tasks
  checked .quota (w.live.admitLaunch key.role specs)
  return (w.launch env w.stamp specs,
    .done (toString specs.length ++ " new tasks pending for job " ++ key.canonical)
      sanitized.warnings)

def addInstances (env : Environment) (w : World) (addition : Addition) (lock : Option Lock) :
    Except Refusal (World × Response) := do
  let key := addition.key
  checkKey key
  if addition.instanceIds.isEmpty then throw (.malformed .noInstanceIds)
  let task ← checked .description addition.task.sanitize
  if task.jobKey != key then throw (.fault (.description (.otherJob task.jobKey key)))
  if w.live.hasCronJob key then throw (.malformed .cronJob)
  checked .lock (w.live.checkLock key lock)
  let active := w.live.activeInstances key addition.instanceIds
  if !active.isEmpty then throw (.fault (.launch (.instancesActive key active.toList)))
  let specs := addition.instanceIds.toList.map fun id => (id, task)
  checked .quota (w.live.admitLaunch key.role specs)
  return (w.launch env w.stamp specs, .done "Successfully added instances." [])

end World

end JobControl
