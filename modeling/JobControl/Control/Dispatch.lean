import JobControl.Control.CronJobs
import JobControl.Control.Locking
import JobControl.Control.Moves
import JobControl.Control.Rewriting
import JobControl.Control.Views

/-!
# Dispatch

A command goes through three steps: its caller is recognised from the credential, the caller is
checked against the access rule of the operation, and then the command is carried out. Nothing
but the event log changes when any of them fails. Views are answered at once. In the end what
happened is recorded.
-/

namespace JobControl

namespace Command

/-- What is refused before anyone asks who the caller is: to kill the tasks of a job without
a name. -/
def precheck : Command → Except Refusal Unit
  | killTasks q _ =>
    match q.jobName with
    | some name => if Text.blank name then .error (.malformed (.jobName name)) else .ok ()
    | none => .ok ()
  | _ => .ok ()

/-- To find out whose tasks are to be killed the store is looked at before the caller is
authorized, so that others may change it in between. -/
def looksFirst : Command → Bool
  | killTasks _ _ => true
  | _ => false

/-- The roles that a command is about. To find the owners of the tasks to be killed the store
has to be looked at; all other commands name their role. -/
def targetRoles (seen : Store) : Command → Names
  | createJob job _ | scheduleCronJob job _ | replaceCronTemplate job _ => setOf [job.owner.role]
  | descheduleCronJob key _ | startCronJob key | restartShards key _ _ | acquireLock key =>
    setOf [key.role]
  | addInstances addition _ => setOf [addition.key.role]
  | releaseLock lock _ => setOf [lock.key.role]
  | killTasks q _ => seen.ownersOf q
  | _ => ∅

end Command

/-- The store is looked at before the caller of the request is authorized. -/
def Request.looksFirst : Request → Bool
  | .command c (some _) => c.looksFirst && c.precheck.isOk
  | _ => false

namespace World

def hostResponse (modes : HostModes) (hosts : Names) : Response :=
  .found (.hosts (modes.report hosts))

/-- Carries out a command of a principal that was authorized for some roles. -/
def perform (env : Environment) (w : World) (p : Principal) (roles : Names) :
    Command → Except Refusal (World × Response)
  | .createJob job lock => w.createJob env job lock
  | .addInstances addition lock => w.addInstances env addition lock
  | .scheduleCronJob job lock => w.scheduleCronJob job lock
  | .descheduleCronJob key lock => w.descheduleCronJob key lock
  | .replaceCronTemplate job lock => w.replaceCronTemplate job lock
  | .startCronJob key => w.startCronJob env key
  | .killTasks q lock => w.killTasks p roles q lock
  | .restartShards key shards lock => w.restartShards p key shards lock
  | .forceTaskState id status => .ok (w.forceTaskState p id status)
  | .acquireLock key => w.acquireLock env p key
  | .releaseLock lock mode => w.releaseLock env lock mode
  | .rewriteConfigs commands => w.rewriteConfigs env commands
  | .setQuota role quota => do
    let store ← checked .quota (w.live.allot role quota)
    return (w.commit store, .done "Quota applied." [])
  | .startMaintenance hosts =>
    let modes := w.hosts.assign hosts fun _ => .scheduled
    .ok ({ w with hosts := modes }, hostResponse modes hosts)
  | .drainHosts hosts =>
    let modes := w.hosts.assign hosts w.live.drainMode
    .ok ({ w with hosts := modes }, hostResponse modes hosts)
  | .maintenanceStatus hosts => .ok (w, hostResponse w.hosts hosts)
  | .endMaintenance hosts =>
    let modes := w.hosts.release hosts
    .ok ({ w with hosts := modes }, hostResponse modes hosts)
  | .performBackup =>
    let (vault, id) := w.vault.backup env.retention w.nowMs w.committed
    .ok ({ w with vault := vault }, .done ("Backup " ++ id ++ " created.") [])
  | .listBackups => .ok (w, .found (.backups w.vault.ids))
  | .stageRecovery id => do
    let vault ← checked .recovery (w.vault.stage id)
    return ({ w with vault := vault }, .done ("Backup " ++ id ++ " staged.") [])
  | .queryRecovery q => do
    let tasks ← checked .recovery (w.vault.query q)
    return (w, .found (.stagedTasks tasks))
  | .deleteRecoveryTasks q => do
    let vault ← checked .recovery (w.vault.deleteTasks q)
    return ({ w with vault := vault }, .done "Tasks deleted from staged recovery." [])
  | .commitRecovery => do
    let (vault, store) ← checked .recovery w.vault.take
    return ({ w.commit store with vault := vault }, .done "Recovery committed." [])
  | .unloadRecovery =>
    .ok ({ w with vault := w.vault.unload }, .done "Recovery unloaded." [])
  | .snapshot => do
    let w ← checked id (w.writeSnapshot env)
    return (w, .done "Compaction successful." [])

/-- The principal that a credential belongs to, if it may carry out a command. `seen` is the
store at the time at which this is decided. -/
def authorize (env : Environment) (nowMs : Int64) (seen : Store) (c : Command)
    (credential : Option Credential) : Except Denial Principal := do
  match credential with
  | none => throw .missingCredentials
  | some credential =>
    let p ← env.recognise nowMs credential
    p.check (c.targetRoles seen) c.operation.access

/-- Answers a view, or authorizes a command and carries it out. -/
def attempt (env : Environment) (seen : Store) (w : World) :
    Request → Except Refusal (World × Response)
  | .view v => (w.answer v).map fun response => (w, response)
  | .command c credential =>
    if credential.isNone then .error (.denied .missingCredentials)
    else do
      c.precheck
      match authorize env w.nowMs seen c credential with
      | .error denial => throw (.denied denial)
      | .ok p => w.perform env p (c.targetRoles seen) c

/-! ## Records -/

/-- The event that a success is recorded as: only commands that were carried out are. -/
def successEvent (nowMs : Int64) (operation : Operation) (r : Response) : Option Event :=
  if operation.isMutating && r.code == .ok then
    let e := Event.of .mutationApplied nowMs operation.name (r.message.getD "")
    some (if r.warnings.isEmpty then e else e.withData "warnings" (.int r.warnings.length))
  else none

def refusalKind (r : Refusal) : EventKind :=
  match r.code, r with
  | .authFailed, _ => .authFailed
  | .lockError, _ => .lockConflict
  | .error, _ => .backendFailure
  | _, .fault f => if f.kind == .quota then .quotaRejected else .invalidRequest
  | _, _ => .invalidRequest

/-- The event that a refusal is recorded as. -/
def refusalEvent (nowMs : Int64) (operation : Operation) (r : Refusal) : Event :=
  (Event.of (refusalKind r) nowMs operation.name r.message).withData "response_code"
    (.str r.code.label)

/-- Answers a request that was authorized on the sight of a store, and records what happened. -/
def dispatchSeeing (env : Environment) (seen : Store) (w : World) (request : Request) :
    World × Response :=
  match w.attempt env seen request with
  | .ok (w, r) =>
    match successEvent w.nowMs request.operation r with
    | some e => (w.record env e, r)
    | none => (w, r)
  | .error refusal =>
    (w.record env (refusalEvent w.nowMs request.operation refusal), refusal.response)

/-- Answers a request. -/
def dispatch (env : Environment) (w : World) (request : Request) : World × Response :=
  w.dispatchSeeing env w.live request

end World

end JobControl
