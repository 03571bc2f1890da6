import JobControl.Session.Principal

/-!
# Operations and who may do them

The operations of the scheduler, and what each of them asks of its caller. The views are open
to everyone and change nothing; everything else needs a credential.
-/

namespace JobControl

/-- What the scheduler can be asked to do. -/
inductive Operation
  | createJob
  | scheduleCronJob
  | descheduleCronJob
  | replaceCronTemplate
  | populateJobConfig
  | startCronJob
  | getTasksStatus
  | getRoleSummary
  | getJobSummary
  | getJobs
  | killTasks
  | restartShards
  | getQuota
  | setQuota
  | startMaintenance
  | drainHosts
  | maintenanceStatus
  | endMaintenance
  | forceTaskState
  | performBackup
  | listBackups
  | stageRecovery
  | queryRecovery
  | deleteRecoveryTasks
  | commitRecovery
  | unloadRecovery
  | snapshot
  | rewriteConfigs
  | getVersion
  | addInstances
  | acquireLock
  | releaseLock
  deriving DecidableEq, Repr, Inhabited

/-- What an operation asks of its caller. -/
inductive Access
  /-- Nothing. -/
  | everyone
  /-- To act for the role of the job. -/
  | jobOwner
  /-- To act for the role of one of the tasks, or to be root. -/
  | taskOwnersOrRoot
  /-- To hold a capability. -/
  | holder (c : Capability)
  deriving DecidableEq, Repr, Inhabited

namespace Access

/-- The text of an access rule in listings. -/
def text : Access → String
  | everyone => "Public"
  | jobOwner => "JobOwner"
  | taskOwnersOrRoot => "TaskOwnersOrRoot"
  | holder c => "Capability(" ++ c.name ++ ")"

/-- The check of the capability is put on record. -/
def isAudited : Access → Bool
  | taskOwnersOrRoot | holder .root => true
  | _ => false

end Access

namespace Operation

/-- All operations in the order of their numbers. -/
def all : List Operation :=
  [createJob, scheduleCronJob, descheduleCronJob, replaceCronTemplate, populateJobConfig,
    startCronJob, getTasksStatus, getRoleSummary, getJobSummary, getJobs, killTasks,
    restartShards, getQuota, setQuota, startMaintenance, drainHosts, maintenanceStatus,
    endMaintenance, forceTaskState, performBackup, listBackups, stageRecovery, queryRecovery,
    deleteRecoveryTasks, commitRecovery, unloadRecovery, snapshot, rewriteConfigs, getVersion,
    addInstances, acquireLock, releaseLock]

/-- The name of an operation in requests and records. -/
def name : Operation → String
  | createJob => "createJob"
  | scheduleCronJob => "scheduleCronJob"
  | descheduleCronJob => "descheduleCronJob"
  | replaceCronTemplate => "replaceCronTemplate"
  | populateJobConfig => "populateJobConfig"
  | startCronJob => "startCronJob"
  | getTasksStatus => "getTasksStatus"
  | getRoleSummary => "getRoleSummary"
  | getJobSummary => "getJobSummary"
  | getJobs => "getJobs"
  | killTasks => "killTasks"
  | restartShards => "restartShards"
  | getQuota => "getQuota"
  | setQuota => "setQuota"
  | startMaintenance => "startMaintenance"
  | drainHosts => "drainHosts"
  | maintenanceStatus => "maintenanceStatus"
  | endMaintenance => "endMaintenance"
  | forceTaskState => "forceTaskState"
  | performBackup => "performBackup"
  | listBackups => "listBackups"
  | stageRecovery => "stageRecovery"
  | queryRecovery => "queryRecovery"
  | deleteRecoveryTasks => "deleteRecoveryTasks"
  | commitRecovery => "commitRecovery"
  | unloadRecovery => "unloadRecovery"
  | snapshot => "snapshot"
  | rewriteConfigs => "rewriteConfigs"
  | getVersion => "getVersion"
  | addInstances => "addInstances"
  | acquireLock => "acquireLock"
  | releaseLock => "releaseLock"

def ofName? (text : String) : Option Operation :=
  all.find? fun o => o.name == text

def index (o : Operation) : Nat :=
  all.findIdx fun p => p == o

def access : Operation → Access
  | getTasksStatus | getRoleSummary | getJobSummary | getJobs | getQuota | populateJobConfig
  | getVersion => .everyone
  | createJob | scheduleCronJob | descheduleCronJob | replaceCronTemplate | startCronJob
  | addInstances | restartShards | acquireLock | releaseLock => .jobOwner
  | killTasks => .taskOwnersOrRoot
  | setQuota => .holder .provisioner
  | startMaintenance | drainHosts | maintenanceStatus | endMaintenance =>
    .holder .machineMaintainer
  | forceTaskState | performBackup | listBackups | stageRecovery | queryRecovery
  | deleteRecoveryTasks | commitRecovery | unloadRecovery | snapshot | rewriteConfigs =>
    .holder .root

/-- Only the views are open to everyone. -/
def isMutating (o : Operation) : Bool := o.access != .everyone

end Operation

namespace Principal

/-- Checks a principal against an access rule; `roles` are those that the request is about. -/
def check (p : Principal) (roles : Names) : Access → Except Denial Principal
  | .everyone => .ok p
  | .jobOwner => p.inRoles roles
  | .taskOwnersOrRoot => if p.holds .root then .ok p else p.inRoles roles
  | .holder c => p.withCapability c

end Principal

end JobControl
