import JobControl.Cron.Refusal
import JobControl.Job.Defect
import JobControl.Store.Protection
import JobControl.Store.Quota

/-!
# Faults

Why the scheduler does not do what it was asked to do. A fault is a cause; its kind and its
text follow from it.
-/

namespace JobControl

/-- What a fault concerns. -/
inductive FaultKind
  | authFailed
  | lock
  | taskDescription
  | schedule
  | quota
  | cron
  | recovery
  | storage
  | configuration
  | serialization
  | internal
  deriving DecidableEq, Repr, Inhabited

namespace FaultKind

def all : List FaultKind :=
  [authFailed, lock, taskDescription, schedule, quota, cron, recovery, storage, configuration,
    serialization, internal]

def label : FaultKind → String
  | authFailed => "AuthFailed"
  | lock => "Lock"
  | taskDescription => "TaskDescription"
  | schedule => "Schedule"
  | quota => "Quota"
  | cron => "Cron"
  | recovery => "Recovery"
  | storage => "Storage"
  | configuration => "Configuration"
  | serialization => "Serialization"
  | internal => "Internal"

/-- What stands in front of every message of a kind. -/
def heading : FaultKind → String
  | configuration => "配置错误: "
  | serialization => "序列化错误: "
  | internal => "内部错误: "
  | _ => ""

/-- The kind of a fault that is reported under a heading of its own. -/
def headed : FaultKind → FaultKind
  | configuration | serialization | internal => internal
  | kind => kind

/-- The request is at fault, not the scheduler. -/
def isInvalidRequest : FaultKind → Bool
  | taskDescription | schedule | quota | cron => true
  | _ => false

/-- The scheduler itself is at fault. -/
def isFatal : FaultKind → Bool
  | internal | configuration => true
  | _ => false

end FaultKind

/-- A reason not to start or restart tasks. -/
inductive LaunchRefusal
  | hasSchedule (key : JobKey)
  | noSchedule (key : JobKey)
  | jobExists (key : JobKey)
  | instancesActive (key : JobKey) (ids : List Int32)
  | noShards
  | shardsMissing (ids : List Int32)
  deriving Repr, DecidableEq

def instanceList (ids : List Int32) : String :=
  joined ", " (ids.map toString)

def LaunchRefusal.message : LaunchRefusal → String
  | hasSchedule key =>
    "Job " ++ key.canonical ++ " has a cron schedule, use scheduleCronJob instead"
  | noSchedule key => "Job " ++ key.canonical ++ " has no cron schedule"
  | jobExists key => "Job already exists: " ++ key.canonical
  | instancesActive key ids =>
    "Instances \x7b" ++ instanceList ids ++ "\x7d of job " ++ key.canonical
      ++ " are already active"
  | noShards => "At least one shard must be specified"
  | shardsMissing ids => "Not all requested shards are active: [" ++ instanceList ids ++ "]"

/-- A reason not to recover from a backup. -/
inductive RecoveryRefusal
  | unknownBackup (id : String)
  | nothingStaged
  deriving Repr, DecidableEq

def RecoveryRefusal.message : RecoveryRefusal → String
  | unknownBackup id => "Unknown backup: " ++ id
  | nothingStaged => "No backup is staged for recovery."

/-- What is wrong with a snapshot file. -/
inductive SnapshotFault
  | unreadable (path : String)
  | unwritable (path : String) (reason : String)
  deriving Repr, DecidableEq

/-- The text of a fault. What the reader of documents has to say about a file that is none would
stand behind a colon at the end; it is left out. -/
def SnapshotFault.message : SnapshotFault → String
  | unreadable path => "Failed to parse snapshot " ++ path
  | unwritable path reason => "Failed to write snapshot " ++ path ++ ": " ++ reason

/-- Why something was not done. -/
inductive Fault
  | description (defect : Defect)
  | lock (conflict : LockConflict)
  | launch (refusal : LaunchRefusal)
  | quota (refusal : QuotaRefusal)
  | cron (refusal : CronRefusal)
  | recovery (refusal : RecoveryRefusal)
  | snapshot (fault : SnapshotFault)
  /-- Tasks of other roles than those that were authorized. -/
  | foreignTasks (principal : String) (roles : List String)
  | jobReplacement (defect : Defect)
  | taskReplacement (defect : Defect)
  | severity (text : String)
  /-- A fault that is known by its text only. -/
  | stated (kind : FaultKind) (text : String)
  /-- A fault that is reported under a heading of its own. -/
  | under (heading : String) (fault : Fault)
  deriving Repr

namespace Fault

def kind : Fault → FaultKind
  | description _ => .taskDescription
  | lock _ => .lock
  | launch _ => .schedule
  | quota _ => .quota
  | cron _ => .cron
  | recovery _ => .recovery
  | snapshot _ => .storage
  | foreignTasks _ _ => .authFailed
  | jobReplacement _ | taskReplacement _ => .internal
  | severity _ => .configuration
  | stated kind _ => kind
  | under _ fault => fault.kind.headed

/-- The message of a fault: what stands in front of every message of its kind, and its text. -/
def message : Fault → String
  | description defect => defect.message
  | lock conflict => conflict.message
  | launch refusal => refusal.message
  | quota refusal => refusal.message
  | cron refusal => refusal.message
  | recovery refusal => refusal.message
  | snapshot fault => fault.message
  | foreignTasks principal roles =>
    principal ++ " is not authorized for roles: " ++ joined ", " roles
  | jobReplacement defect =>
    FaultKind.internal.heading ++ "Invalid job configuration: " ++ defect.message
  | taskReplacement defect =>
    FaultKind.internal.heading ++ "Invalid task configuration: " ++ defect.message
  | severity text => FaultKind.configuration.heading ++ "Invalid log level: " ++ text
  | stated kind text => kind.heading ++ text
  | under heading fault => fault.kind.headed.heading ++ heading ++ fault.message

end Fault

end JobControl
