import JobControl.Lock
import JobControl.Operation
import JobControl.Rewrite
import JobControl.Task.Query

/-!
# Requests

A request either asks for a view, which is open to everyone, or gives a command, for which the
caller has to show a credential.
-/

namespace JobControl

/-- Instances to be added to a job. -/
structure Addition where
  key : JobKey
  task : TaskSpec
  instanceIds : Std.ExtTreeSet Int32
  deriving BEq, Repr

/-- What everyone may ask. -/
inductive View
  | populateJobConfig (job : Job)
  | getTasksStatus (query : TaskQuery)
  | getRoleSummary
  | getJobSummary (role : Option String)
  | getJobs (role : Option String)
  | getQuota (role : String)
  | getVersion
  deriving BEq, Repr

/-- What only some may do. -/
inductive Command
  | createJob (job : Job) (lock : Option Lock)
  | scheduleCronJob (job : Job) (lock : Option Lock)
  | descheduleCronJob (key : JobKey) (lock : Option Lock)
  | replaceCronTemplate (job : Job) (lock : Option Lock)
  | startCronJob (key : JobKey)
  | killTasks (query : TaskQuery) (lock : Option Lock)
  | restartShards (key : JobKey) (shards : Std.ExtTreeSet Int32) (lock : Option Lock)
  | setQuota (role : String) (quota : Resources)
  | startMaintenance (hosts : Names)
  | drainHosts (hosts : Names)
  | maintenanceStatus (hosts : Names)
  | endMaintenance (hosts : Names)
  | forceTaskState (taskId : String) (status : Status)
  | performBackup
  | listBackups
  | stageRecovery (backupId : String)
  | queryRecovery (query : TaskQuery)
  | deleteRecoveryTasks (query : TaskQuery)
  | commitRecovery
  | unloadRecovery
  | snapshot
  | rewriteConfigs (commands : List Rewrite)
  | addInstances (addition : Addition) (lock : Option Lock)
  | acquireLock (key : JobKey)
  | releaseLock (lock : Lock) (mode : ReleaseMode)
  deriving BEq, Repr

/-- A request to the scheduler. -/
inductive Request
  | view (view : View)
  | command (command : Command) (credential : Option Credential)
  deriving BEq, Repr

namespace View

def operation : View → Operation
  | populateJobConfig _ => .populateJobConfig
  | getTasksStatus _ => .getTasksStatus
  | getRoleSummary => .getRoleSummary
  | getJobSummary _ => .getJobSummary
  | getJobs _ => .getJobs
  | getQuota _ => .getQuota
  | getVersion => .getVersion

end View

namespace Command

def operation : Command → Operation
  | createJob _ _ => .createJob
  | scheduleCronJob _ _ => .scheduleCronJob
  | descheduleCronJob _ _ => .descheduleCronJob
  | replaceCronTemplate _ _ => .replaceCronTemplate
  | startCronJob _ => .startCronJob
  | killTasks _ _ => .killTasks
  | restartShards _ _ _ => .restartShards
  | setQuota _ _ => .setQuota
  | startMaintenance _ => .startMaintenance
  | drainHosts _ => .drainHosts
  | maintenanceStatus _ => .maintenanceStatus
  | endMaintenance _ => .endMaintenance
  | forceTaskState _ _ => .forceTaskState
  | performBackup => .performBackup
  | listBackups => .listBackups
  | stageRecovery _ => .stageRecovery
  | queryRecovery _ => .queryRecovery
  | deleteRecoveryTasks _ => .deleteRecoveryTasks
  | commitRecovery => .commitRecovery
  | unloadRecovery => .unloadRecovery
  | snapshot => .snapshot
  | rewriteConfigs _ => .rewriteConfigs
  | addInstances _ _ => .addInstances
  | acquireLock _ => .acquireLock
  | releaseLock _ _ => .releaseLock

end Command

namespace Request

def operation : Request → Operation
  | view v => v.operation
  | command c _ => c.operation

end Request

end JobControl
