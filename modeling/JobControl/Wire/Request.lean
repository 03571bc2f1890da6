import JobControl.Request
import JobControl.Wire.Entities

/-!
# Requests as documents

A request is an object that names its operation beside its other fields, in which names may be
spelled more freely than elsewhere. The credential of a command may be left out, so that its
absence is answered and not refused.
-/

namespace JobControl

open Json (required optional withDefault)

instance : Codec Credential where
  encode
    | .apiKey key => .obj [("kind", .str "api_key"), ("value", .str key)]
    | .bearer token => .obj [("kind", .str "bearer"), ("value", .str token)]
  read s j := do
    let fields ← j.object?
    let kind : Json ← required s fields "kind"
    match ← Json.named? ["api_key", "bearer"] id s kind with
    | "api_key" => return .apiKey (← required s fields "value")
    | _ => return .bearer (← required s fields "value")

instance : Codec Capability where
  encode c := .str c.name
  read := Json.named? Capability.all Capability.name

instance : Codec Operation where
  encode o := .str o.name
  read := Json.named? Operation.all Operation.name

instance : Codec Addition where
  encode a := .obj
    [("key", encode a.key), ("task_config", encode a.task),
      ("instance_ids", encode a.instanceIds)]
  read s j := do
    let fields ← j.object?
    return ⟨← required s fields "key", ← required s fields "task_config",
      ← required s fields "instance_ids"⟩

def View.fields : View → List (String × Json)
  | populateJobConfig job => [("job", encode job)]
  | getTasksStatus query => [("query", encode query)]
  | getRoleSummary | getVersion => []
  | getJobSummary role | getJobs role => [("role", encode role)]
  | getQuota role => [("role", encode role)]

/-- The fields of a command, its credential aside. -/
def Command.fields : Command → List (String × Json)
  | createJob job lock | scheduleCronJob job lock | replaceCronTemplate job lock =>
    [("job", encode job), ("lock", encode lock)]
  | descheduleCronJob key lock => [("key", encode key), ("lock", encode lock)]
  | startCronJob key => [("key", encode key)]
  | killTasks query lock => [("query", encode query), ("lock", encode lock)]
  | restartShards key shards lock =>
    [("key", encode key), ("shard_ids", encode shards), ("lock", encode lock)]
  | setQuota role quota => [("role", encode role), ("quota", encode quota)]
  | startMaintenance hosts | drainHosts hosts | maintenanceStatus hosts
  | endMaintenance hosts => [("hosts", encode hosts)]
  | forceTaskState taskId status => [("task_id", encode taskId), ("status", encode status)]
  | performBackup | listBackups | commitRecovery | unloadRecovery | snapshot => []
  | stageRecovery backupId => [("backup_id", encode backupId)]
  | queryRecovery query | deleteRecoveryTasks query => [("query", encode query)]
  | rewriteConfigs commands => [("commands", encode commands)]
  | addInstances addition lock => [("config", encode addition), ("lock", encode lock)]
  | acquireLock key => [("lock_key", encodeLockSubject key)]
  | releaseLock lock mode => [("lock", encode lock), ("validation", encode mode)]

def View.ofFields? (s : Json.Spelling) (operation : Operation) (fields : List (String × Json)) :
    Option View := do
  match operation with
  | .populateJobConfig => return populateJobConfig (← required s fields "job")
  | .getTasksStatus => return getTasksStatus (← withDefault .everything s fields "query")
  | .getRoleSummary => return getRoleSummary
  | .getJobSummary => return getJobSummary (← optional s fields "role")
  | .getJobs => return getJobs (← optional s fields "role")
  | .getQuota => return getQuota (← required s fields "role")
  | .getVersion => return getVersion
  | _ => none

def Command.ofFields? (s : Json.Spelling) (operation : Operation)
    (fields : List (String × Json)) : Option Command := do
  match operation with
  | .createJob => return createJob (← required s fields "job") (← optional s fields "lock")
  | .scheduleCronJob =>
    return scheduleCronJob (← required s fields "job") (← optional s fields "lock")
  | .descheduleCronJob =>
    return descheduleCronJob (← required s fields "key") (← optional s fields "lock")
  | .replaceCronTemplate =>
    return replaceCronTemplate (← required s fields "job") (← optional s fields "lock")
  | .startCronJob => return startCronJob (← required s fields "key")
  | .killTasks => return killTasks (← required s fields "query") (← optional s fields "lock")
  | .restartShards =>
    return restartShards (← required s fields "key") (← required s fields "shard_ids")
      (← optional s fields "lock")
  | .setQuota => return setQuota (← required s fields "role") (← required s fields "quota")
  | .startMaintenance => return startMaintenance (← required s fields "hosts")
  | .drainHosts => return drainHosts (← required s fields "hosts")
  | .maintenanceStatus => return maintenanceStatus (← required s fields "hosts")
  | .endMaintenance => return endMaintenance (← required s fields "hosts")
  | .forceTaskState =>
    return forceTaskState (← required s fields "task_id") (← required s fields "status")
  | .performBackup => return performBackup
  | .listBackups => return listBackups
  | .stageRecovery => return stageRecovery (← required s fields "backup_id")
  | .queryRecovery => return queryRecovery (← withDefault .everything s fields "query")
  | .deleteRecoveryTasks => return deleteRecoveryTasks (← required s fields "query")
  | .commitRecovery => return commitRecovery
  | .unloadRecovery => return unloadRecovery
  | .snapshot => return snapshot
  | .rewriteConfigs => return rewriteConfigs (← required s fields "commands")
  | .addInstances => return addInstances (← required s fields "config") (← optional s fields "lock")
  | .acquireLock => return acquireLock (← readLockSubject s (← required s fields "lock_key"))
  | .releaseLock =>
    return releaseLock (← required s fields "lock") (← required s fields "validation")
  | _ => none

instance : Codec Request where
  encode r := .obj <| ("op", .str r.operation.name) ::
    match r with
    | .view v => v.fields
    | .command c credential => c.fields ++ [("session", encode credential)]
  read _ j := do
    let fields ← j.object?
    let operation ← Operation.ofName? (← required .narrow fields "op")
    if operation.isMutating then
      return .command (← Command.ofFields? .wide operation fields)
        (← optional .wide fields "session")
    else return .view (← View.ofFields? .wide operation fields)

end JobControl
