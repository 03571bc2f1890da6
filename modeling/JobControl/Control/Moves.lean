import JobControl.Control.Launch

/-!
# Commands that move tasks

Tasks are killed, restarted and forced into states. Who may kill is decided by the owners of the
tasks that a query matches; as others may change the store in between, the owners are compared
once more when the tasks are killed.
-/

namespace JobControl

/-- The roles whose tasks a query asks for: those of the tasks that it matches, and the role
that it names. -/
def Store.ownersOf (s : Store) (q : TaskQuery) : Names :=
  setOf ((s.findTasks q).map Task.role ++ q.role.toList)

/-- Checks the lock of each job, in the order of their keys. -/
def Store.checkLocks (s : Store) (keys : List JobKey) (held : Option Lock) :
    Except LockConflict Unit :=
  keys.forM fun key => s.checkLock key held

namespace World

/-- Kills the tasks that meet a query, for a principal that was authorized for the tasks of
certain owners. The lock of every job that has such a task must be presented. -/
def killTasks (w : World) (p : Principal) (owners : Names) (q : TaskQuery)
    (lock : Option Lock) : Except Refusal (World × Response) := do
  let tasks := w.live.findTasks q
  let foreign : Names := setOf ((tasks.map Task.role).filter (!owners.contains ·))
  if !p.holds .root && !foreign.isEmpty then
    throw (.fault (.foreignTasks p.name foreign.toList))
  let keys : JobKeys := setOf (tasks.map Task.jobKey)
  checked .lock (w.live.checkLocks keys.toList lock)
  let (store, killed) := w.live.changeState w.stamp q .killing (some ("Killed by " ++ p.name))
  return (w.commit store, .done ("Killed " ++ toString killed ++ " tasks.") [])

/-- Restarts instances of a job, all of which have to be active. -/
def restartShards (w : World) (p : Principal) (key : JobKey) (shards : Std.ExtTreeSet Int32)
    (lock : Option Lock) : Except Refusal (World × Response) := do
  checkKey key
  if shards.isEmpty then throw (.fault (.launch .noShards))
  checked .lock (w.live.checkLock key lock)
  let active := w.live.activeInstances key shards
  let missing := shards.toList.filter (!active.contains ·)
  if !missing.isEmpty then throw (.fault (.launch (.shardsMissing missing)))
  let q := ((TaskQuery.ofJob key).instances shards).active
  let (store, restarted) :=
    w.live.changeState w.stamp q .restarting (some ("Restarted by " ++ p.name))
  return (w.commit store,
    .done ("Shards are restarting. " ++ toString restarted ++ " of "
      ++ toString shards.size ++ " shards restarted.") [])

def forceTaskState (w : World) (p : Principal) (id : String) (status : Status) :
    World × Response :=
  let (store, _) :=
    w.live.forceState w.stamp id status (some ("Transition forced by " ++ p.name))
  (w.commit store, .done "Transition attempted." [])

end World

end JobControl
