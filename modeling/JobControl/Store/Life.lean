import JobControl.Store
import JobControl.Task.Transition

/-!
# The life of tasks in the store

Tasks are created, moved from state to state and placed on hosts. Each step is added to the
history of the task, with the time, the reason and the scheduler that took it.
-/

namespace JobControl

/-- Who takes a step, and when. -/
structure Stamp where
  nowMs : Int64
  scheduler : Option String
  deriving Repr, DecidableEq

/-- New tasks that wait to be placed, one for each instance; `token i` is the fresh token of
the `i`-th. -/
def waitingTasks (stamp : Stamp) (token : Nat → String) (specs : List (Int32 × TaskSpec)) :
    List Task :=
  specs.zipIdx.map fun ((instanceId, spec), i) =>
    Task.waiting spec instanceId stamp.nowMs (token i) stamp.scheduler

/-- The task after a move, if it moves. -/
def Task.move (stamp : Stamp) (message : Option String) (next : Status → Option Status)
    (t : Task) : Option Task :=
  (next t.status).map fun status => t.enter ⟨stamp.nowMs, status, message, stamp.scheduler⟩

/-- The task placed on a host, if it waits. -/
def Task.place (stamp : Stamp) (host agentId : String) (ports : Table Int32) (t : Task) :
    Option Task :=
  if t.status.isUnassigned then
    some ({ t with host := some host, agentId := some agentId, ports := ports }.enter
      ⟨stamp.nowMs, .assigned, none, stamp.scheduler⟩)
  else none

namespace Store

/-- Moves each task that meets a query, and says how many have moved. -/
def moveTasks (s : Store) (stamp : Stamp) (q : TaskQuery) (message : Option String)
    (next : Status → Option Status) : Store × Nat :=
  let move := Task.move stamp message next
  (s.changeTasks q move, (s.changedTasks q move).length)

/-- Asks the tasks that meet a query to move to a state. -/
def changeState (s : Store) (stamp : Stamp) (q : TaskQuery) (target : Status)
    (message : Option String) : Store × Nat :=
  s.moveTasks stamp q message (·.resolve target)

def forceState (s : Store) (stamp : Stamp) (id : String) (target : Status)
    (message : Option String) : Store × Nat :=
  s.moveTasks stamp (.ofId id) message (·.force target)

/-- Places a waiting task on a host. -/
def assignTask (s : Store) (stamp : Stamp) (id host agentId : String) (ports : Table Int32) :
    Store × Option Task :=
  let place := Task.place stamp host agentId ports
  (s.changeTasks (.ofId id) place, (s.changedTasks (.ofId id) place).head?)

end Store

end JobControl
