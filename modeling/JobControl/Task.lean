import JobControl.Job
import JobControl.Task.Status

/-!
# Tasks

A task is one instance of a job together with its placement and its history. Its identifier
says when it was created, for which instance of which job, and ends in a token that no other
task has.
-/

namespace JobControl

/-- One step in the life of a task. -/
structure StatusChange where
  timestampMs : Int64
  status : Status
  message : Option String
  scheduler : Option String
  deriving DecidableEq, Repr, Inhabited

/-- An instance of a job that waits, runs or has ended. -/
structure Task where
  id : String
  agentId : Option String
  host : Option String
  spec : TaskSpec
  ports : Table Int32
  instanceId : Int32
  status : Status
  failures : Int32
  history : List StatusChange
  ancestor : Option String
  deriving BEq, Repr

namespace Task

def jobKey (t : Task) : JobKey := t.spec.jobKey

def role (t : Task) : String := t.spec.owner.role

/-- The time of the last step, or zero if there is none. -/
def latestMs (t : Task) : Int64 :=
  match t.history.getLast? with
  | some change => change.timestampMs
  | none => 0

/-- The task after one more step. -/
def enter (t : Task) (change : StatusChange) : Task :=
  { t with status := change.status, history := t.history ++ [change] }

/-- The identifier of a task created at a time, ending in a fresh token. -/
def idOf (spec : TaskSpec) (instanceId : Int32) (nowMs : Int64) (token : String) : String :=
  joined "-" [toString nowMs, spec.owner.role, spec.environment, spec.jobName,
    toString instanceId, token]

/-- A new task that waits to be placed. -/
def waiting (spec : TaskSpec) (instanceId : Int32) (nowMs : Int64) (token : String)
    (scheduler : Option String) : Task where
  id := idOf spec instanceId nowMs token
  agentId := none
  host := none
  spec := spec
  ports := ∅
  instanceId := instanceId
  status := .pending
  failures := 0
  history := [⟨nowMs, .pending, none, scheduler⟩]
  ancestor := none

end Task

end JobControl
