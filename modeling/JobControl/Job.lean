import JobControl.JobKey
import JobControl.Resources

/-!
# Jobs

A job is a template for its tasks: every instance runs the same command with the same
resources. What a request may leave open is an option; a populated job has it filled.
-/

namespace JobControl

/-- The owner of a job: a role, and the user who acts for it. -/
structure Identity where
  role : String
  user : String
  deriving DecidableEq, Repr, Inhabited

/-- What runs a task, and its own data. -/
structure Executor where
  name : String
  data : String
  deriving DecidableEq, Repr, Inhabited

/-- What one instance of a job runs and needs. -/
structure TaskSpec where
  owner : Identity
  environment : String
  jobName : String
  isService : Option Bool
  numCpus : Float
  ramMb : Int64
  diskMb : Int64
  priority : Option Int32
  maxTaskFailures : Option Int32
  production : Option Bool
  contactEmail : Option String
  requestedPorts : Names
  executor : Option Executor
  deriving BEq, Repr, Inhabited

namespace TaskSpec

/-- The job that the task belongs to. -/
def jobKey (t : TaskSpec) : JobKey := ⟨t.owner.role, t.environment, t.jobName⟩

/-- Tasks run outside of production unless they say otherwise. -/
def isProduction (t : TaskSpec) : Bool := t.production.getD false

/-- What one instance needs. -/
def resources (t : TaskSpec) : Resources := ⟨t.numCpus, t.ramMb, t.diskMb⟩

end TaskSpec

/-- A job: its key, its owner, when it runs, what its instances run and how many there are. -/
structure Job where
  key : JobKey
  owner : Identity
  cronSchedule : Option String
  task : TaskSpec
  instanceCount : Int32
  deriving BEq, Repr, Inhabited

end JobControl
