import JobControl.Job
import JobControl.Text.Quoted

/-!
# What is wrong with a description

The reasons to refuse the description of a job or a task. Names that may hold anything are
quoted in the message.
-/

namespace JobControl

/-- A reason to refuse a description. -/
inductive Defect
  | invalidKey (key : JobKey)
  | ownerRoleUnset
  | ownerUserUnset
  | foreignOwner (key : JobKey) (role : String)
  | noInstances (count : Int32)
  | taskOwnerUnset
  | environment (name : String)
  | jobName (name : String)
  | numCpus (amount : Float)
  | ramMb (amount : Int64)
  | diskMb (amount : Int64)
  | maxTaskFailures (limit : Int32)
  | executorUnset
  | executorNameUnset
  | portName (name : String)
  | otherJob (described key : JobKey)
  deriving Repr

def Defect.message : Defect → String
  | invalidKey key =>
    "Job key " ++ key.canonical
      ++ " is invalid: role, environment and name must match [\\w\\-.]+"
  | ownerRoleUnset => "Job owner role must be set"
  | ownerUserUnset => "Job owner user must be set"
  | foreignOwner key role =>
    "Role in job key " ++ key.canonical ++ " does not match owner role " ++ role
  | noInstances count => "Instance count must be positive, got " ++ toString count
  | taskOwnerUnset => "Task owner role and user must be set"
  | environment name => "Task environment " ++ Text.quoted name ++ " is invalid"
  | jobName name => "Task job name " ++ Text.quoted name ++ " is invalid"
  | numCpus amount => "num_cpus must be positive, got " ++ Decimal.plain amount
  | ramMb amount => "ram_mb must be positive, got " ++ toString amount
  | diskMb amount => "disk_mb must be positive, got " ++ toString amount
  | maxTaskFailures limit =>
    "max_task_failures must be -1 or positive, got " ++ toString limit
  | executorUnset => "Executor config must be set"
  | executorNameUnset => "Executor name must be set"
  | portName name => "Requested port name " ++ Text.quoted name ++ " is invalid"
  | otherJob described key =>
    "Task config for " ++ described.canonical ++ " does not match job " ++ key.canonical

end JobControl
