import JobControl.Fault
import JobControl.Maintenance
import JobControl.Session.Principal

/-!
# Responses

Every request is answered by a code, and as the case may be by a message, a result and
warnings. A refusal is a cause as well; its code and its message follow from it.
-/

namespace JobControl

/-- How a request went. -/
inductive ResponseCode
  | ok
  | invalidRequest
  | error
  | authFailed
  | lockError
  | warning
  deriving DecidableEq, Repr, Inhabited

namespace ResponseCode

def all : List ResponseCode := [ok, invalidRequest, error, authFailed, lockError, warning]

/-- The name of a code in documents. -/
def name : ResponseCode → String
  | ok => "OK"
  | invalidRequest => "INVALID_REQUEST"
  | error => "ERROR"
  | authFailed => "AUTH_FAILED"
  | lockError => "LOCK_ERROR"
  | warning => "WARNING"

/-- The name of a code in records. -/
def label : ResponseCode → String
  | ok => "Ok"
  | invalidRequest => "InvalidRequest"
  | error => "Error"
  | authFailed => "AuthFailed"
  | lockError => "LockError"
  | warning => "Warning"

end ResponseCode

/-- How many tasks of a job are where in their lives. -/
structure JobStats where
  active : Nat
  pending : Nat
  finished : Nat
  failed : Nat
  deriving DecidableEq, Repr, Inhabited

/-- A job with its tasks counted, and the time of its next run if it has a schedule. -/
structure JobSummary where
  job : Job
  stats : JobStats
  nextRunMs : Option Int64
  deriving BEq, Repr

/-- How many jobs a role has. -/
structure RoleSummary where
  role : String
  jobs : Nat
  cronJobs : Nat
  deriving DecidableEq, Repr

/-- What a request has found out. -/
inductive Result
  | populated (tasks : List TaskSpec)
  | tasks (tasks : List Task)
  | roles (summaries : List RoleSummary)
  | jobSummaries (summaries : List JobSummary)
  | jobs (jobs : List Job)
  | quota (info : QuotaInfo)
  | hosts (modes : HostModes)
  | backups (ids : List String)
  | stagedTasks (tasks : List Task)
  | version (major : Int32)
  | lock (lock : Lock)
  deriving BEq, Repr

/-- The answer to a request. -/
structure Response where
  code : ResponseCode
  message : Option String
  result : Option Result
  warnings : List String
  deriving BEq, Repr

namespace Response

/-- Success, with a message. -/
def done (message : String) (warnings : List String) : Response :=
  ⟨.ok, some message, none, warnings⟩

/-- Success, with a result. -/
def found (result : Result) : Response :=
  ⟨.ok, none, some result, []⟩

def failed (code : ResponseCode) (message : String) : Response :=
  ⟨code, some message, none, []⟩

end Response

/-! ## Refusals -/

/-- What is wrong with a request itself. -/
inductive Malformed
  | jobName (name : String)
  | noInstanceIds
  | cronJob
  | notScheduled (key : JobKey)
  | roleUnset
  /-- A defect that is known by its text only. -/
  | stated (text : String)
  | under (heading : String) (malformed : Malformed)
  deriving Repr, DecidableEq

def Malformed.message : Malformed → String
  | jobName name => "Invalid job name: '" ++ name ++ "'"
  | noInstanceIds => "Instance ids must not be empty"
  | cronJob => "Cron jobs are not supported here."
  | notScheduled key => "Job " ++ key.canonical ++ " is not scheduled with cron"
  | roleUnset => "Role must be set"
  | stated text => text
  | under heading malformed => heading ++ malformed.message

/-- Why a request is refused. -/
inductive Refusal
  | fault (fault : Fault)
  | denied (denial : Denial)
  | malformed (malformed : Malformed)
  deriving Repr

namespace Refusal

def message : Refusal → String
  | fault f => f.message
  | denied d => d.message
  | malformed m => m.message

/-- The refusal under a heading. A denial is reported as it is. -/
def under (heading : String) : Refusal → Refusal
  | fault f => fault (.under heading f)
  | denied d => denied d
  | malformed m => malformed (.under heading m)

end Refusal

/-- The code of a fault of a kind. -/
def FaultKind.code : FaultKind → ResponseCode
  | authFailed => .authFailed
  | lock => .lockError
  | taskDescription | schedule | quota | cron => .invalidRequest
  | recovery | storage | configuration | serialization | internal => .error

namespace Refusal

def code : Refusal → ResponseCode
  | fault f => f.kind.code
  | denied _ => .authFailed
  | malformed _ => .invalidRequest

def response (r : Refusal) : Response := .failed r.code r.message

end Refusal

end JobControl
