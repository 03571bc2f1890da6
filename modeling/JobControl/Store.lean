import JobControl.Job
import JobControl.Lock
import JobControl.Task.Query

/-!
# The store

What the scheduler knows: tasks under their identifiers, job templates under the manager that
looks after them and the text of their keys, locks under the text of the job's key, and the
allotment of each role.
-/

namespace JobControl

/-- Everything that the scheduler keeps. -/
structure Store where
  tasks : Table Task
  jobs : Table (Table Job)
  locks : Table Lock
  quotas : Table Resources
  deriving BEq, Repr, Inhabited

namespace Store

def empty : Store := ⟨∅, ∅, ∅, ∅⟩

/-! ## Tasks -/

/-- The tasks that meet a query. A query that names tasks is answered by looking these up, in
the order of their identifiers. -/
def findTasks (s : Store) (q : TaskQuery) : List Task :=
  if q.taskIds.isEmpty then s.tasks.values.filter q.isMetBy
  else (q.taskIds.toList.filterMap fun id => s.tasks[id]?).filter q.isMetBy

def task? (s : Store) (id : String) : Option Task :=
  (s.findTasks (.ofId id)).head?

/-- Files tasks under their identifiers, in place of those that are there. -/
def saveTasks (s : Store) (tasks : List Task) : Store :=
  { s with tasks := tasks.foldl (fun kept t => kept.insert t.id t) s.tasks }

/-- Takes out the tasks filed under the given identifiers. -/
def deleteTasks (s : Store) (ids : List String) : Store :=
  { s with tasks := ids.foldl (fun kept id => kept.erase id) s.tasks }

def deleteAllTasks (s : Store) : Store :=
  { s with tasks := ∅ }

/-- The tasks that meet a query and that `change` changes, in their changed form. -/
def changedTasks (s : Store) (q : TaskQuery) (change : Task → Option Task) : List Task :=
  (s.tasks.values.filter q.isMetBy).filterMap change

/-- Changes each task that meets a query, where it is filed. -/
def changeTasks (s : Store) (q : TaskQuery) (change : Task → Option Task) : Store :=
  { s with tasks := s.tasks.map fun _ t => if q.isMetBy t then (change t).getD t else t }

/-- Lets a task run something else, where it is filed. -/
def replaceSpec (s : Store) (id : String) (spec : TaskSpec) : Option Store :=
  (s.tasks[id]?).map fun t => { s with tasks := s.tasks.insert id { t with spec := spec } }

/-! ## Job templates -/

/-- The managers that look after any template. -/
def managers (s : Store) : List String :=
  s.jobs.keys

def jobsOf (s : Store) (manager : String) : List Job :=
  match s.jobs[manager]? with
  | some jobs => jobs.values
  | none => []

/-- The template of a job under a manager. -/
def job? (s : Store) (manager : String) (key : JobKey) : Option Job :=
  (s.jobsOf manager).find? fun j => j.key == key

/-- Files a template under a manager and the text of its key. -/
def saveJob (s : Store) (manager : String) (job : Job) : Store :=
  { s with
    jobs := s.jobs.insert manager ((s.jobs.getD manager ∅).insert job.key.canonical job) }

/-- Takes out the templates filed under a key, whoever looks after them. -/
def removeJob (s : Store) (key : JobKey) : Store :=
  { s with
    jobs := (s.jobs.map fun _ jobs => jobs.erase key.canonical).filter fun _ jobs =>
      !jobs.isEmpty }

/-! ## Locks -/

def lock? (s : Store) (key : JobKey) : Option Lock :=
  s.locks[key.canonical]?

/-- Files a lock under the text of the job's key. -/
def saveLock (s : Store) (lock : Lock) : Store :=
  { s with locks := s.locks.insert lock.key.canonical lock }

def removeLock (s : Store) (key : JobKey) : Store :=
  { s with locks := s.locks.erase key.canonical }

/-! ## Allotments -/

def quota? (s : Store) (role : String) : Option Resources :=
  s.quotas[role]?

def saveQuota (s : Store) (role : String) (quota : Resources) : Store :=
  { s with quotas := s.quotas.insert role quota }

def removeQuota (s : Store) (role : String) : Store :=
  { s with quotas := s.quotas.erase role }

end Store

end JobControl
