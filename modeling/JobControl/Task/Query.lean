import JobControl.Task

/-!
# Queries for tasks

A query names what it asks for; a part that is left open, or is an empty set, matches every
task.
-/

namespace JobControl

/-- The conditions that a task has to meet. -/
structure TaskQuery where
  role : Option String
  environment : Option String
  jobName : Option String
  taskIds : Names
  statuses : Statuses
  instanceIds : Std.ExtTreeSet Int32
  host : Option String
  deriving BEq, Repr, Inhabited

namespace TaskQuery

def everything : TaskQuery := ⟨none, none, none, ∅, ∅, ∅, none⟩

def ofRole (role : String) : TaskQuery := { everything with role := some role }

/-- The tasks of a role, or all of them. -/
def ofRole? : Option String → TaskQuery
  | some role => ofRole role
  | none => everything

def ofJob (key : JobKey) : TaskQuery :=
  { everything with
    role := some key.role
    environment := some key.environment
    jobName := some key.name }

def ofId (id : String) : TaskQuery := { everything with taskIds := setOf [id] }

def ofHost (host : String) : TaskQuery := { everything with host := some host }

/-- Of the tasks asked for, those of certain instances. -/
def instances (q : TaskQuery) (ids : Std.ExtTreeSet Int32) : TaskQuery :=
  { q with instanceIds := ids }

/-- The same question for active tasks, whatever states it named before. -/
def active (q : TaskQuery) : TaskQuery := { q with statuses := setOf Status.active }

/-- The job that the query is about, if it names all parts of a key. -/
def jobKey? (q : TaskQuery) : Option JobKey :=
  match q.role, q.environment, q.jobName with
  | some role, some environment, some name => some ⟨role, environment, name⟩
  | _, _, _ => none

/-- A part that is left open admits everything. -/
def admits {α : Type} [BEq α] (wanted : Option α) (value : α) : Bool :=
  match wanted with
  | some w => w == value
  | none => true

/-- An empty set admits everything. -/
def admitsAny {α : Type} [Ord α] [Std.TransOrd α] (wanted : Std.ExtTreeSet α) (value : α) :
    Bool :=
  wanted.isEmpty || wanted.contains value

/-- The task meets all conditions. -/
def isMetBy (q : TaskQuery) (t : Task) : Bool :=
  admits q.role t.role
    && admits q.environment t.spec.environment
    && admits q.jobName t.spec.jobName
    && admitsAny q.taskIds t.id
    && admitsAny q.statuses t.status
    && admitsAny q.instanceIds t.instanceId
    && (match q.host with
      | some host => t.host == some host
      | none => true)

end TaskQuery

end JobControl
