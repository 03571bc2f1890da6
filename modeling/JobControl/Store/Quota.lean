import JobControl.Store
import JobControl.Text.Blank

/-!
# Allotments and consumption

A role consumes what its active tasks need, and what the templates need of which no task is
active. Only production counts against the allotment: a launch is admitted if production stays
within the allotment afterwards.
-/

namespace JobControl

/-- The allotment of a role and what it consumes. -/
structure QuotaInfo where
  quota : Resources
  production : Resources
  nonProduction : Resources
  deriving BEq, Repr, Inhabited

/-- A reason to refuse a launch or an allotment. -/
inductive QuotaRefusal
  | insufficient (role : String) (requested consumed allotment : Resources)
  | unrepresentable (role : String)
  | roleUnset
  | negative (quota : Resources)
  deriving Repr

def QuotaRefusal.message : QuotaRefusal → String
  | insufficient role requested consumed allotment =>
    "Insufficient resource quota for role " ++ role ++ ": requested " ++ requested.text
      ++ ", consumed " ++ consumed.text ++ ", allotment " ++ allotment.text
  | unrepresentable role =>
    "Resource demand for role " ++ role ++ " exceeds the representable range"
  | roleUnset => "Role must be set"
  | negative quota => "Negative values in: " ++ quota.text

/-- What the tasks need together that run in production. -/
def productionDemand (role : String) (tasks : List TaskSpec) :
    Except QuotaRefusal Resources :=
  (tasks.filter (·.isProduction)).foldlM (fun total t =>
    match total.add? t.resources with
    | some sum => .ok sum
    | none => .error (.unrepresentable role)) Resources.empty

namespace Store

/-- What a role runs, with the number of instances: each active task, and each template of
which no task is active. -/
def consumers (s : Store) (role : String) : List (TaskSpec × Int32) :=
  let active := s.findTasks (TaskQuery.ofRole role).active
  let activeJobs : JobKeys := setOf (active.map Task.jobKey)
  let idle := (s.managers.flatMap s.jobsOf).filter fun j =>
    j.key.role == role && !activeJobs.contains j.key
  active.map (fun t => (t.spec, 1)) ++ idle.map fun j => (j.task, j.instanceCount)

/-- The sum of what some consumers need. -/
def consumption (consumers : List (TaskSpec × Int32)) : Resources :=
  Resources.sum (consumers.map fun (spec, count) => spec.resources.scale count)

/-- The allotment of a role and what it consumes; a role without allotment has nothing. -/
def quotaInfo (s : Store) (role : String) : QuotaInfo :=
  let all := s.consumers role
  ⟨(s.quota? role).getD .empty,
    consumption (all.filter (·.1.isProduction)),
    consumption (all.filter (!·.1.isProduction))⟩

/-- A launch is admitted if it adds no production, or if production then stays within the
allotment. -/
def admission (s : Store) (role : String) (additional : Resources) : Except QuotaRefusal Unit :=
  if additional == .empty then .ok ()
  else
    let info := s.quotaInfo role
    match info.production.add? additional with
    | none => .error (.unrepresentable role)
    | some projected =>
      if projected.exceeds info.quota then
        .error (.insufficient role additional info.production info.quota)
      else .ok ()

/-- Sets the allotment of a role that is not blank to an amount that is not negative. -/
def allot (s : Store) (role : String) (quota : Resources) : Except QuotaRefusal Store :=
  if Text.blank role then .error .roleUnset
  else if quota.hasNegative then .error (.negative quota)
  else .ok (s.saveQuota role quota)

end Store

end JobControl
