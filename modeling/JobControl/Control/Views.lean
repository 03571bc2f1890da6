import JobControl.Control.Launch
import JobControl.Cron.NextRun

/-!
# Views

What everyone may ask. Views of tasks and jobs are taken from the committed store, so that they
never wait for a change; what a role consumes is taken from the live one.
-/

namespace JobControl

/-- The task whose last step is the latest; of several such tasks the last one. -/
def latestTask (tasks : List Task) : Option Task :=
  tasks.foldl (fun best t =>
    match best with
    | none => some t
    | some b => if b.latestMs ≤ t.latestMs then some t else some b) none

/-- A job as its tasks show it: what its latest active task runs, or its latest task if none is
active. -/
def jobOfTasks (key : JobKey) (tasks : List Task) : Option Job :=
  (latestTask (tasks.filter (·.status.isActive)) <|> latestTask tasks).map fun t =>
    ⟨key, t.spec.owner, none, t.spec, Int32.ofInt (min tasks.length Int32.maxValue.toInt)⟩

/-- Where the tasks of a job are in their lives. -/
def JobStats.ofTasks (tasks : List Task) : JobStats where
  active := tasks.countP fun t => t.status.isActive && t.status != .pending
  pending := tasks.countP fun t => t.status == .pending
  finished := tasks.countP fun t => t.status == .finished || t.status == .killed
  failed := tasks.countP fun t => t.status == .failed || t.status == .lost

def tasksOf (key : JobKey) (tasks : List Task) : List Task :=
  tasks.filter fun t => t.jobKey == key

namespace Store

/-- The templates of the cron jobs of a role, or of all. -/
def cronJobsOf (s : Store) (role : Option String) : List Job :=
  s.cronJobs.filter fun j => TaskQuery.admits role j.key.role

/-- All jobs that have a task or a template, in the order of their keys. -/
def jobKeys (tasks : List Task) (templates : List Job) : List JobKey :=
  (setOf (tasks.map Task.jobKey ++ templates.map Job.key) : JobKeys).toList

/-- The template of a job among others; of several the last one. -/
def templateOf (key : JobKey) (templates : List Job) : Option Job :=
  (templates.filter fun j => j.key == key).getLast?

/-- The jobs of a role, or of all: cron jobs as their templates say, other jobs as their active
tasks show. -/
def jobListing (s : Store) (role : Option String) : List Job :=
  let tasks := s.findTasks (TaskQuery.ofRole? role).active
  let templates := s.cronJobsOf role
  (jobKeys tasks templates).filterMap fun key =>
    templateOf key templates <|> jobOfTasks key (tasksOf key tasks)

/-- The jobs of a role, or of all, with their tasks counted and the next runs of cron jobs. -/
def jobSummaries (s : Store) (nowMs : Int64) (role : Option String) : List JobSummary :=
  let tasks := s.findTasks (TaskQuery.ofRole? role)
  let templates := s.cronJobsOf role
  (jobKeys tasks templates).filterMap fun key =>
    let own := tasksOf key tasks
    match templateOf key templates with
    | some job =>
      some ⟨job, .ofTasks own, job.cronSchedule.bind fun text => Cron.nextRun? text nowMs⟩
    | none => (jobOfTasks key own).map fun job => ⟨job, .ofTasks own, none⟩

/-- How many jobs each role has: jobs that have tasks, and cron jobs. -/
def roleSummaries (s : Store) : List RoleSummary :=
  let tasks := s.findTasks .everything
  let templates := s.cronJobs
  let roles : Names := setOf (tasks.map Task.role ++ templates.map (·.key.role))
  roles.toList.map fun role =>
    let keys : JobKeys := setOf ((tasks.filter (·.role == role)).map Task.jobKey)
    ⟨role, keys.size, templates.countP (·.key.role == role)⟩

end Store

def apiVersion : Int32 := 3

/-- Answers a question. What the tasks of a job would run is listed once, however many would run
it. -/
def World.answer (w : World) : View → Except Refusal Response
  | .populateJobConfig job =>
    match Sanitized.ofJob job with
    | .ok s =>
      let tasks := (s.tasks.map Prod.snd).eraseDups
      .ok ⟨.ok, some "Tasks populated", some (.populated tasks), s.warnings⟩
    | .error defect =>
      .error (Refusal.under "Invalid configuration: " (.fault (.description defect)))
  | .getTasksStatus query => .ok (.found (.tasks (w.committed.findTasks query)))
  | .getRoleSummary => .ok (.found (.roles w.committed.roleSummaries))
  | .getJobSummary role => .ok (.found (.jobSummaries (w.committed.jobSummaries w.nowMs role)))
  | .getJobs role => .ok (.found (.jobs (w.committed.jobListing role)))
  | .getQuota role =>
    if Text.blank role then .error (.malformed .roleUnset)
    else .ok (.found (.quota (w.live.quotaInfo role)))
  | .getVersion => .ok (.found (.version apiVersion))

end JobControl
