import JobControl.Cron.Refusal
import JobControl.Cron.Schedule
import JobControl.Job.Sanitized
import JobControl.Store.Life

/-!
# Cron templates

The jobs that run on a schedule are filed as templates under a manager of their own. A template
can be created, replaced and deleted, and a run of it can be started at any time at which none
of its tasks is active.
-/

namespace JobControl

/-- The manager that cron templates are filed under. -/
def cronManager : String := "CRON"

/-- The template of a job that has a schedule which can be read. -/
def Sanitized.cronTemplate (s : Sanitized) : Except CronRefusal Job :=
  match s.schedule? with
  | none => .error (.noSchedule s.job.key)
  | some text =>
    if (Cron.Schedule.ofText? text).isSome then .ok s.job else .error (.invalidSchedule text)

namespace Store

def cronJobs (s : Store) : List Job := s.jobsOf cronManager

def cronJob? (s : Store) (key : JobKey) : Option Job := s.job? cronManager key

def hasCronJob (s : Store) (key : JobKey) : Bool := (s.cronJob? key).isSome

/-- Files the template of a job that has none. -/
def createCronJob (s : Store) (job : Sanitized) : Except CronRefusal Store := do
  let template ← job.cronTemplate
  if s.hasCronJob template.key then .error (.alreadyExists template.key)
  else .ok (s.saveJob cronManager template)

/-- Replaces the template of a job that has one. -/
def updateCronJob (s : Store) (job : Sanitized) : Except CronRefusal Store := do
  let template ← job.cronTemplate
  if s.hasCronJob template.key then .ok (s.saveJob cronManager template)
  else .error (.unknown template.key)

/-- Deletes the template of a job, if it has one. -/
def deleteCronJob (s : Store) (key : JobKey) : Option Store :=
  if s.hasCronJob key then some (s.removeJob key) else none

/-- What a run of a cron job launches now. -/
def cronLaunch (s : Store) (key : JobKey) : Except CronRefusal (List (Int32 × TaskSpec)) :=
  match s.cronJob? key with
  | none => .error (.unknown key)
  | some template =>
    let active := s.findTasks (TaskQuery.ofJob key).active
    if active.isEmpty then
      match Sanitized.ofJob template with
      | .ok sanitized => .ok sanitized.tasks
      | .error defect => .error (.invalidTemplate defect)
    else .error (.alreadyActive key active.length)

end Store

end JobControl
