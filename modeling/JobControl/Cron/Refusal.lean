import JobControl.Job.Defect

/-!
# What cron refuses

The reasons not to schedule a job, to change its template or to start it.
-/

namespace JobControl

/-- A reason to refuse what concerns a cron job. -/
inductive CronRefusal
  | noSchedule (key : JobKey)
  | invalidSchedule (text : String)
  | alreadyExists (key : JobKey)
  | unknown (key : JobKey)
  | alreadyActive (key : JobKey) (count : Nat)
  | invalidTemplate (defect : Defect)
  deriving Repr

/-- The text of a refusal. What the reader of schedules has to say about a text that is none
would stand behind a colon at the end; it is left out. -/
def CronRefusal.message : CronRefusal → String
  | noSchedule key => "Job " ++ key.canonical ++ " has no cron schedule"
  | invalidSchedule text => "Invalid cron schedule '" ++ text ++ "'"
  | alreadyExists key => "Job already exists: " ++ key.canonical
  | unknown key => "No such cron job: " ++ key.canonical
  | alreadyActive key count =>
    "Job " ++ key.canonical ++ " already has " ++ toString count ++ " active tasks"
  | invalidTemplate defect => defect.message

end JobControl
