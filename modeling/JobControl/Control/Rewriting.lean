import JobControl.Control.Launch

/-!
# Rewrites

A batch of rewrite commands is carried out in order. A command that does not find what it
expects is reported and leaves everything as it was; a replacement that is not well described
undoes the whole batch.
-/

namespace JobControl

/-- Why a rewrite command was not carried out. -/
inductive RewriteMiss
  | keyChanged
  | ownerChanged
  | noJob (key : JobKey)
  | severalJobs (key : JobKey)
  | jobDiffers (key : JobKey)
  | noTask (key : InstanceKey)
  | severalTasks (key : InstanceKey)
  | taskDiffers (key : InstanceKey)
  | notFiled (id : String)
  deriving Repr, DecidableEq

def RewriteMiss.message : RewriteMiss → String
  | keyChanged => "Disallowing rewrite attempting to change job key."
  | ownerChanged => "Disallowing rewrite attempting to change job owner."
  | noJob key => "No jobs found for key " ++ key.canonical
  | severalJobs key => "Multiple jobs found for key " ++ key.canonical
  | jobDiffers key => "CAS compare failed for " ++ key.canonical
  | noTask key => "No active task found for " ++ key.text
  | severalTasks key => "Multiple active tasks found for " ++ key.text
  | taskDiffers key => "CAS compare failed for " ++ key.text
  | notFiled id => "Did not change " ++ id

namespace Store

/-- The templates of a job, with the managers that they are filed under. -/
def templatesOf (s : Store) (key : JobKey) : List (String × Job) :=
  s.managers.filterMap fun manager => (s.job? manager key).map fun job => (manager, job)

/-- Replaces the only template of a job, if it is the expected one. -/
def replaceJob (s : Store) (expected replacement : Job) : Except RewriteMiss Store :=
  if expected.key != replacement.key then .error .keyChanged
  else if expected.owner != replacement.owner then .error .ownerChanged
  else match s.templatesOf expected.key with
    | [] => .error (.noJob expected.key)
    | [(manager, stored)] =>
      if stored == expected then .ok (s.saveJob manager replacement)
      else .error (.jobDiffers expected.key)
    | _ => .error (.severalJobs expected.key)

/-- Replaces what the only active task of an instance runs, if it is the expected. -/
def replaceTask (s : Store) (key : InstanceKey) (expected replacement : TaskSpec) :
    Except RewriteMiss Store :=
  match s.findTasks ((TaskQuery.ofJob key.job).instances (setOf [key.instanceId])).active with
  | [] => .error (.noTask key)
  | [task] =>
    if task.spec == expected then
      match s.replaceSpec task.id replacement with
      | some store => .ok store
      | none => .error (.notFiled task.id)
    else .error (.taskDiffers key)
  | _ => .error (.severalTasks key)

/-- Carries out a command. The outer failure is a replacement that is not well described. -/
def rewrite (s : Store) : Rewrite → Except Fault (Except RewriteMiss Store)
  | .job expected replacement =>
    match replacement.sanitize with
    | .ok job => .ok (s.replaceJob expected job)
    | .error defect => .error (.jobReplacement defect)
  | .task key expected replacement =>
    match replacement.sanitize with
    | .ok task => .ok (s.replaceTask key expected task)
    | .error defect => .error (.taskReplacement defect)

/-- Carries out commands in order; the commands that missed are reported. -/
def rewriteAll (s : Store) : List Rewrite → Except Fault (Store × List RewriteMiss)
  | [] => .ok (s, [])
  | command :: commands => do
    match ← s.rewrite command with
    | .ok s => s.rewriteAll commands
    | .error miss =>
      let (s, misses) ← s.rewriteAll commands
      return (s, miss :: misses)

end Store

namespace World

/-- Carries out a batch of rewrite commands, and records each command that missed. -/
def rewriteConfigs (env : Environment) (w : World) (commands : List Rewrite) :
    Except Refusal (World × Response) := do
  if commands.isEmpty then return (w, .failed .error "No rewrite commands provided.")
  let (store, misses) ← checked id (w.live.rewriteAll commands)
  let w := w.commit store
  if misses.isEmpty then return (w, .done "All rewrites completed successfully." [])
  let events := misses.map fun miss =>
    Event.of .rewriteFailed w.nowMs Operation.rewriteConfigs.name miss.message
  return (events.foldl (World.record env) w,
    .failed .warning (joined ", " (misses.map RewriteMiss.message)))

end World

end JobControl
