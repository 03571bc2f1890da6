import JobControl.Control.Launch

/-!
# Commands on cron jobs
-/

namespace JobControl.World

/-- Files the template of a cron job, new or in place of the one that is there. -/
def scheduleCronJob (w : World) (job : Job) (lock : Option Lock) :
    Except Refusal (World × Response) := do
  let sanitized ← checked .description (Sanitized.ofJob job)
  let key := sanitized.job.key
  checked .lock (w.live.checkLock key lock)
  if !sanitized.isCron then throw (.fault (.launch (.noSchedule key)))
  let store ← checked .cron <|
    if w.live.hasCronJob key then w.live.updateCronJob sanitized
    else w.live.createCronJob sanitized
  return (w.commit store,
    .done ("Job " ++ key.canonical ++ " scheduled with cron schedule '"
      ++ sanitized.job.cronSchedule.getD "" ++ "'") sanitized.warnings)

def descheduleCronJob (w : World) (key : JobKey) (lock : Option Lock) :
    Except Refusal (World × Response) := do
  checked .lock (w.live.checkLock key lock)
  match w.live.deleteCronJob key with
  | none => throw (.malformed (.notScheduled key))
  | some store =>
    return (w.commit store,
      .done ("Job " ++ key.canonical ++ " removed from cron schedule") [])

def replaceCronTemplate (w : World) (job : Job) (lock : Option Lock) :
    Except Refusal (World × Response) := do
  checked .lock (w.live.checkLock job.key lock)
  let sanitized ← checked .description (Sanitized.ofJob job)
  let store ← checked .cron (w.live.updateCronJob sanitized)
  return (w.commit store, .done ("Replaced template for: " ++ sanitized.job.key.canonical) [])

/-- Launches a run of a cron job. -/
def launchCronJob (env : Environment) (w : World) (key : JobKey) : Except CronRefusal World :=
  (w.live.cronLaunch key).map (w.launch env ⟨w.nowMs, none⟩)

/-- Starts a run of a cron job. -/
def startCronJob (env : Environment) (w : World) (key : JobKey) :
    Except Refusal (World × Response) := do
  checkKey key
  match w.launchCronJob env key with
  | .error refusal => throw (Refusal.under "Failed to start cron job - " (.fault (.cron refusal)))
  | .ok w => return (w, .done "Cron run started." [])

end JobControl.World
