import JobControl.Proofs.Representation

/-!
# Templates that can be scheduled

A template is of use only if it says when to run, in a way that can be
read. The two commands that file templates see to this, and nothing that
backs up, prunes or puts back a store changes a template. A rewrite does
not see to it: what it puts in place of a template is sanitized, but its
schedule is looked at by nobody, so that root can take the schedule of a
template away. That no rewrite of a run does this is therefore asked for;
then all templates in all stores have a schedule that can be read.
-/

namespace JobControl

/-- The rewrite does not take the schedule of a template away, or make it
unreadable. -/
def Rewrite.KeepsSchedule : Rewrite → Prop
  | .job expected replacement => expected.Schedulable → replacement.Schedulable
  | .task _ _ _ => True

/-- No rewrite in the request takes a schedule away. -/
def Request.KeepsSchedules : Request → Prop
  | .command (.rewriteConfigs commands) _ => ∀ command ∈ commands, command.KeepsSchedule
  | _ => True

namespace Job

variable {j j' : Job}

theorem schedulable_congr (h : j'.cronSchedule = j.cronSchedule) :
    j'.Schedulable ↔ j.Schedulable := by
  rw [Schedulable, Schedulable, h]

theorem cronSchedule_of_sanitize (h : j.sanitize = .ok j') :
    j'.cronSchedule = j.cronSchedule := by
  obtain ⟨-, task, -, rfl⟩ := sanitize_eq_ok.mp h
  rfl

/-- What is equal as a whole has the same schedule. -/
theorem cronSchedule_eq_of_beq (h : (j == j') = true) : j.cronSchedule = j'.cronSchedule := by
  cases j
  cases j'
  simp only [BEq.beq, instBEqJob.beq, Bool.and_eq_true] at h
  exact beq_iff_eq.mp h.2.2.1

end Job

namespace Store

variable {s s' : Store} {key : JobKey} {manager : String} {job : Job}

/-- All templates have a schedule that can be read. -/
def Scheduled (s : Store) : Prop :=
  ∀ manager name job, s.filedJob? manager name = some job → job.Schedulable

namespace Scheduled

theorem empty : Scheduled .empty := by
  intro manager name job h
  simp [filedJob?] at h

theorem saveJob (hs : s.Scheduled) (hjob : job.Schedulable) :
    (s.saveJob manager job).Scheduled := by
  intro m name j h
  rw [filedJob?_saveJob] at h
  split at h
  · cases h
    exact hjob
  · exact hs m name j h

theorem removeJob (hs : s.Scheduled) : (s.removeJob key).Scheduled := by
  intro m name j h
  rw [filedJob?_removeJob] at h
  split at h
  · cases h
  · exact hs m name j h

/-- The template that is replaced has a schedule, so what the command
expects has one. -/
theorem applied {command : Rewrite} (hs : s.Scheduled) (hkeeps : command.KeepsSchedule)
    (h : Applied command s s') : s'.Scheduled := by
  cases h with
  | @job _ expected replacement stored job manager hjob hkey howner honly hsame =>
      have hmem : (manager, stored) ∈ s.templatesOf expected.key := by simp [honly]
      obtain ⟨m, -, hfound⟩ := List.mem_filterMap.mp hmem
      obtain ⟨found, hfound, heq⟩ := Option.map_eq_some_iff.mp hfound
      cases heq
      obtain ⟨name, hname⟩ := mem_jobsOf.mp (List.mem_of_find?_eq_some hfound)
      have hexpected : expected.Schedulable :=
        (Job.schedulable_congr (Job.cronSchedule_eq_of_beq hsame)).mp (hs _ _ _ hname)
      exact hs.saveJob ((Job.schedulable_congr (Job.cronSchedule_of_sanitize hjob)).mpr
        (hkeeps hexpected))
  | task _ _ _ hspec =>
      obtain ⟨t, -, rfl⟩ := replaceSpec_eq_some.mp hspec
      exact hs

end Scheduled

end Store

namespace World

variable {env : Environment} {w : World} {p : Principal} {c : Command}
  {credential : Option Credential} {store : Store} {issued : Nat}

theorem scheduled_of_change (h : Change env w p c store issued)
    (hc : (Request.command c credential).KeepsSchedules) (hs : w.live.Scheduled) :
    store.Scheduled := by
  cases h with
  | filed _ _ _ hjob => exact hs.saveJob hjob
  | removed => exact hs.removeJob
  | released =>
      intro manager name job hfiled
      rw [Store.filedJob?_releaseLock] at hfiled
      exact hs manager name job hfiled
  | rewritten hbatch =>
      exact hbatch.keeps (fun command hmem _ _ happly h => h.applied (hc command hmem) happly) hs
  | launched | killed | restarted | forced | locked | unlocked | allotted => exact hs

theorem lasting_scheduled : Lasting env Request.KeepsSchedules fun _ => Store.Scheduled where
  empty _ := .empty
  mono _ h := h
  change hc h hs := scheduled_of_change h hc hs
  deleteTasks _ hs := hs

/-- **As long as no rewrite takes a schedule away, every template of a cron
job has a schedule that can be read**, in the store, in the committed copy,
in every backup that is kept and in the staged copy. -/
theorem schedulable_everywhere (h : w.ReachedBy env Request.KeepsSchedules) :
    w.Everywhere fun s => ∀ j ∈ s.cronJobs, j.Schedulable := by
  refine (lasting_scheduled.everywhere h).imp fun s hs j hj => ?_
  obtain ⟨name, hname⟩ := Store.mem_jobsOf.mp hj
  exact hs _ _ _ hname

/-! ## Templates that are rewritten -/

/-- The template as it is stored. -/
def nightlyTemplate : Job := { nightlyJob with task := nightlyJob.task.populated }

/-- The template with another schedule, one that nobody can read. -/
def wheneverTemplate : Job := { nightlyTemplate with cronSchedule := some "whenever" }

/-- Root replaces the template. -/
def replacing (j : Job) : Request :=
  .command (.rewriteConfigs [.job nightlyTemplate j]) (some (.apiKey "root"))

/-- The template is made twice a night, and the copy from before is
staged. -/
def rewrittenInputs : List Input :=
  [.request (.command (.scheduleCronJob nightlyJob none) (some (.apiKey "root"))),
    .request (.command .performBackup (some (.apiKey "root"))),
    .request (replacing { nightlyTemplate with cronSchedule := some "0 2,4 * * *" }),
    .request (.command (.stageRecovery "backup-0-0") (some (.apiKey "root")))]

theorem schedulable_everywhere_rewritten :
    let w := (start 0 0 ∅ .empty).run rootOnly rewrittenInputs
    w.live.cronJobs.map (·.cronSchedule) = [some "0 2,4 * * *"]
      ∧ w.vault.staged.map (fun s => s.cronJobs.map (·.cronSchedule)) = some [some "0 2 * * *"]
      ∧ w.Everywhere fun s => ∀ j ∈ s.cronJobs, j.Schedulable := by
  intro w
  refine ⟨by decide +kernel, by decide +kernel,
    schedulable_everywhere ⟨0, 0, ∅, rewrittenInputs, ?_, rfl⟩⟩
  intro request hmem
  simp only [rewrittenInputs, List.mem_cons, List.not_mem_nil, or_false, Input.request.injEq] at hmem
  rcases hmem with rfl | rfl | rfl | rfl
  · trivial
  · trivial
  · intro command hcommand
    obtain rfl := List.mem_singleton.mp hcommand
    exact fun _ => by decide +kernel
  · trivial

/-- The furnished world after the template was replaced by one that nobody
can schedule. -/
def unscheduled : World := (furnished.dispatch rootOnly (replacing wheneverTemplate)).1

/-- **A rewrite can take the schedule of a template away.** -/
theorem not_always_schedulable :
    ¬∀ (env : Environment) (w : World), w.Reachable env →
      ∀ j ∈ w.live.cronJobs, j.Schedulable := by
  intro h
  have hreached : unscheduled.Reachable rootOnly :=
    Reachable.dispatch ⟨0, 0, ∅, _, fun _ _ => trivial, rfl⟩
  have hstored : wheneverTemplate.cronSchedule
      ∈ unscheduled.live.cronJobs.map (·.cronSchedule) := by decide +kernel
  obtain ⟨j, hj, hschedule⟩ := List.mem_map.mp hstored
  have hreadable : wheneverTemplate.Schedulable :=
    (Job.schedulable_congr hschedule).mp (h rootOnly unscheduled hreached j hj)
  revert hreadable
  decide +kernel

end World

end JobControl
