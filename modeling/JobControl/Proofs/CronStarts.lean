import JobControl.Proofs.LockProtection
import JobControl.Proofs.TemplateRuns

/-!
# Starts of cron jobs

A run of a cron job is started at once by whoever may act for its role, if
the job has a template and none of its tasks is active. This is all that is
asked (`startable_iff`): no lock is presented with the request, and none is
looked for, so that a locked job gains tasks from a start as an unlocked one
does. What a lock does protect from a start are the tasks that are there,
and they are protected without it as well: a start adds tasks under new
identifiers, and touches no other.
-/

namespace JobControl

namespace World

variable {env : Environment} {w : World} {key : JobKey} {credential : Option Credential}

/-- A run of a cron job can be started: its caller may act for the role of
the job, there is a template, and no task of the job is active. -/
structure Startable (env : Environment) (w : World) (key : JobKey)
    (credential : Option Credential) : Prop where
  authorized : ∃ p, authorize env w.nowMs w.live (.startCronJob key) credential = .ok p
  planned : ∃ template, w.live.cronJob? key = some template
  idle : ∀ (id : String) (t : Task), w.live.tasks[id]? = some t → t.jobKey = key →
    t.status.isActive = false

theorem Startable.cronLaunch (hs : w.live.Accepted) (h : w.Startable env key credential) :
    key.isValid = true ∧ ∃ specs, w.live.cronLaunch key = .ok specs := by
  obtain ⟨template, htemplate⟩ := h.planned
  obtain ⟨-, hsanitize, hkey⟩ := hs.of_job? htemplate
  have hvalid : key.isValid = true := hkey ▸ Job.key_isValid_of_sanitize hsanitize
  have hidle : w.live.findTasks (TaskQuery.ofJob key).active = [] := by
    rw [List.eq_nil_iff_forall_not_mem]
    intro t ht
    rw [Store.mem_findTasks rfl, TaskQuery.ofJob_active_isMetBy] at ht
    obtain ⟨⟨id, hid⟩, hjob, hactive⟩ := ht
    rw [h.idle id t hid hjob] at hactive
    cases hactive
  obtain ⟨sanitized, hsanitized⟩ : ∃ sanitized, Sanitized.ofJob template = .ok sanitized := by
    rw [Sanitized.ofJob, hsanitize]
    exact ⟨_, rfl⟩
  exact ⟨hvalid, sanitized.tasks,
    Store.cronLaunch_eq_ok.mpr ⟨template, htemplate, hidle, sanitized, hsanitized, rfl⟩⟩

/-- What has to be so that a start is answered with success. -/
theorem startable_iff (hs : w.live.Accepted) :
    (w.dispatch env (.command (.startCronJob key) credential)).2.code = .ok
      ↔ w.Startable env key credential := by
  constructor
  · intro hok
    obtain ⟨w₁, log, hattempt, -⟩ := attempt_of_ok hok
    obtain ⟨-, p, hp, hdone⟩ := attempt_command_eq_ok.mp hattempt
    obtain ⟨template, htemplate, -, hrunning, -⟩ := launch_of_startCronJob hs hdone
    refine ⟨⟨p, hp⟩, ⟨template, htemplate⟩, fun id t ht hkey => ?_⟩
    rw [Bool.eq_false_iff] at hrunning ⊢
    exact fun hactive => hrunning (Store.isRunning_eq_true.mpr ⟨id, t, ht, hkey, hactive⟩)
  · intro h
    obtain ⟨p, hp⟩ := h.authorized
    obtain ⟨hvalid, specs, hspecs⟩ := h.cronLaunch hs
    have hdone : w.startCronJob env key
        = .ok (w.launch env ⟨w.nowMs, none⟩ specs, .done "Cron run started." []) :=
      startCronJob_eq_ok.mpr ⟨hvalid, specs, hspecs, rfl, rfl⟩
    have hattempt := (attempt_of_authorized rfl hp).trans hdone
    rw [(dispatch_of_done hattempt).1]
    rfl

theorem Answered.live_of_not_started {w' : World} {r : Response}
    (h : Answered env w.live w (.command (.startCronJob key) credential) w' r)
    (hok : r.code ≠ .ok) : w'.live = w.live := by
  cases h with
  | refused => rfl
  | carried _ _ hdone =>
      obtain ⟨-, specs, -, -, rfl⟩ := startCronJob_eq_ok.mp hdone
      exact absurd rfl hok

section Start

variable (hw : w.Reachable env)
  (hfresh : env.Fresh (w.dispatch env (.command (.startCronJob key) credential)).1.issued)
include hw hfresh

/-- A start adds tasks of its job. -/
theorem exists_new_of_started
    (hok : (w.dispatch env (.command (.startCronJob key) credential)).2.code = .ok) :
    ∃ (id : String) (t : Task), w.live.tasks[id]? = none ∧ t.jobKey = key
      ∧ (w.dispatch env (.command (.startCronJob key) credential)).1.live.tasks[id]? = some t := by
  obtain ⟨template, count, htemplate, hcount, hkey, store, log, hgains, hafter⟩ :=
    launched_of_startCronJob hw hok hfresh
  obtain ⟨-, hsanitize, -⟩ := hw.accepted.live.of_job? htemplate
  have hpos := Job.instanceCount_pos_of_sanitize hsanitize
  obtain ⟨id, ⟨hnone, t, ht, -⟩, -⟩ := hgains.each 0 ⟨by decide, by rw [← hcount]; exact hpos⟩
  refine ⟨id, t, hnone, ?_, ?_⟩
  · rw [← hkey, Task.jobKey, (hgains.new id t hnone ht).2.1.spec]
  · rw [hafter]
    exact ht

theorem kept_of_startCronJob {id : String} {t : Task} (ht : w.live.tasks[id]? = some t) :
    (w.dispatch env (.command (.startCronJob key) credential)).1.live.tasks[id]? = some t := by
  by_cases hok : (w.dispatch env (.command (.startCronJob key) credential)).2.code = .ok
  · obtain ⟨template, count, -, -, -, store, log, hgains, hafter⟩ :=
      launched_of_startCronJob hw hok hfresh
    rw [hafter]
    exact hgains.kept id t ht
  · rw [answered_dispatch.live_of_not_started hok]
    exact ht

end Start

/-- **A start does not ask for a lock.** Locked or not, a job gains tasks
whenever its caller may act for its role, it has a template and none of its
tasks is active, and otherwise it is left alone. The tasks that it had
before, and those of all others, are never changed. -/
theorem left_alone_unless_startable (hw : w.Reachable env) (key : JobKey)
    (credential : Option Credential) :
    let done := w.dispatch env (.command (.startCronJob key) credential)
    env.Fresh done.1.issued →
    (w.live.LeavesAlone key done.1.live ↔ ¬ w.Startable env key credential)
      ∧ (done.2.code = .ok ↔ w.Startable env key credential)
      ∧ ∀ (id : String) (t : Task), w.live.tasks[id]? = some t →
        done.1.live.tasks[id]? = some t := by
  intro done hfresh
  have hstartable : done.2.code = .ok ↔ w.Startable env key credential :=
    startable_iff hw.accepted.live
  refine ⟨⟨fun halone hstart => ?_, fun hnot => ?_⟩, hstartable,
    fun _ _ => kept_of_startCronJob hw hfresh⟩
  · obtain ⟨id, t, hnone, hkey, ht⟩ := exists_new_of_started hw hfresh (hstartable.mpr hstart)
    have hold := (halone.tasks id t hkey).mp ht
    rw [hnone] at hold
    cases hold
  · have hsame : done.1.live = w.live :=
      answered_dispatch.live_of_not_started fun hok => hnot (hstartable.mp hok)
    rw [hsame]
    exact .refl

/-! ## A locked report -/

/-- There is a template of the reports, and Alice has locked them. -/
def reportsLocked : World :=
  (start 0 0 ∅ .empty).run colleagues
    ([.scheduleCronJob midnightReports none, .acquireLock midnightReports.key].map
      fun c => .request (.command c (some (.apiKey "alice"))))

/-- Bob, who has no lock, starts the reports. -/
def bobStarts (w : World) : World × Response :=
  w.dispatch colleagues (.command (.startCronJob midnightReports.key) (some (.apiKey "bob")))

theorem reachable_reportsLocked : reportsLocked.Reachable colleagues :=
  ⟨0, 0, ∅, _, fun _ _ => trivial, rfl⟩

/-- The lock, three tasks and no more have taken a token. -/
theorem seen_reportsLocked :
    (reportsLocked.live.lock? midnightReports.key).map Lock.user = some "alice"
      ∧ (bobStarts reportsLocked).2.code = .ok
      ∧ (bobStarts reportsLocked).1.issued = 4
      ∧ (bobStarts (bobStarts reportsLocked).1).2.code = .invalidRequest
      ∧ (bobStarts (bobStarts reportsLocked).1).1.issued = 4 := by
  decide +kernel

theorem fresh_of_issued {n : Nat} (h : n = 4) : colleagues.Fresh n := by
  subst h
  exact Environment.fresh_of_freshToken rfl (by decide)

/-- The locked reports are not left alone when Bob starts them; but they are
when he starts them once more, as the first run is still active. -/
theorem left_alone_when_running :
    (reportsLocked.live.lock? midnightReports.key).map Lock.user = some "alice"
      ∧ ¬ reportsLocked.live.LeavesAlone midnightReports.key (bobStarts reportsLocked).1.live
      ∧ (bobStarts reportsLocked).1.live.LeavesAlone midnightReports.key
          (bobStarts (bobStarts reportsLocked).1).1.live := by
  obtain ⟨hlocked, hok, hissued, hagain, hissuedAgain⟩ := seen_reportsLocked
  have hstarted : (bobStarts reportsLocked).1.Reachable colleagues :=
    reachable_reportsLocked.dispatch
  obtain ⟨halone, hstartable, -⟩ := left_alone_unless_startable reachable_reportsLocked
    midnightReports.key (some (.apiKey "bob")) (fresh_of_issued hissued)
  obtain ⟨haloneAgain, hstartableAgain, -⟩ := left_alone_unless_startable hstarted
    midnightReports.key (some (.apiKey "bob")) (fresh_of_issued hissuedAgain)
  refine ⟨hlocked, fun h => halone.mp h (hstartable.mp hok), haloneAgain.mpr fun h => ?_⟩
  have hcode : (bobStarts (bobStarts reportsLocked).1).2.code = .ok := hstartableAgain.mpr h
  rw [hagain] at hcode
  cases hcode

/-- A lock does not always protect its job from a start. -/
theorem not_always_left_alone : ¬ ∀ (env : Environment) (w : World) (lock : Lock) (key : JobKey)
    (credential : Option Credential), w.Reachable env → w.live.lock? key = some lock →
    env.Fresh (w.dispatch env (.command (.startCronJob key) credential)).1.issued →
    w.live.LeavesAlone key (w.dispatch env (.command (.startCronJob key) credential)).1.live := by
  intro halways
  obtain ⟨hlocked, hok, hissued, -, -⟩ := seen_reportsLocked
  obtain ⟨lock, hlock, -⟩ := Option.map_eq_some_iff.mp hlocked
  have halone := halways colleagues reportsLocked lock midnightReports.key
    (some (.apiKey "bob")) reachable_reportsLocked hlock (fresh_of_issued hissued)
  obtain ⟨id, t, hnone, hkey, ht⟩ :=
    exists_new_of_started reachable_reportsLocked (fresh_of_issued hissued) hok
  have hold := (halone.tasks id t hkey).mp ht
  rw [hnone] at hold
  cases hold

end World

end JobControl
