import JobControl.Proofs.CompareAndSwap
import JobControl.Proofs.FreshTokens

/-!
# The cron manager among others

A job may be filed under several managers, each with a template of its own.
The cron manager looks for a job among its own templates only, and where it
files one or starts a run it changes nothing that belongs to another
manager: `OwnOnly` says what it may touch, which is the one template, and
new tasks.

To delete is the exception. The template is looked for under the cron
manager, but taken out wherever it is filed, so that the others lose theirs
as well; `ownOnly_removeJob_iff` says when there is nothing to lose.
-/

namespace JobControl

namespace Store

variable {s s' : Store} {key : JobKey} {job : Sanitized}

/-- The cron manager keeps to its own: nothing is changed but the template
that it has filed under a key, and tasks are at most added. -/
structure OwnOnly (key : JobKey) (s s' : Store) : Prop where
  templates : ∀ manager name, manager ≠ cronManager ∨ name ≠ key.canonical →
    s'.filedJob? manager name = s.filedJob? manager name
  tasks : ∀ (id : String) (t : Task), s.tasks[id]? = some t → s'.tasks[id]? = some t
  locks : s'.locks = s.locks
  quotas : s'.quotas = s.quotas

theorem ownOnly_saveJob {job : Job} : s.OwnOnly job.key (s.saveJob cronManager job) where
  templates manager name hother := by
    rw [filedJob?_saveJob, if_neg]
    rintro ⟨rfl, rfl⟩
    exact hother.elim (absurd rfl) (absurd rfl)
  tasks _ _ ht := ht
  locks := rfl
  quotas := rfl

theorem ownOnly_createCronJob (h : s.createCronJob job = .ok s') :
    s.OwnOnly job.job.key s' ∧ s'.tasks = s.tasks := by
  obtain ⟨-, -, rfl⟩ := createCronJob_eq_ok.mp h
  exact ⟨ownOnly_saveJob, rfl⟩

theorem ownOnly_updateCronJob (h : s.updateCronJob job = .ok s') :
    s.OwnOnly job.job.key s' ∧ s'.tasks = s.tasks := by
  obtain ⟨-, -, rfl⟩ := updateCronJob_eq_ok.mp h
  exact ⟨ownOnly_saveJob, rfl⟩

theorem ownOnly_saveTasks {tasks : List Task} (hnew : ∀ t ∈ tasks, s.tasks[t.id]? = none) :
    s.OwnOnly key (s.saveTasks tasks) where
  templates _ _ _ := rfl
  tasks _ _ ht := getElem?_saveTasks_of_new hnew ht
  locks := rfl
  quotas := rfl

/-- Taking out a template leaves the other managers alone if they have none
to lose. -/
theorem ownOnly_removeJob_iff : s.OwnOnly key (s.removeJob key) ↔
    ∀ manager ≠ cronManager, s.filedJob? manager key.canonical = none := by
  constructor
  · intro h manager hother
    rw [← h.templates manager key.canonical (Or.inl hother), filedJob?_removeJob, if_pos rfl]
  · intro hnone
    refine ⟨fun manager name hother => ?_, fun _ _ ht => ht, rfl, rfl⟩
    rw [filedJob?_removeJob]
    split
    · rename_i hname
      subst hname
      exact (hnone manager (hother.resolve_right (absurd rfl))).symm
    · rfl

end Store

namespace World

variable {env : Environment} {w w' : World} {key : JobKey}

/-- A run that is started adds tasks of the job, as long as the tokens are
fresh that they take. -/
theorem ownOnly_launchCronJob (h : w.launchCronJob env key = .ok w')
    (hunspent : ∀ i, w.issued < i → i ≤ w'.issued → w.live.Unspent (env.token i)) :
    w.live.OwnOnly key w'.live ∧ w'.live.jobs = w.live.jobs
      ∧ ∀ (id : String) (t : Task), w'.live.tasks[id]? = some t →
        w.live.tasks[id]? = some t ∨ t.jobKey = key := by
  obtain ⟨specs, hspecs, rfl⟩ := launchCronJob_eq_ok.mp h
  refine ⟨Store.ownOnly_saveTasks fun t ht => unfiled_of_unspent hunspent ht, rfl,
    fun id t ht => ?_⟩
  rcases Store.of_getElem?_saveTasks ht with ⟨hnew, -⟩ | hold
  · obtain ⟨i, x, hx, rfl⟩ := Store.mem_waitingTasks.mp hnew
    exact Or.inr ((Store.ready_of_cronLaunch hspecs).ofJob x (List.mem_of_getElem? hx))
  · exact Or.inl hold

/-- **What belongs to other managers is left alone**, but for what is filed
under the key of a template that is deleted. To file a template and to
replace one changes that template only; a run that is started adds tasks of
its job, if its tokens are fresh, and changes nothing else; to delete a
template leaves all the tasks, and changes that template only if no other
manager has filed one under its key. -/
theorem cron_manager_keeps_to_its_own (w : World) :
    (∀ job s', w.live.createCronJob job = .ok s' →
        w.live.OwnOnly job.job.key s' ∧ s'.tasks = w.live.tasks)
      ∧ (∀ job s', w.live.updateCronJob job = .ok s' →
        w.live.OwnOnly job.job.key s' ∧ s'.tasks = w.live.tasks)
      ∧ (∀ key w', w.launchCronJob env key = .ok w' →
        (∀ i, w.issued < i → i ≤ w'.issued → w.live.Unspent (env.token i)) →
        w.live.OwnOnly key w'.live ∧ w'.live.jobs = w.live.jobs
          ∧ ∀ (id : String) (t : Task), w'.live.tasks[id]? = some t →
            w.live.tasks[id]? = some t ∨ t.jobKey = key)
      ∧ (∀ key s', w.live.deleteCronJob key = some s' → s'.tasks = w.live.tasks
        ∧ (w.live.OwnOnly key s' ↔
          ∀ manager ≠ cronManager, w.live.filedJob? manager key.canonical = none)) := by
  refine ⟨fun _ _ => Store.ownOnly_createCronJob, fun _ _ => Store.ownOnly_updateCronJob,
    fun _ _ => ownOnly_launchCronJob, fun key s' hdelete => ?_⟩
  obtain ⟨-, rfl⟩ := Store.deleteCronJob_eq_some.mp hdelete
  exact ⟨rfl, Store.ownOnly_removeJob_iff⟩

/-! ## A report of two managers -/

/-- The nightly report is looked after by the cron manager and by another
one, and was made before. -/
def reportShared : Store :=
  let s := (Store.empty.saveJob cronManager report).saveJob "AUDIT" report
  s.saveTasks [{ Task.waiting report.task 0 0 "last" none with status := .finished }]

theorem filedJob?_reportShared :
    reportShared.filedJob? "AUDIT" report.key.canonical = some report :=
  Store.filedJob?_saveJob.trans (if_pos ⟨rfl, rfl⟩)

theorem unspent_reportShared {i : Nat} (hi : i < 2 ^ 62) :
    reportShared.Unspent (rootOnly.token i) := by
  rintro id t ht head rfl
  have hold : (head ++ Text.freshToken i).length < 36 := by
    rcases Store.of_getElem?_saveTasks ht with ⟨hmem, hid⟩ | hnone
    · obtain rfl := List.mem_singleton.mp hmem
      rw [← show _ = head ++ Text.freshToken i from hid]
      decide +kernel
    · simp [Store.saveJob] at hnone
  rw [String.length_append, Text.length_freshToken hi] at hold
  omega

/-- The other manager keeps its template of the report, and the last run is
kept, when the report is made again; but when the cron manager drops the
report, the other template is lost. -/
theorem cron_manager_keeps_to_its_own_shared :
    let w := start 0 0 ∅ reportShared
    ∃ w' s', w.launchCronJob rootOnly report.key = .ok w'
      ∧ (∀ i, w.issued < i → i ≤ w'.issued → w.live.Unspent (rootOnly.token i))
      ∧ w.live.OwnOnly report.key w'.live
      ∧ w'.live.filedJob? "AUDIT" report.key.canonical = some report
      ∧ w'.live.tasks.size = 2
      ∧ w.live.deleteCronJob report.key = some s' ∧ ¬ w.live.OwnOnly report.key s' := by
  intro w
  obtain ⟨-, -, hlaunch, hdelete⟩ := @cron_manager_keeps_to_its_own rootOnly w
  have hlaunched : ((w.launchCronJob rootOnly report.key).toOption.map
      fun w' => (w'.issued, w'.live.tasks.size)) = some (1, 2) := by decide +kernel
  have hdeleted : (w.live.deleteCronJob report.key).isSome = true := by decide +kernel
  obtain ⟨s', hs'⟩ := Option.isSome_iff_exists.mp hdeleted
  cases hw' : w.launchCronJob rootOnly report.key with
  | error refusal =>
      rw [hw'] at hlaunched
      cases hlaunched
  | ok w' =>
      rw [hw'] at hlaunched
      obtain ⟨hissued, hsize⟩ := Prod.mk.inj (Option.some.inj hlaunched)
      have hunspent : ∀ i, w.issued < i → i ≤ w'.issued →
          w.live.Unspent (rootOnly.token i) := fun i _ hi => unspent_reportShared (by omega)
      have hfiled := filedJob?_reportShared
      have hother : "AUDIT" ≠ cronManager := by decide
      obtain ⟨hown, -⟩ := hlaunch report.key w' hw' hunspent
      refine ⟨w', s', rfl, hunspent, hown, ?_, hsize, hs', fun hkept => ?_⟩
      · exact (hown.templates "AUDIT" _ (Or.inl hother)).trans hfiled
      · exact absurd (hfiled.symm.trans ((hdelete report.key s' hs').2.mp hkept "AUDIT" hother))
          (Option.some_ne_none _)

/-- The cron manager does not always keep to its own when it drops a
template, though everything is filed under its own name. -/
theorem not_always_its_own : ¬ ∀ (s : Store) (key : JobKey) (s' : Store),
    s.Filed → s.deleteCronJob key = some s' → s.OwnOnly key s' := by
  intro hown
  have hdeleted : (reportShared.deleteCronJob report.key).isSome = true := by decide +kernel
  obtain ⟨s', hs'⟩ := Option.isSome_iff_exists.mp hdeleted
  have hkept := hown reportShared report.key s' Store.Filed.empty.saveJob.saveJob.saveTasks hs'
  obtain ⟨-, rfl⟩ := Store.deleteCronJob_eq_some.mp hs'
  have hnone := Store.ownOnly_removeJob_iff.mp hkept "AUDIT" (by decide)
  exact absurd (filedJob?_reportShared.symm.trans hnone) (Option.some_ne_none _)

end World

end JobControl
