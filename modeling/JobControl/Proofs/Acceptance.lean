import JobControl.Proofs.Identifiers

/-!
# What is stored has been accepted

Every way into the store leads through the sanitizer: tasks are launched
from sanitized descriptions, templates are filed as sanitized jobs, and a
rewrite puts a sanitized description in place of another one. As
sanitizing again changes nothing, what is stored is what the sanitizer
would let through unchanged, and this outlives backups, recoveries and
everything that only moves tasks.

Two consequences are used later on. An accepted description asks for
memory and disk, never for less than nothing. And a stored template has a
valid key and stands under the manager of cron jobs only, so that there
is never a second template of the same job.
-/

namespace JobControl

namespace Store

variable {s s' : Store} {key : JobKey} {manager : String}

/-- Sanitizing leaves everything that is stored as it is, and templates
stand under the manager of cron jobs only. -/
structure Accepted (s : Store) : Prop where
  tasks : ∀ (id : String) (t : Task), s.tasks[id]? = some t → t.spec.sanitize = .ok t.spec
  jobs : ∀ manager name job, s.filedJob? manager name = some job →
    manager = cronManager ∧ job.sanitize = .ok job

namespace Accepted

theorem empty : Accepted .empty where
  tasks _ _ h := by simp at h
  jobs _ _ _ h := by simp [filedJob?] at h

/-! ## Operations of the store -/

theorem launch {specs : List (Int32 × TaskSpec)} {stamp : Stamp} {token : Nat → String}
    (hs : s.Accepted) (hready : s.Ready key specs) :
    (s.saveTasks (waitingTasks stamp token specs)).Accepted where
  tasks id t ht := by
    rcases of_getElem?_saveTasks ht with ⟨hnew, -⟩ | hold
    · obtain ⟨i, x, hx, rfl⟩ := mem_waitingTasks.mp hnew
      exact hready.accepted x (List.mem_of_getElem? hx)
    · exact hs.tasks id t hold
  jobs := hs.jobs

/-- A task that moves runs what it ran before. -/
theorem moveTasks {stamp : Stamp} {q : TaskQuery} {message : Option String}
    {next : Status → Option Status} (hs : s.Accepted) :
    (s.moveTasks stamp q message next).1.Accepted where
  tasks id t' ht' := by
    obtain ⟨t, ht, rfl | ⟨-, status, -, rfl⟩⟩ := of_getElem?_moveTasks ht'
    · exact hs.tasks id _ ht
    · exact hs.tasks id t ht
  jobs := hs.jobs

theorem deleteTasks {ids : List String} (hs : s.Accepted) : (s.deleteTasks ids).Accepted where
  tasks id t ht := by
    rw [getElem?_deleteTasks] at ht
    split at ht
    · cases ht
    · exact hs.tasks id t ht
  jobs := hs.jobs

theorem saveJob {job : Job} (hs : s.Accepted) (hmanager : manager = cronManager)
    (hjob : job.sanitize = .ok job) : (s.saveJob manager job).Accepted where
  tasks := hs.tasks
  jobs m name j h := by
    rw [filedJob?_saveJob] at h
    split at h
    · rename_i hsame
      cases h
      exact ⟨hsame.1 ▸ hmanager, hjob⟩
    · exact hs.jobs m name j h

theorem removeJob (hs : s.Accepted) : (s.removeJob key).Accepted where
  tasks := hs.tasks
  jobs m name j h := by
    rw [filedJob?_removeJob] at h
    split at h
    · cases h
    · exact hs.jobs m name j h

theorem replaceSpec {id : String} {spec : TaskSpec} (hs : s.Accepted)
    (hspec : spec.sanitize = .ok spec) (h : s.replaceSpec id spec = some s') : s'.Accepted := by
  obtain ⟨t, ht, rfl⟩ := replaceSpec_eq_some.mp h
  refine ⟨fun other u hu => ?_, hs.jobs⟩
  rw [Table.getElem?_insert] at hu
  split at hu
  · cases hu
    exact hspec
  · exact hs.tasks other u hu

/-- A template that a manager has for a job is filed under some name. -/
theorem of_job? {job : Job} (hs : s.Accepted) (h : s.job? manager key = some job) :
    manager = cronManager ∧ job.sanitize = .ok job ∧ job.key = key := by
  obtain ⟨name, hname⟩ := mem_jobsOf.mp (List.mem_of_find?_eq_some h)
  obtain ⟨hmanager, hjob⟩ := hs.jobs _ _ _ hname
  exact ⟨hmanager, hjob, by simpa using List.find?_some h⟩

theorem applied {command : Rewrite} (hs : s.Accepted) (h : Applied command s s') :
    s'.Accepted := by
  cases h with
  | @job _ expected replacement stored job manager hjob hkey howner honly hsame =>
      have hmem : (manager, stored) ∈ s.templatesOf expected.key := by simp [honly]
      obtain ⟨m, hm, hfound⟩ := List.mem_filterMap.mp hmem
      obtain ⟨found, hfound, heq⟩ := Option.map_eq_some_iff.mp hfound
      cases heq
      exact hs.saveJob (hs.of_job? hfound).1 (Job.sanitize_of_sanitize hjob)
  | task hspec _ _ hreplaced =>
      exact hs.replaceSpec (TaskSpec.sanitize_of_sanitize hspec) hreplaced

/-! ## Templates and tasks -/

/-- The task of a stored template is an accepted description, of the job
that the template is of. -/
theorem template {name : String} {job : Job} (hs : s.Accepted)
    (h : s.filedJob? manager name = some job) : job.key.isValid = true
      ∧ job.task.sanitize = .ok job.task ∧ job.task.jobKey = job.key := by
  obtain ⟨-, hjob⟩ := hs.jobs _ _ _ h
  exact ⟨Job.key_isValid_of_sanitize hjob, Job.task_sanitize_of_sanitize hjob,
    Job.taskKey_of_sanitize hjob⟩

end Accepted

end Store

namespace World

variable {env : Environment} {w : World} {p : Principal} {c : Command} {store : Store}
  {issued : Nat}

theorem accepted_of_change (h : Change env w p c store issued) (hs : w.live.Accepted) :
    store.Accepted := by
  cases h with
  | launched _ hready => exact hs.launch hready
  | filed _ hjob => exact hs.saveJob rfl hjob
  | removed => exact hs.removeJob
  | killed | restarted | forced => exact hs.moveTasks
  | released =>
      refine ⟨?_, fun manager name job hfiled => ?_⟩
      · rw [Store.tasks_releaseLock]
        exact hs.tasks
      · rw [Store.filedJob?_releaseLock] at hfiled
        exact hs.jobs manager name job hfiled
  | rewritten hbatch => exact hbatch.keeps (fun _ _ _ _ happly h => h.applied happly) hs
  | locked | unlocked | allotted => exact ⟨hs.tasks, hs.jobs⟩

theorem lasting_accepted : Lasting env (fun _ => True) fun _ => Store.Accepted where
  empty _ := .empty
  mono _ h := h
  change _ h hs := accepted_of_change h hs
  deleteTasks _ hs := hs.deleteTasks

/-- **In every reached world everything stored has been accepted.** -/
theorem Reachable.accepted (h : w.Reachable env) : w.Everywhere Store.Accepted :=
  lasting_accepted.everywhere h

end World

end JobControl
