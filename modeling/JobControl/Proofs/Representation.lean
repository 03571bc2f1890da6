import JobControl.Proofs.Acceptance
import JobControl.Proofs.FreshTokens

/-!
# What every store looks like

The tables of a store say some things twice: the name of an entry is also
in the entry. Nothing checks afterwards that they agree, yet what is looked
up by name relies on it. `Filed` is this agreement, and `Accepted` says of
tasks and templates that the sanitizer has nothing left to do. What is
still missing is about the tables themselves: the one table of a manager
goes when its last template goes, and an allotment is checked for negative
parts before it is stored, so that `Tidy` lasts as well.

The three together are `WellFormed`. It holds in the store, in the
committed copy, in every backup that is kept and in the staged copy.
-/

namespace JobControl

theorem Table.exists_of_ne_empty {α : Type} {t : Table α} (h : t ≠ ∅) :
    ∃ (name : String) (a : α), t[name]? = some a := by
  rw [ne_eq, Std.ExtTreeMap.eq_empty_iff_forall_not_mem] at h
  obtain ⟨name, hname⟩ := Classical.not_forall.mp h
  rw [Classical.not_not, Std.ExtTreeMap.mem_iff_isSome_getElem?] at hname
  exact ⟨name, Option.isSome_iff_exists.mp hname⟩

/-- A description that sanitizing leaves alone names its job in full: the
owner has the role of the key, and the task is of the owner and the job. -/
theorem Job.task_of_sanitize {j : Job} (h : j.sanitize = .ok j) : j.key.isValid = true
    ∧ j.owner.role = j.key.role ∧ j.task.owner = j.owner
    ∧ j.task.environment = j.key.environment ∧ j.task.jobName = j.key.name := by
  have htask : j.task = j.ownTask.populated :=
    (TaskSpec.sanitize_eq_ok.mp (ownTask_sanitize_of_sanitize h)).2
  refine ⟨key_isValid_of_sanitize h, owner_of_sanitize h, ?_, ?_, ?_⟩ <;> rw [htask] <;> rfl

theorem Resources.hasNegative_eq_false {r : Resources} :
    r.hasNegative = false ↔ ¬r.numCpus < 0 ∧ 0 ≤ r.ramMb ∧ 0 ≤ r.diskMb := by
  simp only [hasNegative, Bool.or_eq_false_iff, decide_eq_false_iff_not, Int64.not_lt,
    and_assoc]

namespace Store

variable {s s' : Store} {manager : String}

/-- No manager has an empty table, and no allotment is negative in part. -/
structure Tidy (s : Store) : Prop where
  jobs : ∀ (manager : String) (jobs : Table Job), s.jobs[manager]? = some jobs → jobs ≠ ∅
  quotas : ∀ (role : String) (quota : Resources), s.quotas[role]? = some quota →
    quota.hasNegative = false

namespace Tidy

theorem empty : Tidy .empty where
  jobs _ _ h := by simp at h
  quotas role quota h := by
    change (∅ : Table Resources)[role]? = _ at h
    rw [Std.ExtTreeMap.getElem?_empty] at h
    cases h

theorem saveJob {job : Job} (hs : s.Tidy) : (s.saveJob manager job).Tidy where
  jobs other jobs h := by
    change (s.jobs.insert manager _)[other]? = _ at h
    rw [Table.getElem?_insert] at h
    split at h
    · cases h
      exact Std.ExtTreeMap.insert_ne_empty
    · exact hs.jobs other jobs h
  quotas := hs.quotas

theorem removeJob {key : JobKey} (hs : s.Tidy) : (s.removeJob key).Tidy where
  jobs other jobs h := by
    simp only [Store.removeJob, Std.ExtTreeMap.getElem?_filter', Option.filter_eq_some_iff,
      Bool.not_eq_true', Std.ExtTreeMap.isEmpty_eq_false_iff] at h
    exact h.2
  quotas := hs.quotas

theorem saveQuota {role : String} {quota : Resources} (hs : s.Tidy)
    (hquota : quota.hasNegative = false) : (s.saveQuota role quota).Tidy where
  jobs := hs.jobs
  quotas other q h := by
    change (s.quotas.insert role quota)[other]? = _ at h
    rw [Table.getElem?_insert] at h
    split at h
    · cases h
      exact hquota
    · exact hs.quotas other q h

theorem applied {command : Rewrite} (hs : s.Tidy) (h : Applied command s s') : s'.Tidy := by
  cases h with
  | job => exact hs.saveJob
  | task _ _ _ hreplaced =>
      obtain ⟨t, -, rfl⟩ := replaceSpec_eq_some.mp hreplaced
      exact ⟨hs.jobs, hs.quotas⟩

end Tidy

/-- What a store looks like. -/
structure WellFormed (s : Store) : Prop where
  /-- A task is filed under its identifier, and is populated in full. -/
  tasks : ∀ (id : String) (t : Task), s.tasks[id]? = some t →
    t.id = id ∧ t.spec.sanitize = .ok t.spec
  /-- A lock is filed under the text of its key. -/
  locks : ∀ (name : String) (lock : Lock), s.locks[name]? = some lock →
    lock.key.canonical = name
  /-- There is no manager but that of cron jobs, and it has a template. -/
  managers : ∀ (manager : String) (jobs : Table Job), s.jobs[manager]? = some jobs →
    manager = cronManager ∧ jobs ≠ ∅
  /-- A template is filed under the text of its key, and is populated in full. -/
  templates : ∀ (manager : String) (jobs : Table Job) (name : String) (job : Job),
    s.jobs[manager]? = some jobs → jobs[name]? = some job →
    job.key.canonical = name ∧ job.sanitize = .ok job ∧ job.key.isValid = true
      ∧ job.owner.role = job.key.role ∧ job.task.owner = job.owner
      ∧ job.task.environment = job.key.environment ∧ job.task.jobName = job.key.name
  /-- No part of an allotment is less than nothing. -/
  quotas : ∀ (role : String) (quota : Resources), s.quotas[role]? = some quota →
    ¬quota.numCpus < 0 ∧ 0 ≤ quota.ramMb ∧ 0 ≤ quota.diskMb

theorem filedJob?_of_getElem? {jobs : Table Job} {name : String} {job : Job}
    (hjobs : s.jobs[manager]? = some jobs) (hjob : jobs[name]? = some job) :
    s.filedJob? manager name = some job := by
  rw [filedJob?, hjobs, Option.bind_some, hjob]

theorem Tidy.wellFormed (htidy : s.Tidy) (hfiled : s.Filed) (haccepted : s.Accepted) :
    s.WellFormed where
  tasks id t ht := ⟨hfiled.tasks id t ht, haccepted.tasks id t ht⟩
  locks := hfiled.locks
  managers manager jobs hjobs := by
    have hsome := htidy.jobs manager jobs hjobs
    obtain ⟨name, job, hjob⟩ := Table.exists_of_ne_empty hsome
    exact ⟨(haccepted.jobs _ _ _ (filedJob?_of_getElem? hjobs hjob)).1, hsome⟩
  templates manager jobs name job hjobs hjob := by
    have hstored := filedJob?_of_getElem? hjobs hjob
    have hsanitize := (haccepted.jobs _ _ _ hstored).2
    exact ⟨hfiled.jobs _ _ _ hstored, hsanitize, Job.task_of_sanitize hsanitize⟩
  quotas role quota hquota := Resources.hasNegative_eq_false.mp (htidy.quotas role quota hquota)

end Store

namespace World

variable {env : Environment} {w : World} {p : Principal} {c : Command} {store : Store}
  {issued : Nat}

theorem tidy_of_change (h : Change env w p c store issued) (hs : w.live.Tidy) :
    store.Tidy := by
  cases h with
  | filed => exact hs.saveJob
  | removed => exact hs.removeJob
  | allotted hquota => exact hs.saveQuota hquota
  | @released lock =>
      rcases w.live.releaseLock_cases lock with h | h <;> rw [h]
      · exact hs
      · exact ⟨hs.jobs, hs.quotas⟩
  | rewritten hbatch => exact hbatch.keeps (fun _ _ _ _ happly h => h.applied happly) hs
  | launched | killed | restarted | forced | locked | unlocked => exact ⟨hs.jobs, hs.quotas⟩

theorem lasting_tidy : Lasting env (fun _ => True) fun _ => Store.Tidy where
  empty _ := .empty
  mono _ h := h
  change _ h hs := tidy_of_change h hs
  deleteTasks _ hs := ⟨hs.jobs, hs.quotas⟩

/-- **In every reached world every store is well formed**, the live one,
the committed one, those of the backups and the staged one. -/
theorem wellFormed_everywhere (h : w.Reachable env) : w.Everywhere Store.WellFormed := by
  have htidy := lasting_tidy.everywhere h
  have hfiled := h.filed
  have haccepted := h.accepted
  exact {
    live := htidy.live.wellFormed hfiled.live haccepted.live
    committed := htidy.committed.wellFormed hfiled.committed haccepted.committed
    kept := fun b hb => (htidy.kept b hb).wellFormed (hfiled.kept b hb) (haccepted.kept b hb)
    staged := fun s hs =>
      (htidy.staged s hs).wellFormed (hfiled.staged s hs) (haccepted.staged s hs) }

theorem wellFormed_everywhere_furnished :
    furnished.vault.kept.length = 1
      ∧ furnished.vault.staged.map (fun s =>
        (s.tasks.size, s.jobs.keys, s.locks.keys, s.quotas.keys))
          = some (2, ["CRON"], ["www-data/prod/nightly"], ["www-data"])
      ∧ furnished.Everywhere Store.WellFormed := by
  have hkept : furnished.vault.kept.length = 1 := by decide +kernel
  have hstaged : furnished.vault.staged.map (fun s =>
      (s.tasks.size, s.jobs.keys, s.locks.keys, s.quotas.keys))
        = some (2, ["CRON"], ["www-data/prod/nightly"], ["www-data"]) := by
    decide +kernel
  exact ⟨hkept, hstaged, wellFormed_everywhere ⟨0, 0, ∅, _, fun _ _ => trivial, rfl⟩⟩

end World

end JobControl
