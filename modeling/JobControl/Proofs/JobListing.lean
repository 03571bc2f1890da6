import JobControl.Proofs.Consumption
import JobControl.Proofs.Representation
import Mathlib.Data.List.Induction

/-!
# Which jobs there are

Whether a job exists is decided twice. Who creates a job is refused if one
of its tasks is active or any manager has a template of it; the listing
goes through all active tasks and the templates of cron jobs, and makes up
an entry for each key that it comes across. The two agree in every reached
world, because there are no templates but those of cron jobs.

A listing is a `ledger`: for each key of a task or a template, what the
template says and what the tasks of that key show becomes an entry. It is
known by its entries: `listed?` is what the listing has for a key, and a job
is in the listing exactly if it is what `listed?` has for its own key. A
launch changes the entry of one key only.
-/

namespace JobControl

/-! ## A job as its tasks show it -/

theorem latestTask_concat {tasks : List Task} {t : Task} : latestTask (tasks ++ [t]) =
    match latestTask tasks with
    | none => some t
    | some b => if b.latestMs ≤ t.latestMs then some t else some b :=
  List.foldl_append

/-- The latest of some tasks is one of them. -/
theorem exists_latestTask {tasks : List Task} (h : tasks ≠ []) :
    ∃ t ∈ tasks, latestTask tasks = some t := by
  induction tasks using List.reverseRecOn with
  | nil => exact absurd rfl h
  | append_singleton tasks t ih =>
      rw [latestTask_concat]
      by_cases hnil : tasks = []
      · subst hnil
        exact ⟨t, by simp, rfl⟩
      · obtain ⟨b, hb, hlatest⟩ := ih hnil
        rw [hlatest]
        dsimp only
        split
        · exact ⟨t, by simp, rfl⟩
        · exact ⟨b, by simp [hb], rfl⟩

theorem exists_jobOfTasks {key : JobKey} {tasks : List Task} (h : tasks ≠ []) :
    ∃ t ∈ tasks, jobOfTasks key tasks = some ⟨key, t.spec.owner, none, t.spec,
      Int32.ofInt (min tasks.length Int32.maxValue.toInt)⟩ := by
  unfold jobOfTasks
  by_cases hactive : tasks.filter (·.status.isActive) = []
  · obtain ⟨t, ht, hlatest⟩ := exists_latestTask h
    refine ⟨t, ht, ?_⟩
    rw [hactive, hlatest]
    rfl
  · obtain ⟨t, ht, hlatest⟩ := exists_latestTask hactive
    refine ⟨t, (List.mem_filter.mp ht).1, ?_⟩
    rw [hlatest]
    rfl

theorem TaskQuery.everything_active_isMetBy {t : Task} :
    everything.active.isMetBy t = true ↔ t.status.isActive = true := by
  rw [isMetBy_iff]
  simp only [everything, active, Option.mem_def, mem_setOf, Status.mem_active,
    setOf_active_ne_empty, false_or, true_or, true_and, reduceCtorEq, false_implies,
    implies_true, and_true]

namespace Store

variable {s : Store} {role : Option String} {key other : JobKey} {j : Job} {tasks : List Task}
  {templates : List Job}

theorem templateOf_eq_none : templateOf key templates = none ↔ ∀ j ∈ templates, j.key ≠ key := by
  simp [templateOf]

theorem key_of_templateOf (h : templateOf key templates = some j) : j.key = key :=
  beq_iff_eq.mp (List.mem_filter.mp (List.mem_of_getLast? h)).2

theorem tasksOf_eq_nil : tasksOf key tasks = [] ↔ ∀ t ∈ tasks, t.jobKey ≠ key := by
  rw [tasksOf, List.filter_eq_nil_iff]
  simp only [beq_iff_eq, ne_eq]

theorem jobOfTasks_eq_none : jobOfTasks key tasks = none ↔ tasks = [] := by
  refine ⟨fun h => ?_, fun h => h ▸ rfl⟩
  by_contra hne
  obtain ⟨t, -, hsome⟩ := @exists_jobOfTasks key _ hne
  rw [h] at hsome
  cases hsome

theorem key_of_jobOfTasks (h : jobOfTasks key tasks = some j) : j.key = key := by
  obtain ⟨t, -, rfl⟩ := Option.map_eq_some_iff.mp h
  rfl

theorem mem_jobKeys : key ∈ jobKeys tasks templates ↔
    (∃ t ∈ tasks, t.jobKey = key) ∨ ∃ j ∈ templates, j.key = key := by
  rw [jobKeys, Std.ExtTreeSet.mem_toList, mem_setOf, List.mem_append, List.mem_map, List.mem_map]

/-! ## Ledgers -/

section Ledger

variable {β : Type} {entry : JobKey → Option Job → List Task → Option β} {keyOf : β → JobKey}

/-- The entries for all keys of tasks and templates, in the order of keys. -/
def ledger (entry : JobKey → Option Job → List Task → Option β) (tasks : List Task)
    (templates : List Job) : List β :=
  (jobKeys tasks templates).filterMap fun key =>
    entry key (templateOf key templates) (tasksOf key tasks)

/-- An entry is made for the key that it has, unless there is neither a
template nor a task. -/
structure Keyed (entry : JobKey → Option Job → List Task → Option β) (keyOf : β → JobKey) :
    Prop where
  key : ∀ {key template own b}, (∀ j ∈ template, j.key = key) →
    entry key template own = some b → keyOf b = key
  eq_none_iff : ∀ {key template own},
    entry key template own = none ↔ template = none ∧ own = []

variable (hentry : Keyed entry keyOf)
include hentry

theorem Keyed.of_entry {b : β}
    (hb : entry key (templateOf key templates) (tasksOf key tasks) = some b) : keyOf b = key :=
  hentry.key (fun _ hj => key_of_templateOf hj) hb

theorem Keyed.isSome_entry :
    (entry key (templateOf key templates) (tasksOf key tasks)).isSome = true ↔
      key ∈ jobKeys tasks templates := by
  rw [← not_iff_not, Option.not_isSome_iff_eq_none, hentry.eq_none_iff, templateOf_eq_none,
    tasksOf_eq_nil, mem_jobKeys]
  simp only [not_or, not_exists, not_and, ne_eq]
  exact and_comm

theorem Keyed.mem_ledger {b : β} : b ∈ ledger entry tasks templates ↔
    entry (keyOf b) (templateOf (keyOf b) templates) (tasksOf (keyOf b) tasks) = some b := by
  refine List.mem_filterMap.trans ⟨?_, fun h => ⟨keyOf b, ?_, h⟩⟩
  · rintro ⟨key, -, hb⟩
    rwa [hentry.of_entry hb]
  · rw [← hentry.isSome_entry, h]
    rfl

theorem Keyed.exists_mem_ledger :
    (∃ b ∈ ledger entry tasks templates, keyOf b = key) ↔ key ∈ jobKeys tasks templates := by
  rw [← hentry.isSome_entry, Option.isSome_iff_exists]
  constructor
  · rintro ⟨b, hb, rfl⟩
    exact ⟨b, hentry.mem_ledger.mp hb⟩
  · rintro ⟨b, hb⟩
    obtain rfl := hentry.of_entry hb
    exact ⟨b, hentry.mem_ledger.mpr hb, rfl⟩

/-- Entries are in the order of their keys, and there is one for each key. -/
theorem Keyed.pairwise_ledger : (ledger entry tasks templates).Pairwise
    fun b c => compare (keyOf b) (keyOf c) = .lt := by
  refine List.Pairwise.filterMap _ ?_ Std.ExtTreeSet.ordered_toList
  intro key other hlt b hb c hc
  rwa [hentry.of_entry hb, hentry.of_entry hc]

end Ledger

/-! ## The entries of the listing -/

/-- What is listed for a job: its template, or else what its tasks show. -/
def listedJob (key : JobKey) (template : Option Job) (own : List Task) : Option Job :=
  template <|> jobOfTasks key own

theorem keyed_listedJob : Keyed listedJob Job.key where
  key {key template own j} hkey hj := by
    cases template with
    | some job =>
        cases hj
        exact hkey _ rfl
    | none => exact key_of_jobOfTasks hj
  eq_none_iff {key template own} := by
    cases template with
    | some job => exact ⟨nofun, nofun⟩
    | none => exact jobOfTasks_eq_none.trans (and_iff_right rfl).symm

/-- What the listing has for a key. -/
def listed? (s : Store) (role : Option String) (key : JobKey) : Option Job :=
  templateOf key (s.cronJobsOf role)
    <|> jobOfTasks key (tasksOf key (s.findTasks (TaskQuery.ofRole? role).active))

theorem listed?_eq : s.listed? role key = (templateOf key (s.cronJobsOf role)).or
    (jobOfTasks key (tasksOf key (s.findTasks (TaskQuery.ofRole? role).active))) :=
  Option.orElse_eq_or

theorem listed?_eq_none : s.listed? role key = none ↔
    (∀ j ∈ s.cronJobsOf role, j.key ≠ key)
      ∧ ∀ t ∈ s.findTasks (TaskQuery.ofRole? role).active, t.jobKey ≠ key := by
  rw [← templateOf_eq_none, ← tasksOf_eq_nil]
  exact keyed_listedJob.eq_none_iff

theorem mem_jobListing : j ∈ s.jobListing role ↔ s.listed? role j.key = some j :=
  keyed_listedJob.mem_ledger

theorem isSome_listed? : (s.listed? role key).isSome = true ↔
    ∃ j ∈ s.jobListing role, j.key = key :=
  keyed_listedJob.isSome_entry.trans keyed_listedJob.exists_mem_ledger.symm

theorem pairwise_jobListing :
    (s.jobListing role).Pairwise fun i j => compare i.key j.key = .lt :=
  keyed_listedJob.pairwise_ledger

/-! ## Agreement -/

theorem mem_cronJobsOf_none : j ∈ s.cronJobsOf none ↔ j ∈ s.cronJobs := by
  simp [cronJobsOf, TaskQuery.admits]

theorem isRunning_iff_findTasks {q : TaskQuery} (hids : q.taskIds = ∅)
    (hq : ∀ t : Task, t.jobKey = key → (q.isMetBy t = true ↔ t.status.isActive = true)) :
    s.isRunning key = true ↔ ∃ t ∈ s.findTasks q, t.jobKey = key := by
  rw [isRunning_eq_true]
  constructor
  · rintro ⟨id, t, ht, hkey, hactive⟩
    exact ⟨t, (mem_findTasks hids).mpr ⟨⟨id, ht⟩, (hq t hkey).mpr hactive⟩, hkey⟩
  · rintro ⟨t, ht, hkey⟩
    obtain ⟨⟨id, ht⟩, hmet⟩ := (mem_findTasks hids).mp ht
    exact ⟨id, t, ht, hkey, (hq t hkey).mp hmet⟩

/-- The check looks for an active task of the job, and for a template. -/
theorem hasJob_eq_true : s.hasJob key = true ↔
    s.isRunning key = true ∨ ∃ j ∈ s.templates, j.key = key := by
  have hrunning : (!(s.findTasks (TaskQuery.ofJob key).active).isEmpty) = true
      ↔ s.isRunning key = true := by
    have hmet : ∀ t ∈ s.findTasks (TaskQuery.ofJob key).active, t.jobKey = key := fun t ht =>
      (TaskQuery.ofJob_active_isMetBy.mp ((mem_findTasks rfl).mp ht).2).1
    rw [isRunning_iff_findTasks rfl fun t ht => by
      rw [TaskQuery.ofJob_active_isMetBy, and_iff_right ht]]
    rw [Bool.not_eq_true', List.isEmpty_eq_false_iff_exists_mem]
    exact exists_congr fun t => ⟨fun ht => ⟨ht, hmet t ht⟩, And.left⟩
  have htemplate : (s.managers.any fun manager => (s.job? manager key).isSome) = true
      ↔ ∃ j ∈ s.templates, j.key = key := by
    simp only [List.any_eq_true, job?, List.find?_isSome, beq_iff_eq, templates, List.mem_flatMap]
    constructor
    · rintro ⟨manager, hmanager, j, hj, hkey⟩
      exact ⟨j, ⟨manager, hmanager, hj⟩, hkey⟩
    · rintro ⟨j, ⟨manager, hmanager, hj⟩, hkey⟩
      exact ⟨manager, hmanager, j, hj, hkey⟩
  rw [hasJob, Bool.or_eq_true, hrunning, htemplate]

/-- **A job exists exactly if it is listed.** -/
theorem hasJob_iff_listed (hs : s.Accepted) :
    s.hasJob key = true ↔ ∃ j ∈ s.jobListing none, j.key = key := by
  have hactive : ∀ t : Task, t.jobKey = key →
      ((TaskQuery.ofRole? none).active.isMetBy t = true ↔ t.status.isActive = true) :=
    fun _ _ => TaskQuery.everything_active_isMetBy
  rw [← isSome_listed?, hasJob_eq_true, templates_eq hs, isRunning_iff_findTasks rfl hactive,
    ← not_iff_not, Option.not_isSome_iff_eq_none, listed?_eq_none]
  simp only [mem_cronJobsOf_none, not_or, not_exists, not_and, ne_eq]
  exact and_comm

/-! ## A launch changes one entry -/

section Launch

variable {spec : TaskSpec} (h : s.Launches spec tasks)
include h

/-- What the new tasks do not meet is met by the same tasks as before, in
the same order. -/
theorem Launches.filter_values {p : Task → Bool} (hs : s.TasksFiled)
    (hp : ∀ t ∈ tasks, p t = false) :
    (s.saveTasks tasks).tasks.values.filter p = s.tasks.values.filter p := by
  have hnew : tasks.filter p = [] := List.filter_eq_nil_iff.mpr fun t ht => by simp [hp t ht]
  have hperm := (values_saveTasks_perm h.once h.new).filter p
  rw [List.filter_append, hnew, List.nil_append] at hperm
  have hfiled : (s.saveTasks tasks).TasksFiled := fun id t ht =>
    (of_getElem?_saveTasks ht).elim And.right (hs id t)
  refine List.Perm.eq_of_pairwise (fun t u _ _ hlt hgt => ?_) (hfiled.pairwise_values.filter p)
    (hs.pairwise_values.filter p) hperm
  exact absurd hgt (Std.OrientedCmp.not_lt_of_lt hlt)

theorem Launches.listed?_of_ne (hs : s.TasksFiled) (hne : spec.jobKey ≠ other) :
    (s.saveTasks tasks).listed? none other = s.listed? none other := by
  have htasks : tasksOf other ((s.saveTasks tasks).findTasks (TaskQuery.ofRole? none).active)
      = tasksOf other (s.findTasks (TaskQuery.ofRole? none).active) := by
    have hids : (TaskQuery.ofRole? none).active.taskIds = ∅ := rfl
    rw [tasksOf, tasksOf, findTasks_eq_filter hids, findTasks_eq_filter hids, List.filter_filter,
      List.filter_filter]
    refine h.filter_values hs fun t ht => ?_
    rw [Task.jobKey, (h.waiting t ht).1, beq_eq_false_iff_ne.mpr hne, Bool.false_and]
  rw [listed?_eq, listed?_eq, htasks]
  rfl

/-- The active tasks of a job that did not exist are the new ones. -/
theorem Launches.perm_tasksOf (hnone : ∀ t ∈ s.findTasks (TaskQuery.ofRole? none).active,
      t.jobKey ≠ spec.jobKey) :
    (tasksOf spec.jobKey ((s.saveTasks tasks).findTasks
      (TaskQuery.ofRole? none).active)).Perm tasks := by
  have hids : (TaskQuery.ofRole? none).active.taskIds = ∅ := rfl
  have hnew : tasks.filter (fun t =>
      t.jobKey == spec.jobKey && (TaskQuery.ofRole? none).active.isMetBy t) = tasks := by
    refine List.filter_eq_self.mpr fun t ht => ?_
    obtain ⟨hspec, hstatus⟩ := h.waiting t ht
    have hactive : (TaskQuery.ofRole? none).active.isMetBy t = true := by
      rw [TaskQuery.ofRole?, TaskQuery.everything_active_isMetBy, hstatus]
      rfl
    rw [hactive, Task.jobKey, hspec, beq_self_eq_true, Bool.true_and]
  have hold : s.tasks.values.filter (fun t =>
      t.jobKey == spec.jobKey && (TaskQuery.ofRole? none).active.isMetBy t) = [] := by
    rw [← List.filter_filter, ← findTasks_eq_filter hids, List.filter_eq_nil_iff]
    exact fun t ht => by simpa using hnone t ht
  have hperm := (values_saveTasks_perm h.once h.new).filter fun t =>
    t.jobKey == spec.jobKey && (TaskQuery.ofRole? none).active.isMetBy t
  rw [List.filter_append, hnew, hold, List.append_nil] at hperm
  rw [tasksOf, findTasks_eq_filter hids, List.filter_filter]
  exact hperm

/-- A job that did not exist is listed as its new tasks show it. -/
theorem Launches.listed?_self (hs : s.Accepted) (hnone : s.hasJob spec.jobKey = false) :
    (s.saveTasks tasks).listed? none spec.jobKey = some ⟨spec.jobKey, spec.owner, none, spec,
      Int32.ofInt (min tasks.length Int32.maxValue.toInt)⟩ := by
  have hunlisted : s.listed? none spec.jobKey = none := by
    rw [← Option.not_isSome_iff_eq_none, isSome_listed?, ← hasJob_iff_listed hs, hnone]
    nofun
  obtain ⟨htemplates, htasks⟩ := listed?_eq_none.mp hunlisted
  have hperm := h.perm_tasksOf htasks
  have hne : tasksOf spec.jobKey ((s.saveTasks tasks).findTasks
      (TaskQuery.ofRole? none).active) ≠ [] := fun hnil =>
    h.nonempty (List.nil_perm.mp (hnil ▸ hperm))
  obtain ⟨t, ht, hjob⟩ := @exists_jobOfTasks spec.jobKey _ hne
  have hspec : t.spec = spec := (h.waiting t (hperm.mem_iff.mp ht)).1
  have htemplate : templateOf spec.jobKey ((s.saveTasks tasks).cronJobsOf none) = none :=
    templateOf_eq_none.mpr htemplates
  rw [listed?_eq, htemplate, Option.none_or, hjob, hspec, hperm.length_eq]

end Launch

end Store

/-! ## Jobs that are created -/

theorem Job.task_owner_of_sanitize {j j' : Job} (h : j.sanitize = .ok j') :
    j'.task.owner = j'.owner := by
  obtain ⟨-, task, htask, rfl⟩ := sanitize_eq_ok.mp h
  rw [(TaskSpec.sanitize_eq_ok.mp htask).2]
  rfl

/-- The number of the instances of an accepted job can be told from how
many there are. -/
theorem ofInt_length_instanceIds {count : Int32} (h : 0 < count.toInt) :
    Int32.ofInt (min ((instanceIds count).length : Int) Int32.maxValue.toInt) = count := by
  have hle : count.toInt ≤ Int32.maxValue.toInt := count.toInt_le
  rw [length_instanceIds, Int.toNat_of_nonneg (Int.le_of_lt h), Int.min_eq_left hle,
    Int32.ofInt_toInt]

namespace World

variable {env : Environment} {w : World}

theorem dispatch_getJobs {role : Option String} (hw : w.Reachable env) :
    (w.dispatch env (.view (.getJobs role))).2 = .found (.jobs (w.live.jobListing role)) := by
  rw [← hw.committed_eq_live]
  rfl

/-- Whether there is the job already is looked at when its description and
its lock are in order. -/
theorem createJob_eq_jobExists {job : Job} {lock : Option Lock} {key : JobKey} :
    w.createJob env job lock = .error (.fault (.launch (.jobExists key))) ↔
      (∃ s, Sanitized.ofJob job = .ok s ∧ s.isCron = false ∧ s.job.key = key)
        ∧ w.live.checkLock key lock = .ok () ∧ w.live.hasJob key = true := by
  simp only [createJob, throw_bind, bind_eq_error, guard_eq_error, checked_eq_error,
    checked_eq_ok, exists_unit, pure_ne_error, Bool.not_eq_true, Refusal.fault.injEq,
    Fault.launch.injEq, LaunchRefusal.jobExists.injEq, reduceCtorEq, and_false, exists_false,
    false_or, or_false]
  constructor
  · rintro ⟨s, hs, hcron, hlock, hjob, rfl⟩
    exact ⟨⟨s, hs, hcron, rfl⟩, hlock, hjob⟩
  · rintro ⟨⟨s, hs, hcron, rfl⟩, hlock, hjob⟩
    exact ⟨s, hs, hcron, hlock, hjob, rfl⟩

theorem launches_of_createJob {job : Job} {lock : Option Lock} {credential : Option Credential}
    (hw : w.Reachable env)
    (hok : (w.dispatch env (.command (.createJob job lock) credential)).2.code = .ok)
    (hfresh : env.Fresh (w.dispatch env (.command (.createJob job lock) credential)).1.issued) :
    ∃ s tasks, Sanitized.ofJob job = .ok s ∧ w.live.hasJob s.job.key = false
      ∧ w.live.Launches s.job.task tasks
      ∧ tasks.length = (instanceIds s.job.instanceCount).length
      ∧ (w.dispatch env (.command (.createJob job lock) credential)).1.live
        = w.live.saveTasks tasks := by
  obtain ⟨w₁, log, hattempt, hafter⟩ := attempt_of_ok hok
  obtain ⟨-, p, -, hdone⟩ := attempt_command_eq_ok.mp hattempt
  obtain ⟨s, hs, -, -, hnone, -, rfl, -⟩ := createJob_eq_ok.mp hdone
  have hissued : (w.launch env w.stamp s.tasks).issued
      = w.issued + (instanceIds s.job.instanceCount).length := issued_launch
  rw [hafter] at hfresh ⊢
  change env.Fresh (w.launch env w.stamp s.tasks).issued at hfresh
  rw [hissued] at hfresh
  have hids := Job.instanceIds_ne_nil_of_sanitize (Sanitized.sanitize_of_ofJob hs)
  refine ⟨s, _, hs, hnone, hw.launches hids hfresh w.stamp s.job.task, ?_, rfl⟩
  rw [Store.length_waitingTasks, List.length_map]

end World

/-! ## The view and the check -/

/-- Two listings in the order of their keys are equal if they list the same. -/
theorem eq_of_pairwise_compare {α β : Type} [Ord β] [Std.TransOrd β] {f : α → β} {l l' : List α}
    (hl : l.Pairwise fun a b => compare (f a) (f b) = .lt)
    (hl' : l'.Pairwise fun a b => compare (f a) (f b) = .lt) (h : ∀ a, a ∈ l ↔ a ∈ l') :
    l = l' := by
  have honce : ∀ {l : List α}, (l.Pairwise fun a b => compare (f a) (f b) = .lt) → l.Nodup := by
    intro l hl
    refine hl.imp fun hlt heq => ?_
    rw [heq, Std.compare_self] at hlt
    cases hlt
  refine List.Perm.eq_of_pairwise (fun a b _ _ hlt hgt => ?_) hl hl'
    ((List.perm_ext_iff_of_nodup (honce hl) (honce hl')).mpr h)
  exact absurd hgt (Std.OrientedCmp.not_lt_of_lt hlt)

namespace Store

variable {s s' : Store} {job : Job}

theorem nodup_key_jobListing {role : Option String} : ((s.jobListing role).map Job.key).Nodup := by
  rw [List.Nodup, List.pairwise_map]
  refine pairwise_jobListing.imp fun hlt heq => ?_
  rw [heq, Std.compare_self] at hlt
  cases hlt

/-- The listing of a store that differs in one entry. -/
theorem jobListing_of_listed? (hself : s'.listed? none job.key = some job)
    (hnone : s.listed? none job.key = none)
    (hothers : ∀ key, job.key ≠ key → s'.listed? none key = s.listed? none key) :
    (s'.jobListing none).filter (job.key == ·.key) = [job]
      ∧ (s'.jobListing none).filter (job.key != ·.key) = s.jobListing none := by
  refine ⟨filter_eq_singleton nodup_key_jobListing (mem_jobListing.mpr hself), ?_⟩
  refine eq_of_pairwise_compare (pairwise_jobListing.filter _) pairwise_jobListing fun j => ?_
  rw [List.mem_filter, mem_jobListing, mem_jobListing, bne_iff_ne]
  by_cases hkey : job.key = j.key
  · rw [← hkey, hnone]
    simp
  · rw [hothers j.key hkey]
    exact and_iff_left hkey

end Store

namespace World

variable {env : Environment} {w : World}

/-- **Who asks for the jobs is told what the creation of a job goes by.** In
a reached world the listing is in the order of keys and has each key once;
it has the keys for which the check that a job is absent fails, and whose
jobs cannot be created for that reason. After a job was created, the
listing has it as it was accepted, without a schedule, and is otherwise
what it was. -/
theorem getJobs_agrees (hw : w.Reachable env) :
    ∃ listing, (w.dispatch env (.view (.getJobs none))).2 = .found (.jobs listing)
      ∧ listing.Pairwise (fun i j => compare i.key j.key = .lt)
      ∧ (∀ key, w.live.hasJob key = true ↔ ∃ j ∈ listing, j.key = key)
      ∧ (∀ job lock key,
        w.createJob env job lock = .error (.fault (.launch (.jobExists key))) ↔
          (∃ s, Sanitized.ofJob job = .ok s ∧ s.isCron = false ∧ s.job.key = key)
            ∧ w.live.checkLock key lock = .ok () ∧ ∃ j ∈ listing, j.key = key)
      ∧ ∀ job lock credential,
        let created := w.dispatch env (.command (.createJob job lock) credential)
        created.2.code = .ok → env.Fresh created.1.issued →
          ∃ s listing', Sanitized.ofJob job = .ok s
            ∧ (created.1.dispatch env (.view (.getJobs none))).2 = .found (.jobs listing')
            ∧ listing'.filter (s.job.key == ·.key) = [{ s.job with cronSchedule := none }]
            ∧ listing'.filter (s.job.key != ·.key) = listing := by
  have haccepted := hw.accepted.live
  refine ⟨w.live.jobListing none, dispatch_getJobs hw, Store.pairwise_jobListing,
    fun key => Store.hasJob_iff_listed haccepted, fun job lock key => ?_, ?_⟩
  · rw [createJob_eq_jobExists, Store.hasJob_iff_listed haccepted]
  · intro job lock credential created hok hfresh
    obtain ⟨s, tasks, hs, hnone, hlaunches, hlength, hlive⟩ := launches_of_createJob hw hok hfresh
    have hsanitize := Sanitized.sanitize_of_ofJob hs
    have hkey : s.job.task.jobKey = s.job.key := Job.taskKey_of_sanitize hsanitize
    have hself := hlaunches.listed?_self haccepted (hkey ▸ hnone)
    rw [hlength, ofInt_length_instanceIds (Job.instanceCount_pos_of_sanitize hsanitize), hkey,
      Job.task_owner_of_sanitize hsanitize] at hself
    have hunlisted : w.live.listed? none s.job.key = none := by
      rw [← Option.not_isSome_iff_eq_none, Store.isSome_listed?,
        ← Store.hasJob_iff_listed haccepted, hnone]
      nofun
    obtain ⟨hone, hothers⟩ := @Store.jobListing_of_listed? w.live (w.live.saveTasks tasks)
      { s.job with cronSchedule := none } hself hunlisted
      fun other hne => hlaunches.listed?_of_ne hw.filed.live.tasks (hkey ▸ hne)
    refine ⟨s, _, hs, dispatch_getJobs hw.dispatch, ?_, ?_⟩
    · rw [hlive]
      exact hone
    · rw [hlive]
      exact hothers

/-! ## A shop that opens again -/

/-- The shop with two tasks, which are killed or not. -/
def shop : Job := .plain ⟨"www-data", "prod", "shop"⟩ "alice" 2

/-- The tasks of the shop have been killed and are still there; web servers
run, and there is a template. -/
def shopClosed : World :=
  furnished.run rootOnly
    ([.createJob (.plain ⟨"www-data", "prod", "web"⟩ "alice" 1) none,
      .killTasks (TaskQuery.ofJob shop.key) none].map
        fun c => .request (.command c (some (.apiKey "root"))))

/-- The shop can be created again. -/
def shopOpened : World × Response :=
  shopClosed.dispatch rootOnly (.command (.createJob shop none) (some (.apiKey "root")))

theorem getJobs_agrees_when_shop_opens :
    shopClosed.live.tasks.size = 3
      ∧ ∃ listing, (shopClosed.dispatch rootOnly (.view (.getJobs none))).2 = .found (.jobs listing)
      ∧ (∃ j ∈ listing, j.key = ⟨"www-data", "prod", "web"⟩)
      ∧ (∃ j ∈ listing, j.key = nightlyJob.key) ∧ ¬(∃ j ∈ listing, j.key = shop.key)
      ∧ ∃ s listing', Sanitized.ofJob shop = .ok s
        ∧ (shopOpened.1.dispatch rootOnly (.view (.getJobs none))).2 = .found (.jobs listing')
        ∧ listing'.filter (s.job.key == ·.key) = [{ s.job with cronSchedule := none }]
        ∧ listing'.filter (s.job.key != ·.key) = listing := by
  have hreached : furnished.Reachable rootOnly := ⟨0, 0, ∅, _, fun _ _ => trivial, rfl⟩
  have hclosed : shopClosed.Reachable rootOnly := hreached.run fun _ _ => trivial
  obtain ⟨listing, hanswer, -, hlisted, -, hcreated⟩ := getJobs_agrees hclosed
  obtain ⟨hsize, hweb, hnightly, hshop⟩ : shopClosed.live.tasks.size = 3
      ∧ shopClosed.live.hasJob ⟨"www-data", "prod", "web"⟩ = true
      ∧ shopClosed.live.hasJob nightlyJob.key = true
      ∧ shopClosed.live.hasJob shop.key = false := by decide +kernel
  obtain ⟨hok, hissued⟩ : shopOpened.2.code = .ok ∧ shopOpened.1.issued = 6 := by decide +kernel
  have hfresh : rootOnly.Fresh shopOpened.1.issued := by
    rw [hissued]
    exact Environment.fresh_of_freshToken rfl (by decide)
  have hopened := hcreated shop none (some (.apiKey "root"))
  dsimp only at hopened
  rw [← shopOpened] at hopened
  refine ⟨hsize, listing, hanswer, (hlisted _).mp hweb, (hlisted _).mp hnightly, ?_,
    hopened hok hfresh⟩
  rw [← hlisted, hshop]
  nofun

end World

end JobControl
