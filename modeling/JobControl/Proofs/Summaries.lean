import JobControl.Proofs.JobListing
import Mathlib.Data.Set.Card

/-!
# Every task is counted

Three views tell what there is: the listing of jobs, the summaries of jobs
with their tasks counted, and the summaries of roles with their jobs
counted. The first two are ledgers, with different entries. A role's own
ledger, made of the role's tasks and templates, is the part of the whole
ledger with the role's keys: neither a task nor a template is of another
role than its key.

What is counted is told apart from how it is counted: the numbers in the
views are those of the identifiers, the keys and the names that are filed.
Nothing is asked of the store.
-/

namespace JobControl

/-! ## Counting -/

theorem ncard_mem_list {α : Type} {l : List α} (honce : l.Nodup) :
    {a | a ∈ l}.ncard = l.length := by
  classical
  rw [← List.coe_toFinset, Set.ncard_coe_finset, List.toFinset_card_of_nodup honce]

theorem ncard_mem_setOf {α : Type} [Ord α] [Std.TransOrd α] [Std.LawfulEqOrd α]
    (items : List α) : {a | a ∈ items}.ncard = (setOf items).size := by
  rw [← Std.ExtTreeSet.length_toList, ← ncard_mem_list (nodup_toList _)]
  simp only [Std.ExtTreeSet.mem_toList, mem_setOf]

/-- The listing of a table has what is filed as often as it is filed. -/
theorem Table.countP_values {α : Type} {t : Table α} {p : α → Bool} :
    t.values.countP p = {name : String | ∃ a ∈ t[name]?, p a = true}.ncard := by
  have honce : ((t.toList.filter fun entry => p entry.2).map Prod.fst).Nodup := by
    rw [List.Nodup, List.pairwise_map]
    refine (Std.ExtTreeMap.distinct_keys_toList.filter _).imp fun h heq => h ?_
    rw [heq, Std.compare_self]
  rw [values_eq_map_toList, List.countP_map, List.countP_eq_length_filter,
    ← List.length_map Prod.fst]
  refine (ncard_mem_list honce).symm.trans (congrArg Set.ncard (Set.ext fun name => ?_))
  simp [Std.ExtTreeMap.mem_toList_iff_getElem?_eq_some]

theorem Table.exists_mem_values {α : Type} {t : Table α} {p : α → Prop} :
    (∃ a ∈ t.values, p a) ↔ ∃ name : String, ∃ a ∈ t[name]?, p a := by
  simp only [mem_values, Option.mem_def, ← exists_and_right]
  exact exists_comm

namespace JobStats

/-- How many tasks are counted. -/
def total (stats : JobStats) : Nat :=
  stats.active + stats.pending + stats.finished + stats.failed

/-- A task is counted where it is in its life, and nowhere else. -/
theorem total_ofTasks (tasks : List Task) : (ofTasks tasks).total = tasks.length := by
  have hone : ∀ status : Status, (if status.isActive && status != .pending then 1 else 0)
      + (if status == .pending then 1 else 0)
      + (if status == .finished || status == .killed then 1 else 0)
      + (if status == .failed || status == .lost then 1 else 0) = 1 := by
    intro status
    cases status <;> rfl
  induction tasks with
  | nil => rfl
  | cons t tasks ih =>
      have ht := hone t.status
      simp only [total, ofTasks, List.countP_cons, List.length_cons] at ih ⊢
      omega

end JobStats

/-! ## What a role has -/

theorem TaskQuery.isMetBy_of_role {q : TaskQuery} {role : String} (h : q.role = none) (t : Task) :
    ({ q with role := some role } : TaskQuery).isMetBy t = (t.role == role && q.isMetBy t) := by
  simp only [isMetBy, h, admits, Bool.true_and, Bool.and_assoc, Bool.beq_comm (a := role)]

namespace Store

variable {s : Store} {role : String} {key : JobKey} {tasks : List Task} {templates : List Job}

theorem findTasks_of_role {q : TaskQuery} (hids : q.taskIds = ∅) (h : q.role = none) :
    s.findTasks { q with role := some role } = (s.findTasks q).filter (·.role == role) := by
  have hids' : ({ q with role := some role } : TaskQuery).taskIds = ∅ := hids
  rw [findTasks_eq_filter hids, findTasks_eq_filter hids', List.filter_filter]
  exact List.filter_congr fun t _ => TaskQuery.isMetBy_of_role h t

theorem cronJobsOf_some : s.cronJobsOf (some role) =
    (s.cronJobsOf none).filter (·.key.role == role) := by
  rw [cronJobsOf, cronJobsOf, List.filter_filter]
  refine List.filter_congr fun j _ => ?_
  simp only [TaskQuery.admits, Bool.and_true]
  exact Bool.beq_comm

/-- What has a key has the role of the key. -/
theorem filter_key_filter_role {α : Type} {keyOf : α → JobKey} {l : List α}
    (h : key.role = role) :
    (l.filter fun a => (keyOf a).role == role).filter (keyOf · == key) =
      l.filter (keyOf · == key) := by
  rw [List.filter_filter]
  refine List.filter_congr fun a _ => ?_
  rw [Bool.and_eq_left_iff_imp, beq_iff_eq, beq_iff_eq]
  rintro rfl
  exact h

theorem tasksOf_filter_role (h : key.role = role) :
    tasksOf key (tasks.filter (·.role == role)) = tasksOf key tasks :=
  filter_key_filter_role h

theorem templateOf_filter_role (h : key.role = role) :
    templateOf key (templates.filter (·.key.role == role)) = templateOf key templates :=
  congrArg List.getLast? (filter_key_filter_role h)

theorem jobKeys_filter_role :
    jobKeys (tasks.filter (·.role == role)) (templates.filter (·.key.role == role)) =
      (jobKeys tasks templates).filter (·.role == role) := by
  refine eq_of_pairwise_compare (f := fun key : JobKey => key) Std.ExtTreeSet.ordered_toList
    (Std.ExtTreeSet.ordered_toList.filter _) fun key => ?_
  simp only [List.mem_filter, mem_jobKeys, beq_iff_eq]
  constructor
  · rintro (⟨t, ⟨ht, hrole⟩, rfl⟩ | ⟨j, ⟨hj, hrole⟩, rfl⟩)
    · exact ⟨Or.inl ⟨t, ht, rfl⟩, hrole⟩
    · exact ⟨Or.inr ⟨j, hj, rfl⟩, hrole⟩
  · rintro ⟨⟨t, ht, rfl⟩ | ⟨j, hj, rfl⟩, hrole⟩
    · exact Or.inl ⟨t, ⟨ht, hrole⟩, rfl⟩
    · exact Or.inr ⟨j, ⟨hj, hrole⟩, rfl⟩

/-- **The ledger of a role is the part of the whole ledger with the role's
keys.** -/
theorem Keyed.ledger_filter_role {β : Type} {entry : JobKey → Option Job → List Task → Option β}
    {keyOf : β → JobKey} (hentry : Keyed entry keyOf) :
    ledger entry (tasks.filter (·.role == role)) (templates.filter (·.key.role == role)) =
      (ledger entry tasks templates).filter fun b => (keyOf b).role == role := by
  rw [ledger, jobKeys_filter_role, ledger, List.filterMap_filter, List.filter_filterMap]
  refine List.filterMap_congr fun key _ => ?_
  by_cases h : key.role = role
  · rw [tasksOf_filter_role h, templateOf_filter_role h, if_pos (beq_iff_eq.mpr h)]
    cases hmade : entry key (templateOf key templates) (tasksOf key tasks) with
    | none => rfl
    | some b => rw [Option.filter_some, hentry.of_entry hmade, if_pos (beq_iff_eq.mpr h)]
  · rw [if_neg (by rwa [beq_iff_eq])]
    cases hmade : entry key (templateOf key templates) (tasksOf key tasks) with
    | none => rfl
    | some b => rw [Option.filter_some, hentry.of_entry hmade, if_neg (by rwa [beq_iff_eq])]

/-! ## The views -/

/-- What is summarized for a job. -/
def summaryOf (nowMs : Int64) (key : JobKey) (template : Option Job) (own : List Task) :
    Option JobSummary :=
  match template with
  | some job =>
    some ⟨job, .ofTasks own, job.cronSchedule.bind fun text => Cron.nextRun? text nowMs⟩
  | none => (jobOfTasks key own).map fun job => ⟨job, .ofTasks own, none⟩

theorem keyed_summaryOf {nowMs : Int64} : Keyed (summaryOf nowMs) (·.job.key) where
  key {key template own e} hkey he := by
    cases template with
    | some job =>
        cases he
        exact hkey _ rfl
    | none =>
        obtain ⟨job, hjob, rfl⟩ := Option.map_eq_some_iff.mp he
        exact key_of_jobOfTasks hjob
  eq_none_iff {key template own} := by
    cases template with
    | some job => exact ⟨nofun, nofun⟩
    | none =>
        exact (Option.map_eq_none_iff.trans jobOfTasks_eq_none).trans (and_iff_right rfl).symm

theorem stats_of_summaryOf {nowMs : Int64} {template : Option Job} {own : List Task}
    {e : JobSummary} (h : summaryOf nowMs key template own = some e) :
    e.stats = .ofTasks own := by
  cases template with
  | some job =>
      cases h
      rfl
  | none =>
      obtain ⟨job, -, rfl⟩ := Option.map_eq_some_iff.mp h
      rfl

theorem jobListing_some : s.jobListing (some role) =
    (s.jobListing none).filter (·.key.role == role) := by
  have htasks : s.findTasks (TaskQuery.ofRole? (some role)).active =
      (s.findTasks (TaskQuery.ofRole? none).active).filter (·.role == role) :=
    findTasks_of_role (q := TaskQuery.everything.active) rfl rfl
  have hlisting : ∀ role, s.jobListing role =
      ledger listedJob (s.findTasks (TaskQuery.ofRole? role).active) (s.cronJobsOf role) :=
    fun _ => rfl
  rw [hlisting, hlisting, htasks, cronJobsOf_some, keyed_listedJob.ledger_filter_role]

theorem jobSummaries_eq {nowMs : Int64} {role : Option String} : s.jobSummaries nowMs role =
    ledger (summaryOf nowMs) (s.findTasks (TaskQuery.ofRole? role)) (s.cronJobsOf role) :=
  rfl

theorem jobSummaries_some {nowMs : Int64} : s.jobSummaries nowMs (some role) =
    (s.jobSummaries nowMs none).filter (·.job.key.role == role) := by
  have htasks : s.findTasks (TaskQuery.ofRole? (some role)) =
      (s.findTasks (TaskQuery.ofRole? none)).filter (·.role == role) :=
    findTasks_of_role rfl rfl
  rw [jobSummaries_eq, jobSummaries_eq, htasks, cronJobsOf_some,
    keyed_summaryOf.ledger_filter_role]

theorem findTasks_everything : s.findTasks .everything = s.tasks.values := by
  rw [findTasks_eq_filter rfl, List.filter_eq_self]
  intro t _
  rfl

/-! ## What is accounted for -/

/-- The identifiers under which the tasks of a job are filed. -/
def taskIdsOf (s : Store) (key : JobKey) : Set String :=
  {id | ∃ t ∈ s.tasks[id]?, t.jobKey = key}

/-- The jobs of a role that have tasks. -/
def jobKeysOf (s : Store) (role : String) : Set JobKey :=
  {key | key.role = role ∧ (s.taskIdsOf key).Nonempty}

/-- The names under which the cron jobs of a role are filed. -/
def cronNamesOf (s : Store) (role : String) : Set String :=
  {name | ∃ job ∈ s.filedJob? cronManager name, job.key.role = role}

theorem length_tasksOf_values : (tasksOf key s.tasks.values).length = (s.taskIdsOf key).ncard := by
  rw [tasksOf, ← List.countP_eq_length_filter, Table.countP_values]
  simp only [beq_iff_eq, taskIdsOf]

theorem exists_mem_jobsOf {manager : String} {p : Job → Prop} :
    (∃ j ∈ s.jobsOf manager, p j) ↔ ∃ name, ∃ j ∈ s.filedJob? manager name, p j := by
  simp only [mem_jobsOf, Option.mem_def, ← exists_and_right]
  exact exists_comm

theorem countP_jobsOf {manager : String} {p : Job → Bool} : (s.jobsOf manager).countP p =
    {name | ∃ j ∈ s.filedJob? manager name, p j = true}.ncard := by
  simp only [jobsOf, filedJob?]
  cases s.jobs[manager]? with
  | none => simp
  | some jobs => exact Table.countP_values

/-- Summaries of jobs that account for a store: one for each job that has a
task or is a cron job, in the order of keys, with each of its tasks
counted. -/
structure Summarizes (s : Store) (summaries : List JobSummary) : Prop where
  ordered : summaries.Pairwise fun e f => compare e.job.key f.job.key = .lt
  exists_iff : ∀ key, (∃ e ∈ summaries, e.job.key = key) ↔
    (s.taskIdsOf key).Nonempty ∨ ∃ name, ∃ j ∈ s.filedJob? cronManager name, j.key = key
  counted : ∀ e ∈ summaries, e.stats.total = (s.taskIdsOf e.job.key).ncard

theorem summarizes {nowMs : Int64} : s.Summarizes (s.jobSummaries nowMs none) where
  ordered := keyed_summaryOf.pairwise_ledger
  exists_iff key := by
    rw [jobSummaries_eq, keyed_summaryOf.exists_mem_ledger, mem_jobKeys, TaskQuery.ofRole?,
      findTasks_everything, Table.exists_mem_values, ← exists_mem_jobsOf]
    simp only [mem_cronJobsOf_none]
    rfl
  counted e he := by
    have hentry := keyed_summaryOf.mem_ledger.mp he
    rw [stats_of_summaryOf hentry, JobStats.total_ofTasks, TaskQuery.ofRole?,
      findTasks_everything, length_tasksOf_values]

/-- Summaries of roles that account for a store: one for each role that has
a task or a cron job, in the order of names, with its jobs counted. -/
structure SummarizesRoles (s : Store) (summaries : List RoleSummary) : Prop where
  ordered : summaries.Pairwise fun e f => compare e.role f.role = .lt
  exists_iff : ∀ role, (∃ e ∈ summaries, e.role = role) ↔
    (s.jobKeysOf role).Nonempty ∨ (s.cronNamesOf role).Nonempty
  jobs : ∀ e ∈ summaries, e.jobs = (s.jobKeysOf e.role).ncard
  cronJobs : ∀ e ∈ summaries, e.cronJobs = (s.cronNamesOf e.role).ncard

theorem mem_jobKeysOf : key ∈ s.jobKeysOf role ↔
    ∃ t ∈ s.tasks.values, t.role = role ∧ t.jobKey = key := by
  rw [Table.exists_mem_values]
  constructor
  · rintro ⟨rfl, id, t, ht, rfl⟩
    exact ⟨id, t, ht, rfl, rfl⟩
  · rintro ⟨id, t, ht, rfl, rfl⟩
    exact ⟨rfl, id, t, ht, rfl⟩

theorem nonempty_jobKeysOf :
    (s.jobKeysOf role).Nonempty ↔ ∃ t ∈ s.tasks.values, t.role = role := by
  constructor
  · rintro ⟨key, hkey⟩
    obtain ⟨t, ht, hrole, -⟩ := mem_jobKeysOf.mp hkey
    exact ⟨t, ht, hrole⟩
  · rintro ⟨t, ht, hrole⟩
    exact ⟨t.jobKey, mem_jobKeysOf.mpr ⟨t, ht, hrole, rfl⟩⟩

theorem ncard_jobKeysOf : (s.jobKeysOf role).ncard =
    (setOf ((s.tasks.values.filter (·.role == role)).map Task.jobKey) : JobKeys).size := by
  rw [← ncard_mem_setOf]
  refine congrArg Set.ncard (Set.ext fun key => ?_)
  rw [mem_jobKeysOf]
  simp [and_assoc]

theorem ncard_cronNamesOf : (s.cronNamesOf role).ncard =
    s.cronJobs.countP (·.key.role == role) := by
  rw [cronJobs, countP_jobsOf]
  simp only [beq_iff_eq, cronNamesOf]

theorem roleSummaries_eq : s.roleSummaries =
    (setOf (s.tasks.values.map Task.role ++ s.cronJobs.map (·.key.role)) : Names).toList.map
      fun role => ⟨role, (s.jobKeysOf role).ncard, (s.cronNamesOf role).ncard⟩ := by
  rw [roleSummaries, findTasks_everything]
  simp only [ncard_jobKeysOf, ncard_cronNamesOf]

theorem summarizesRoles : s.SummarizesRoles s.roleSummaries := by
  rw [roleSummaries_eq]
  constructor
  case ordered =>
    have hroles := Std.ExtTreeSet.ordered_toList
      (t := (setOf (s.tasks.values.map Task.role ++ s.cronJobs.map (·.key.role)) : Names))
    exact List.pairwise_map.mpr (hroles.imp id)
  case exists_iff =>
    intro role
    have hcronJobs : (s.cronNamesOf role).Nonempty ↔ ∃ j ∈ s.cronJobs, j.key.role = role :=
      exists_mem_jobsOf.symm
    rw [nonempty_jobKeysOf, hcronJobs]
    simp
  case jobs =>
    intro e he
    obtain ⟨role, -, rfl⟩ := List.mem_map.mp he
    rfl
  case cronJobs =>
    intro e he
    obtain ⟨role, -, rfl⟩ := List.mem_map.mp he
    rfl

end Store

namespace World

variable {env : Environment}

/-- **The views account for every task, whatever is in the store.** The
summaries of jobs have each job with a task or as a cron job once, and count
each of its tasks once; those of roles have each role with a task or a cron
job once, and count its jobs and its cron jobs. Who asks for the summaries or
the listing of a role's jobs is told what the view of all jobs has of that
role, in the same order. -/
theorem views_account (w : World) :
    ∃ summaries jobs roles,
      (w.dispatch env (.view (.getJobSummary none))).2 = .found (.jobSummaries summaries)
      ∧ (w.dispatch env (.view (.getJobs none))).2 = .found (.jobs jobs)
      ∧ (w.dispatch env (.view .getRoleSummary)).2 = .found (.roles roles)
      ∧ w.committed.Summarizes summaries ∧ w.committed.SummarizesRoles roles
      ∧ ∀ role, (w.dispatch env (.view (.getJobSummary (some role)))).2
            = .found (.jobSummaries (summaries.filter (·.job.key.role == role)))
          ∧ (w.dispatch env (.view (.getJobs (some role)))).2
            = .found (.jobs (jobs.filter (·.key.role == role))) := by
  refine ⟨_, _, _, rfl, rfl, rfl, Store.summarizes, Store.summarizesRoles, fun role => ⟨?_, ?_⟩⟩
  · rw [← Store.jobSummaries_some]
    rfl
  · rw [← Store.jobListing_some]
    rfl

/-- Of the closed shop two tasks are counted, of the cron job none; with the
web servers the role has two jobs besides its cron job. -/
theorem views_account_of_shopClosed :
    ∃ summaries roles,
      (shopClosed.dispatch rootOnly (.view (.getJobSummary none))).2
        = .found (.jobSummaries summaries)
      ∧ (shopClosed.dispatch rootOnly (.view .getRoleSummary)).2 = .found (.roles roles)
      ∧ (∃ e ∈ summaries, e.job.key = shop.key ∧ e.stats.total = 2)
      ∧ (∃ e ∈ summaries, e.job.key = nightlyJob.key ∧ e.stats.total = 0)
      ∧ (∃ e ∈ roles, e.role = "www-data" ∧ e.jobs = 2 ∧ e.cronJobs = 1)
      ∧ (shopClosed.dispatch rootOnly (.view (.getJobSummary (some "mesos")))).2
        = .found (.jobSummaries (summaries.filter (·.job.key.role == "mesos"))) := by
  obtain ⟨summaries, _, roles, hsummaries, -, hroles, haccount, haccountRoles, hrole⟩ :=
    @views_account rootOnly shopClosed
  -- the numbers are those of the listings, which can be evaluated
  obtain ⟨hshop, hnightly, hjobs, hcronJobs, hthere⟩ :
      (shopClosed.committed.taskIdsOf shop.key).ncard = 2
        ∧ (shopClosed.committed.taskIdsOf nightlyJob.key).ncard = 0
        ∧ (shopClosed.committed.jobKeysOf "www-data").ncard = 2
        ∧ (shopClosed.committed.cronNamesOf "www-data").ncard = 1
        ∧ shopClosed.committed.cronJobs.any (·.key == nightlyJob.key) = true := by
    rw [← Store.length_tasksOf_values, ← Store.length_tasksOf_values, Store.ncard_jobKeysOf,
      Store.ncard_cronNamesOf]
    decide +kernel
  obtain ⟨j, hj, hkey⟩ := List.any_eq_true.mp hthere
  obtain ⟨e, he, hsame⟩ := (haccount.exists_iff shop.key).mpr
    (Or.inl (Set.nonempty_of_ncard_ne_zero (by rw [hshop]; decide)))
  obtain ⟨f, hf, hcron⟩ := (haccount.exists_iff nightlyJob.key).mpr
    (Or.inr (Store.exists_mem_jobsOf.mp ⟨j, hj, beq_iff_eq.mp hkey⟩))
  obtain ⟨g, hg, hname⟩ := (haccountRoles.exists_iff "www-data").mpr
    (Or.inl (Set.nonempty_of_ncard_ne_zero (by rw [hjobs]; decide)))
  refine ⟨summaries, roles, hsummaries, hroles, ⟨e, he, hsame, ?_⟩, ⟨f, hf, hcron, ?_⟩,
    ⟨g, hg, hname, ?_, ?_⟩, (hrole "mesos").1⟩
  · rw [haccount.counted e he, hsame, hshop]
  · rw [haccount.counted f hf, hcron, hnightly]
  · rw [haccountRoles.jobs g hg, hname, hjobs]
  · rw [haccountRoles.cronJobs g hg, hname, hcronJobs]

end World

end JobControl
