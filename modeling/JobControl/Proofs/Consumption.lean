import JobControl.Proofs.Acceptance
import JobControl.Proofs.Amounts

/-!
# What a role consumes

`need` says in integers what the production of a role comes to: what its
active tasks need, and what the templates need of which no task is active,
each for all its instances. The view of a role's consumption reports this,
or the largest amount that can be written if it is larger, provided that
everything in the store has been accepted, so that nothing asks for less
than nothing. `demand` is the same for consumers of any kind, and what is
consumed outside of production is reported by it.

A launch adds the new tasks to the consumers of their role, and takes back
what a template of their job stood for. As there is one template of a job
at most, a run of a template leaves what is consumed as it is, whether in
production or not: its tasks take the place of the template.
-/

namespace JobControl

/-! ## Accepted descriptions -/

namespace TaskSpec

variable {a b : TaskSpec}

theorem resources_of_sanitize (h : a.sanitize = .ok b) : b.resources = a.resources := by
  rw [(sanitize_eq_ok.mp h).2]
  rfl

theorem isProduction_of_sanitize (h : a.sanitize = .ok b) : b.isProduction = a.isProduction := by
  rw [(sanitize_eq_ok.mp h).2]
  rfl

/-- What is accepted asks for some memory and some disk. -/
theorem megabytes_pos_of_sanitize (h : a.sanitize = .ok b) (m : Medium) :
    0 < a.resources.megabytes m := by
  obtain ⟨hsound, -⟩ := sanitize_eq_ok.mp h
  simp only [defect?, ite_eq_none, Int64.not_le, Int64.lt_iff_toInt_lt] at hsound
  obtain ⟨-, -, -, -, hram, hdisk, -⟩ := hsound
  cases m with
  | memory => exact hram
  | disk => exact hdisk

theorem nonneg_of_sanitize (h : a.sanitize = .ok b) : a.resources.Nonneg :=
  fun m => Int.le_of_lt (megabytes_pos_of_sanitize h m)

end TaskSpec

/-- What all instances of a job need. -/
def Job.need (j : Job) (m : Medium) : Int :=
  j.task.resources.megabytes m * j.instanceCount.toInt

/-- The task is active, in production and of a role. -/
def Task.producesFor (t : Task) (role : String) : Bool :=
  t.role == role && t.status.isActive && t.spec.isProduction

namespace Store

variable {s : Store} {role : String} {key : JobKey} {m : Medium} {p : TaskSpec → Bool}

/-! ## Needs -/

/-- A task of the job is active. -/
def isRunning (s : Store) (key : JobKey) : Bool :=
  s.tasks.values.any fun t => t.jobKey == key && t.status.isActive

/-- The active tasks of a role that run in production. -/
def running (s : Store) (role : String) : List Task :=
  s.tasks.values.filter (·.producesFor role)

/-- All templates. -/
def templates (s : Store) : List Job :=
  s.managers.flatMap s.jobsOf

/-- The templates of a role that would run in production, and of which no
task is active. -/
def idle (s : Store) (role : String) : List Job :=
  s.templates.filter fun j =>
    j.key.role == role && !s.isRunning j.key && j.task.isProduction

/-- What the production of a role needs: its active tasks, and all
instances of its idle templates. -/
def need (s : Store) (role : String) (m : Medium) : Int :=
  ((s.running role).map fun t => t.spec.resources.megabytes m).sum
    + ((s.idle role).map (·.need m)).sum

/-- The active tasks of a role. -/
def activeTasks (s : Store) (role : String) : List Task :=
  s.tasks.values.filter fun t => t.role == role && t.status.isActive

/-- The templates of a role of which no task is active. -/
def idleTemplates (s : Store) (role : String) : List Job :=
  s.templates.filter fun j => j.key.role == role && !s.isRunning j.key

/-- What consumers of a kind need, each for all its instances. -/
def demand (p : TaskSpec → Bool) (m : Medium) (consumers : List (TaskSpec × Int32)) : Int :=
  ((consumers.filter (p ·.1)).map fun c => c.1.resources.megabytes m * c.2.toInt).sum

theorem demand_append {cs ds : List (TaskSpec × Int32)} :
    demand p m (cs ++ ds) = demand p m cs + demand p m ds := by
  rw [demand, List.filter_append, List.map_append, List.sum_append, demand, demand]

theorem demand_of_perm {cs ds : List (TaskSpec × Int32)} (h : cs.Perm ds) :
    demand p m cs = demand p m ds :=
  ((h.filter _).map _).sum_eq

theorem demand_replicate {spec : TaskSpec} {n : Nat} {count : Int32} :
    demand p m (List.replicate n (spec, count)) =
      if p spec then n * (spec.resources.megabytes m * count.toInt) else 0 := by
  rw [demand, List.filter_replicate]
  split
  · rw [List.map_replicate, List.sum_replicate_int]
  · rfl

theorem isRunning_eq_true : s.isRunning key = true ↔
    ∃ (id : String) (t : Task), s.tasks[id]? = some t ∧ t.jobKey = key
      ∧ t.status.isActive = true := by
  simp only [isRunning, List.any_eq_true, Table.mem_values, Bool.and_eq_true, beq_iff_eq]
  constructor
  · rintro ⟨t, ⟨id, ht⟩, h⟩
    exact ⟨id, t, ht, h⟩
  · rintro ⟨id, t, ht, h⟩
    exact ⟨t, ⟨id, ht⟩, h⟩

theorem mem_templates {j : Job} :
    j ∈ s.templates ↔ ∃ manager name, s.filedJob? manager name = some j := by
  simp only [templates, managers, List.mem_flatMap, mem_jobsOf, Std.ExtTreeMap.mem_keys]
  refine exists_congr fun manager => and_iff_right_of_imp ?_
  rintro ⟨name, h⟩
  obtain ⟨jobs, hjobs, -⟩ := Option.bind_eq_some_iff.mp h
  exact Std.ExtTreeMap.mem_iff_isSome_getElem?.mpr (by rw [hjobs]; rfl)

theorem nonneg_of_mem_templates {j : Job} (hs : s.Accepted) (h : j ∈ s.templates) :
    j.task.resources.Nonneg ∧ 0 ≤ j.instanceCount.toInt := by
  obtain ⟨manager, name, hfiled⟩ := mem_templates.mp h
  obtain ⟨-, haccepted⟩ := hs.jobs _ _ _ hfiled
  have htask := Job.task_sanitize_of_sanitize haccepted
  have hcount := Job.instanceCount_pos_of_sanitize haccepted
  exact ⟨TaskSpec.nonneg_of_sanitize htask, Int.le_of_lt hcount⟩

/-! ## What is reported -/

theorem activeTasks_eq : s.activeTasks role = s.findTasks (TaskQuery.ofRole role).active := by
  have hids : (TaskQuery.ofRole role).active.taskIds = ∅ := rfl
  rw [findTasks_eq_filter hids, activeTasks]
  refine List.filter_congr fun t _ => Bool.eq_iff_iff.mpr ?_
  rw [Bool.and_eq_true, beq_iff_eq, TaskQuery.ofRole_active_isMetBy]

theorem isRunning_eq (h : key.role = role) : s.isRunning key =
    (setOf ((s.findTasks (TaskQuery.ofRole role).active).map Task.jobKey) : JobKeys).contains
      key := by
  have hids : (TaskQuery.ofRole role).active.taskIds = ∅ := rfl
  rw [Bool.eq_iff_iff, Std.ExtTreeSet.contains_iff_mem, mem_setOf, List.mem_map,
    isRunning_eq_true]
  simp only [mem_findTasks hids, TaskQuery.ofRole_active_isMetBy]
  constructor
  · rintro ⟨id, t, ht, rfl, hactive⟩
    exact ⟨t, ⟨⟨id, ht⟩, h, hactive⟩, rfl⟩
  · rintro ⟨t, ⟨⟨id, ht⟩, -, hactive⟩, rfl⟩
    exact ⟨id, t, ht, rfl, hactive⟩

theorem consumers_eq : s.consumers role = (s.activeTasks role).map (fun t => (t.spec, 1))
    ++ (s.idleTemplates role).map fun j => (j.task, j.instanceCount) := by
  rw [activeTasks_eq, consumers]
  congr 2
  refine List.filter_congr fun j _ => ?_
  by_cases h : j.key.role = role
  · rw [isRunning_eq h]
  · rw [beq_eq_false_iff_ne.mpr h, Bool.false_and, Bool.false_and]

/-- The need of a role is the demand of its consumers in production. -/
theorem need_eq : s.need role m = demand (·.isProduction) m (s.consumers role) := by
  have hrunning : s.running role = (s.activeTasks role).filter (·.spec.isProduction) := by
    rw [activeTasks, List.filter_filter, running]
    exact List.filter_congr fun t _ => Bool.and_comm _ _
  have hidle : s.idle role = (s.idleTemplates role).filter (·.task.isProduction) := by
    rw [idleTemplates, List.filter_filter, idle]
    exact List.filter_congr fun j _ => Bool.and_comm _ _
  rw [consumers_eq, demand_append, need, hrunning, hidle, demand, demand, List.filter_map,
    List.filter_map, List.map_map, List.map_map]
  congr 2
  exact List.map_congr_left fun t _ => (Int.mul_one _).symm

theorem nonneg_of_mem_consumers (hs : s.Accepted) {c : TaskSpec × Int32}
    (hc : c ∈ s.consumers role) : c.1.resources.Nonneg ∧ 0 ≤ c.2.toInt := by
  have hids : (TaskQuery.ofRole role).active.taskIds = ∅ := rfl
  rw [consumers, List.mem_append, List.mem_map, List.mem_map] at hc
  rcases hc with ⟨t, ht, rfl⟩ | ⟨j, hj, rfl⟩
  · obtain ⟨⟨id, ht⟩, -⟩ := (mem_findTasks hids).mp ht
    exact ⟨TaskSpec.nonneg_of_sanitize (hs.tasks id t ht),
      (by decide : (0 : Int) ≤ (1 : Int32).toInt)⟩
  · exact nonneg_of_mem_templates hs (List.mem_filter.mp hj).1

theorem megabytes_demand (hs : s.Accepted) :
    (consumption ((s.consumers role).filter (p ·.1))).megabytes m =
      min (demand p m (s.consumers role)) Resources.largest :=
  megabytes_consumption fun _ hc => nonneg_of_mem_consumers hs (List.mem_filter.mp hc).1

/-- **The consumption that is reported is the need of production**, or the
largest amount that can be written if the need is larger. -/
theorem megabytes_production (hs : s.Accepted) :
    (s.quotaInfo role).production.megabytes m = min (s.need role m) Resources.largest := by
  rw [need_eq]
  exact megabytes_demand hs

theorem megabytes_nonProduction (hs : s.Accepted) :
    (s.quotaInfo role).nonProduction.megabytes m =
      min (demand (!·.isProduction) m (s.consumers role)) Resources.largest :=
  megabytes_demand (p := (!·.isProduction)) hs

theorem need_nonneg (hs : s.Accepted) : 0 ≤ s.need role m := by
  rw [need_eq, demand]
  refine List.sum_nonneg (List.forall_mem_map.mpr fun c hc => ?_)
  obtain ⟨hresources, hcount⟩ := nonneg_of_mem_consumers hs (List.mem_filter.mp hc).1
  exact Int.mul_nonneg (hresources m) hcount

theorem nonneg_production (hs : s.Accepted) : (s.quotaInfo role).production.Nonneg := by
  intro m
  rw [megabytes_production hs]
  exact Int.le_min.mpr ⟨need_nonneg hs, by decide⟩

/-! ## What a launch changes -/

theorem length_waitingTasks {stamp : Stamp} {token : Nat → String}
    {specs : List (Int32 × TaskSpec)} :
    (waitingTasks stamp token specs).length = specs.length := by
  simp [waitingTasks]

/-- Tasks are launched: there are some, they wait and all run the same, and
they are filed under names of their own that are new. -/
structure Launches (s : Store) (spec : TaskSpec) (tasks : List Task) : Prop where
  nonempty : tasks ≠ []
  waiting : ∀ t ∈ tasks, t.spec = spec ∧ t.status = .pending
  once : (tasks.map Task.id).Nodup
  new : ∀ t ∈ tasks, s.tasks[t.id]? = none

namespace Launches

variable {spec : TaskSpec} {tasks : List Task} (h : s.Launches spec tasks)
include h

/-- A job is running after a launch if it was before, or if it is the one
that is launched. -/
theorem isRunning_saveTasks (other : JobKey) :
    (s.saveTasks tasks).isRunning other = (spec.jobKey == other || s.isRunning other) := by
  have hwaits : ∀ t ∈ tasks,
      (t.jobKey == other && t.status.isActive) = (spec.jobKey == other) := by
    intro t ht
    obtain ⟨hspec, hstatus⟩ := h.waiting t ht
    rw [Task.jobKey, hspec, hstatus, Bool.and_eq_left_iff_imp]
    exact fun _ => rfl
  have hlaunched : tasks.any (fun t => t.jobKey == other && t.status.isActive)
      = (spec.jobKey == other) := by
    rw [Bool.eq_iff_iff, List.any_eq_true]
    constructor
    · rintro ⟨t, ht, hmet⟩
      exact hwaits t ht ▸ hmet
    · intro hkey
      obtain ⟨t, ht⟩ := List.exists_mem_of_ne_nil tasks h.nonempty
      exact ⟨t, ht, (hwaits t ht).trans hkey⟩
  rw [isRunning, (values_saveTasks_perm h.once h.new).any_eq, List.any_append, hlaunched,
    isRunning]

/-- Its templates are idle no longer. -/
theorem idleTemplates_saveTasks : (s.saveTasks tasks).idleTemplates role =
    (s.idleTemplates role).filter fun j => !(spec.jobKey == j.key) := by
  rw [idleTemplates, idleTemplates, List.filter_filter]
  refine List.filter_congr fun j _ => ?_
  rw [h.isRunning_saveTasks, Bool.not_or]
  simp only [Bool.and_left_comm]

/-- The new tasks are active, and they are of one role. -/
theorem activeTasks_saveTasks (role : String) : ((s.saveTasks tasks).activeTasks role).Perm
    ((if spec.owner.role = role then tasks else []) ++ s.activeTasks role) := by
  have hnew : tasks.filter (fun t => t.role == role && t.status.isActive) =
      if spec.owner.role = role then tasks else [] := by
    have hwaits : ∀ t ∈ tasks,
        (t.role == role && t.status.isActive) = (spec.owner.role == role) := by
      intro t ht
      obtain ⟨hspec, hstatus⟩ := h.waiting t ht
      rw [Task.role, hspec, hstatus, Bool.and_eq_left_iff_imp]
      exact fun _ => rfl
    rw [List.filter_congr hwaits]
    split
    · rename_i hrole
      rw [beq_iff_eq.mpr hrole, List.filter_true]
    · rename_i hrole
      rw [beq_eq_false_iff_ne.mpr hrole, List.filter_false]
  have hperm := (values_saveTasks_perm h.once h.new).filter
    fun t => t.role == role && t.status.isActive
  rwa [List.filter_append, hnew] at hperm

/-- **What a launch makes of the consumers of a role**: the new tasks are
added if they are the role's, and what the templates of their job stood for
is taken back. -/
theorem consumers_saveTasks (role : String) : ((s.saveTasks tasks).consumers role
      ++ ((s.idleTemplates role).filter (spec.jobKey == ·.key)).map
        fun j => (j.task, j.instanceCount)).Perm
    ((if spec.owner.role = role then List.replicate tasks.length (spec, 1) else [])
      ++ s.consumers role) := by
  have hspecs : (if spec.owner.role = role then tasks else []).map (fun t => (t.spec, (1 : Int32)))
      = if spec.owner.role = role then List.replicate tasks.length (spec, 1) else [] := by
    split
    · rw [← List.map_const']
      exact List.map_congr_left fun t ht => by rw [(h.waiting t ht).1]
    · rfl
  have hactive := (h.activeTasks_saveTasks role).map fun t => (t.spec, (1 : Int32))
  have hidle := (List.filter_append_perm (spec.jobKey == ·.key) (s.idleTemplates role)).map
    fun j => (j.task, j.instanceCount)
  rw [List.map_append, hspecs] at hactive
  rw [List.map_append] at hidle
  rw [consumers_eq, consumers_eq, h.idleTemplates_saveTasks]
  simpa only [List.append_assoc] using hactive.append (List.perm_append_comm.trans hidle)

/-- Without a template of the job, the need grows by what the new tasks
need. -/
theorem need_of_noTemplate (hnone : ∀ j ∈ s.templates, j.key ≠ spec.jobKey) :
    (s.saveTasks tasks).need spec.owner.role m = s.need spec.owner.role m
      + if spec.isProduction then tasks.length * spec.resources.megabytes m else 0 := by
  have hidle : (s.idleTemplates spec.owner.role).filter (spec.jobKey == ·.key) = [] := by
    refine List.filter_eq_nil_iff.mpr fun j hj hkey => ?_
    exact hnone j (List.mem_filter.mp hj).1 (beq_iff_eq.mp hkey).symm
  have hperm := h.consumers_saveTasks spec.owner.role
  rw [hidle, List.map_nil, List.append_nil, if_pos rfl] at hperm
  rw [need_eq, need_eq, demand_of_perm hperm, demand_append, demand_replicate]
  simp [Int.add_comm]

end Launches

/-! ## Runs of templates -/

theorem flatMap_eq_of_only {α β : Type} {a : α} {f : α → List β} : ∀ {l : List α}, l.Nodup →
    (∀ b ∈ l, b ≠ a → f b = []) → (a ∉ l → f a = []) → l.flatMap f = f a
  | [], _, _, ha => (ha List.not_mem_nil).symm
  | b :: l, honce, hothers, ha => by
      obtain ⟨hnot, honce⟩ := List.nodup_cons.mp honce
      obtain ⟨hb, hothers⟩ := List.forall_mem_cons.mp hothers
      by_cases hba : b = a
      · subst hba
        have hrest : l.flatMap f = [] :=
          List.flatMap_eq_nil_iff.mpr fun c hc => hothers c hc fun heq => hnot (heq ▸ hc)
        rw [List.flatMap_cons, hrest, List.append_nil]
      · rw [List.flatMap_cons, hb hba, List.nil_append]
        exact flatMap_eq_of_only honce hothers fun hl =>
          ha fun hmem => (List.mem_cons.mp hmem).elim (fun heq => hba heq.symm) hl

/-- All templates are cron jobs. -/
theorem templates_eq (hs : s.Accepted) : s.templates = s.cronJobs := by
  refine flatMap_eq_of_only Std.ExtTreeMap.nodup_keys (fun manager _ hne => ?_) fun hnot => ?_
  · refine List.eq_nil_iff_forall_not_mem.mpr fun j hj => ?_
    obtain ⟨name, hname⟩ := mem_jobsOf.mp hj
    exact hne (hs.jobs _ _ _ hname).1
  · rw [managers, Std.ExtTreeMap.mem_keys] at hnot
    rw [jobsOf, Std.ExtTreeMap.getElem?_eq_none hnot]

/-- A manager has one template of a job at most. -/
theorem nodup_key_jobsOf {manager : String} (hs : s.Filed) :
    ((s.jobsOf manager).map Job.key).Nodup := by
  have hnames := hs.jobs manager
  rw [jobsOf]
  simp only [filedJob?] at hnames
  cases hjobs : s.jobs[manager]? with
  | none => exact List.nodup_nil
  | some jobs =>
      rw [hjobs] at hnames
      have hkeys : (jobs.values.map Job.key).map JobKey.canonical = jobs.keys := by
        rw [Table.values_eq_map_toList, List.map_map, List.map_map,
          ← Std.ExtTreeMap.map_fst_toList_eq_keys]
        refine List.map_congr_left fun entry hentry => ?_
        exact hnames _ _ (Std.ExtTreeMap.mem_toList_iff_getElem?_eq_some.mp hentry)
      have honce : ((jobs.values.map Job.key).map JobKey.canonical).Nodup :=
        hkeys ▸ Std.ExtTreeMap.nodup_keys
      exact List.Pairwise.of_map _ (fun _ _ hne heq => hne (congrArg _ heq)) honce

theorem filter_eq_singleton {α β : Type} [BEq β] [LawfulBEq β] {f : α → β} {l : List α} {a : α}
    (honce : (l.map f).Nodup) (ha : a ∈ l) : l.filter (f a == f ·) = [a] := by
  obtain ⟨xs, ys, rfl⟩ := List.append_of_mem ha
  have hfirst : ((a :: (xs ++ ys)).map f).Nodup := (List.perm_middle.map f).nodup_iff.mp honce
  have hother : ∀ b ∈ xs ++ ys, ¬(f a == f b) = true := by
    intro b hb h
    rw [List.map_cons, beq_iff_eq.mp h] at hfirst
    exact (List.nodup_cons.mp hfirst).1 (List.mem_map_of_mem hb)
  have hnone : xs.filter (f a == f ·) ++ ys.filter (f a == f ·) = [] := by
    rw [← List.filter_append, List.filter_eq_nil_iff]
    exact hother
  obtain ⟨hxs, hys⟩ := List.append_eq_nil_iff.mp hnone
  rw [List.filter_append, List.filter_cons, if_pos (beq_self_eq_true _), hxs, hys]
  rfl

/-- An idle template is the only one of its job. -/
theorem filter_idleTemplates {j : Job} (hs : s.Accepted) (hfiled : s.Filed)
    (hj : s.cronJob? key = some j) (hidle : s.isRunning key = false) :
    (s.idleTemplates role).filter (key == ·.key) = if key.role = role then [j] else [] := by
  obtain ⟨-, -, rfl⟩ := hs.of_job? hj
  have honly : s.templates.filter (j.key == ·.key) = [j] := by
    rw [templates_eq hs]
    exact filter_eq_singleton (nodup_key_jobsOf hfiled) (List.mem_of_find?_eq_some hj)
  have hswap : (s.idleTemplates role).filter (j.key == ·.key) =
      [j].filter fun i => i.key.role == role && !s.isRunning i.key := by
    rw [idleTemplates, ← honly, List.filter_filter, List.filter_filter]
    exact List.filter_congr fun i _ => Bool.and_comm _ _
  rw [hswap, List.filter_singleton, hidle, Bool.not_false, Bool.and_true, Bool.cond_eq_ite]
  simp only [beq_iff_eq]

/-- **A run of an idle template leaves what is consumed as it is**, by every
role, in production and outside of it. -/
theorem demand_of_template {j : Job} {tasks : List Task} (hs : s.Accepted) (hfiled : s.Filed)
    (hj : s.cronJob? key = some j) (hidle : s.isRunning key = false)
    (h : s.Launches j.task tasks) (hlength : tasks.length = j.instanceCount.toInt) :
    demand p m ((s.saveTasks tasks).consumers role) = demand p m (s.consumers role) := by
  obtain ⟨-, haccepted, rfl⟩ := hs.of_job? hj
  have hkey : j.task.jobKey = j.key := Job.taskKey_of_sanitize haccepted
  have hrole : j.task.owner.role = j.key.role := congrArg JobKey.role hkey
  have hdemand := demand_of_perm (p := p) (m := m) (h.consumers_saveTasks role)
  rw [hkey, hrole, filter_idleTemplates hs hfiled hj hidle, demand_append, demand_append] at hdemand
  split at hdemand
  · -- all instances of the template, and one of each task
    have hsame : demand p m (List.replicate tasks.length (j.task, 1)) =
        demand p m ([j].map fun j => (j.task, j.instanceCount)) := by
      have hone : (1 : Int32).toInt = 1 := rfl
      rw [List.map_singleton, ← List.replicate_one, demand_replicate, demand_replicate, hlength,
        hone, Int.mul_one, Int.mul_comm, Nat.cast_one, Int.one_mul]
    omega
  · simpa [demand] using hdemand

end Store

/-- Every task of a launch takes a token. -/
theorem World.issued_launch {env : Environment} {w : World} {stamp : Stamp} {ids : List Int32}
    {t : TaskSpec} :
    (w.launch env stamp (ids.map fun id => (id, t))).issued = w.issued + ids.length := by
  rw [← List.length_map (fun id => (id, t))]
  rfl

/-- The tasks of a launch are new, and they wait. -/
theorem World.Reachable.launches {env : Environment} {w : World} {ids : List Int32}
    (hw : w.Reachable env) (hids : ids ≠ []) (hfresh : env.Fresh (w.issued + ids.length))
    (stamp : Stamp) (t : TaskSpec) :
    w.live.Launches t (waitingTasks stamp (w.freshToken env) (ids.map fun id => (id, t))) where
  nonempty := by
    rw [← List.length_pos_iff, Store.length_waitingTasks, List.length_map]
    exact List.length_pos_iff.mpr hids
  waiting u hu := by
    obtain ⟨i, x, hx, rfl⟩ := Store.mem_waitingTasks.mp hu
    obtain ⟨id, -, rfl⟩ := List.mem_map.mp (List.mem_of_getElem? hx)
    exact ⟨rfl, rfl⟩
  once := nodup_id_waitingTasks (by rwa [List.length_map])
  new u hu := hw.unfiled_of_mem_waitingTasks (by rwa [List.length_map]) hu

end JobControl
