import JobControl.Proofs.Queries
import JobControl.Store.Protection

/-!
# Where things are filed

What each operation of the store does to the entry under a name: one
equation for each operation and each of its tables. Everything else about
these operations follows from the equations, so that no proof opens an
operation again.

`Filed` says that nothing is filed under a name that is not its own: a
task under its identifier, a template and a lock under the text of the
key. It is what lets a look-up by key stand for a search.
-/

namespace JobControl

/-! ## Names of jobs -/

namespace JobKey

theorem toList_canonical (k : JobKey) : k.canonical.toList =
    k.role.toList ++ '/' :: (k.environment.toList ++ '/' :: k.name.toList) := by
  simp [canonical]

theorem slash_notMem_of_isIdentifier {text : String} (h : isIdentifier text = true) :
    '/' ∉ text.toList := by
  simp only [isIdentifier, Bool.and_eq_true, List.all_eq_true] at h
  exact fun hmem => absurd (h.2 _ hmem) (by decide)

/-- Two lists that go on after the first `c` split there in the same way. -/
theorem split_at_first {c : Char} : ∀ {xs xs' ys ys' : List Char}, c ∉ xs → c ∉ xs' →
    xs ++ c :: ys = xs' ++ c :: ys' → xs = xs' ∧ ys = ys'
  | [], [], _, _, _, _, h => ⟨rfl, (List.cons.inj h).2⟩
  | [], _ :: _, _, _, _, h', h =>
      absurd (List.mem_cons.mpr (Or.inl (List.cons.inj h).1)) h'
  | _ :: _, [], _, _, h', _, h =>
      absurd (List.mem_cons.mpr (Or.inl (List.cons.inj h).1.symm)) h'
  | x :: xs, x' :: xs', _, _, hx, hx', h => by
      obtain ⟨rfl, hrest⟩ := List.cons.inj h
      obtain ⟨rfl, hys⟩ := split_at_first (fun hm => hx (List.mem_cons_of_mem _ hm))
        (fun hm => hx' (List.mem_cons_of_mem _ hm)) hrest
      exact ⟨rfl, hys⟩

/-- The text of a valid key has two slashes only, so it splits in one way:
no other key, valid or not, has the same text. -/
theorem eq_of_canonical_eq {k other : JobKey} (hk : k.isValid = true)
    (h : other.canonical = k.canonical) : other = k := by
  simp only [isValid, Bool.and_eq_true] at hk
  have hr := slash_notMem_of_isIdentifier hk.1.1
  have he := slash_notMem_of_isIdentifier hk.1.2
  have hn := slash_notMem_of_isIdentifier hk.2
  have htext : other.canonical.toList = k.canonical.toList := by rw [h]
  rw [toList_canonical, toList_canonical] at htext
  have hcount := congrArg (List.count '/') htext
  simp only [List.count_append, List.count_cons_self, List.count_eq_zero.mpr hr,
    List.count_eq_zero.mpr he, List.count_eq_zero.mpr hn] at hcount
  have hr' : '/' ∉ other.role.toList := List.count_eq_zero.mp (by omega)
  have he' : '/' ∉ other.environment.toList := List.count_eq_zero.mp (by omega)
  obtain ⟨hrole, hrest⟩ := split_at_first hr' hr htext
  obtain ⟨henv, hname⟩ := split_at_first he' he hrest
  cases k
  cases other
  simp only [JobKey.mk.injEq]
  exact ⟨String.toList_inj.mp hrole, String.toList_inj.mp henv, String.toList_inj.mp hname⟩

end JobKey

namespace Store

variable {s : Store} {id name manager other : String}

/-! ## The empty store -/

@[simp] theorem getElem?_tasks_empty : Store.empty.tasks[id]? = none :=
  Std.ExtTreeMap.getElem?_empty

@[simp] theorem getElem?_jobs_empty : Store.empty.jobs[manager]? = none :=
  Std.ExtTreeMap.getElem?_empty

@[simp] theorem getElem?_locks_empty : Store.empty.locks[name]? = none :=
  Std.ExtTreeMap.getElem?_empty

/-! ## Tasks -/

theorem getElem?_saveTasks : ∀ {tasks : List Task} {s : Store},
    (s.saveTasks tasks).tasks[id]? = (tasks.reverse.find? (·.id == id)).or s.tasks[id]?
  | [], s => rfl
  | t :: tasks, s => by
      have hstep : s.saveTasks (t :: tasks) = (s.saveTasks [t]).saveTasks tasks := rfl
      have hone : (s.saveTasks [t]).tasks[id]? = if t.id = id then some t else s.tasks[id]? :=
        Table.getElem?_insert
      rw [hstep, getElem?_saveTasks, hone, List.reverse_cons, List.find?_append, Option.or_assoc]
      by_cases h : t.id = id <;> simp [h]

theorem of_getElem?_saveTasks {tasks : List Task} {t : Task}
    (h : (s.saveTasks tasks).tasks[id]? = some t) :
    (t ∈ tasks ∧ t.id = id) ∨ s.tasks[id]? = some t := by
  rw [getElem?_saveTasks, Option.or_eq_some_iff] at h
  rcases h with h | ⟨-, h⟩
  · exact Or.inl ⟨List.mem_reverse.mp (List.mem_of_find?_eq_some h),
      by simpa using List.find?_some h⟩
  · exact Or.inr h

theorem getElem?_saveTasks_of_ne {tasks : List Task} (h : ∀ t ∈ tasks, t.id ≠ id) :
    (s.saveTasks tasks).tasks[id]? = s.tasks[id]? := by
  have hnone : tasks.reverse.find? (·.id == id) = none := by simpa using h
  rw [getElem?_saveTasks, hnone, Option.none_or]

/-- A task stays where it is filed when others are filed under new
identifiers. -/
theorem getElem?_saveTasks_of_new {tasks : List Task} {t : Task}
    (hnew : ∀ u ∈ tasks, s.tasks[u.id]? = none) (ht : s.tasks[id]? = some t) :
    (s.saveTasks tasks).tasks[id]? = some t := by
  rw [getElem?_saveTasks_of_ne, ht]
  rintro u hu rfl
  rw [hnew u hu] at ht
  cases ht

/-- New tasks join those that are there. -/
theorem values_saveTasks_perm : ∀ {tasks : List Task} {s : Store},
    (tasks.map Task.id).Nodup → (∀ t ∈ tasks, s.tasks[t.id]? = none) →
    (s.saveTasks tasks).tasks.values.Perm (tasks ++ s.tasks.values)
  | [], _, _, _ => .refl _
  | t :: tasks, s, honce, hnew => by
      obtain ⟨hnot, honce⟩ := List.nodup_cons.mp honce
      obtain ⟨ht, hnew⟩ := List.forall_mem_cons.mp hnew
      have hone : (s.saveTasks [t]).tasks.values.Perm (t :: s.tasks.values) :=
        Table.values_insert_perm ht
      have hlater : ∀ u ∈ tasks, (s.saveTasks [t]).tasks[u.id]? = none := by
        intro u hu
        rw [getElem?_saveTasks_of_ne, hnew u hu]
        intro v hv hid
        rw [List.mem_singleton.mp hv] at hid
        exact hnot (hid ▸ List.mem_map_of_mem hu)
      have hrest := values_saveTasks_perm honce hlater
      exact (hrest.trans (hone.append_left tasks)).trans List.perm_middle

theorem getElem?_deleteTasks {ids : List String} :
    (s.deleteTasks ids).tasks[id]? = if id ∈ ids then none else s.tasks[id]? :=
  Table.getElem?_foldl_erase

theorem getElem?_changeTasks {q : TaskQuery} {change : Task → Option Task} :
    (s.changeTasks q change).tasks[id]? =
      s.tasks[id]?.map fun t => if q.isMetBy t then (change t).getD t else t :=
  Std.ExtTreeMap.getElem?_map

/-- A task after a change: one that does not meet the query, or is declined,
is what it was. -/
theorem of_getElem?_changeTasks {q : TaskQuery} {change : Task → Option Task} {t' : Task}
    (h : (s.changeTasks q change).tasks[id]? = some t') :
    ∃ t, s.tasks[id]? = some t ∧ (t' = t ∨ q.isMetBy t = true ∧ change t = some t') := by
  rw [getElem?_changeTasks, Option.map_eq_some_iff] at h
  obtain ⟨t, ht, rfl⟩ := h
  refine ⟨t, ht, ?_⟩
  split
  · rename_i hmet
    cases hc : change t with
    | none => exact Or.inl rfl
    | some u => exact Or.inr ⟨hmet, rfl⟩
  · exact Or.inl rfl

theorem getElem?_changeTasks_of_not {q : TaskQuery} {change : Task → Option Task}
    (h : ∀ t, s.tasks[id]? = some t → q.isMetBy t = false) :
    (s.changeTasks q change).tasks[id]? = s.tasks[id]? := by
  rw [getElem?_changeTasks]
  cases ht : s.tasks[id]? with
  | none => rfl
  | some t => simp [h t ht]

/-- A task after a move: it is what it was, or it met the query and entered
the next state. -/
theorem of_getElem?_moveTasks {stamp : Stamp} {q : TaskQuery} {message : Option String}
    {next : Status → Option Status} {t' : Task}
    (h : (s.moveTasks stamp q message next).1.tasks[id]? = some t') :
    ∃ t, s.tasks[id]? = some t ∧ (t' = t ∨ q.isMetBy t = true ∧ ∃ status,
      next t.status = some status
        ∧ t' = t.enter ⟨stamp.nowMs, status, message, stamp.scheduler⟩) := by
  obtain ⟨t, ht, rfl | ⟨hmet, hmove⟩⟩ := of_getElem?_changeTasks h
  · exact ⟨_, ht, Or.inl rfl⟩
  · obtain ⟨status, hstatus, rfl⟩ := Option.map_eq_some_iff.mp hmove
    exact ⟨t, ht, Or.inr ⟨hmet, status, hstatus, rfl⟩⟩

theorem getElem?_moveTasks_of_not {stamp : Stamp} {q : TaskQuery} {message : Option String}
    {next : Status → Option Status} (h : ∀ t, s.tasks[id]? = some t → q.isMetBy t = false) :
    (s.moveTasks stamp q message next).1.tasks[id]? = s.tasks[id]? :=
  getElem?_changeTasks_of_not h

/-- Only what meets the query moves. -/
theorem isMetBy_of_moveTasks_ne {stamp : Stamp} {q : TaskQuery} {message : Option String}
    {next : Status → Option Status}
    (h : (s.moveTasks stamp q message next).1.tasks[id]? ≠ s.tasks[id]?) :
    ∃ t, s.tasks[id]? = some t ∧ q.isMetBy t = true := by
  cases ht : s.tasks[id]? with
  | none => exact absurd (getElem?_moveTasks_of_not fun t hsome => by simp [ht] at hsome) h
  | some t =>
      cases hmet : q.isMetBy t with
      | true => exact ⟨t, rfl, hmet⟩
      | false =>
          refine absurd (getElem?_moveTasks_of_not fun u hu => ?_) h
          rw [Option.some.inj (hu.symm.trans ht)]
          exact hmet

section Rule

variable {stamp : Stamp} {q : TaskQuery} {message : Option String}
  {next : Status → Option Status} {goes : Status → Bool} {target : Status → Status}

/-- A rule that says which tasks go, and where to, moves those of them that
meet the query. -/
theorem getElem?_moveTasks_of_rule
    (hnext : ∀ a, next a = if goes a then some (target a) else none) :
    (s.moveTasks stamp q message next).1.tasks[id]? = s.tasks[id]?.map fun t =>
      if q.isMetBy t && goes t.status then
        t.enter ⟨stamp.nowMs, target t.status, message, stamp.scheduler⟩
      else t := by
  have hentry : (s.moveTasks stamp q message next).1.tasks[id]? = s.tasks[id]?.map fun t =>
      if q.isMetBy t then (Task.move stamp message next t).getD t else t := getElem?_changeTasks
  rw [hentry]
  refine Option.map_congr fun t _ => ?_
  rw [Task.move, hnext]
  cases q.isMetBy t with
  | false => rfl
  | true =>
      rw [if_pos rfl, Bool.true_and]
      split <;> rfl

/-- As many tasks are reported as are moved. -/
theorem count_moveTasks_of_rule
    (hnext : ∀ a, next a = if goes a then some (target a) else none) :
    (s.moveTasks stamp q message next).2
      = (s.tasks.values.filter fun t => q.isMetBy t && goes t.status).length := by
  have hcount : (s.moveTasks stamp q message next).2
      = ((s.tasks.values.filter q.isMetBy).filterMap (Task.move stamp message next)).length := rfl
  rw [hcount, List.length_filterMap_eq_countP, List.countP_filter, List.countP_eq_length_filter]
  refine congrArg List.length (List.filter_congr fun t _ => ?_)
  rw [Task.move, hnext, Bool.and_comm, Option.isSome_map]
  cases goes t.status <;> rfl

end Rule

theorem mem_waitingTasks {stamp : Stamp} {token : Nat → String}
    {specs : List (Int32 × TaskSpec)} {t : Task} :
    t ∈ waitingTasks stamp token specs ↔ ∃ i x, specs[i]? = some x
      ∧ t = .waiting x.2 x.1 stamp.nowMs (token i) stamp.scheduler := by
  simp only [waitingTasks, List.mem_map, Prod.exists, List.mk_mem_zipIdx_iff_getElem?]
  constructor
  · rintro ⟨instanceId, spec, i, hx, rfl⟩
    exact ⟨i, _, _, hx, rfl⟩
  · rintro ⟨i, instanceId, spec, hx, rfl⟩
    exact ⟨_, _, i, hx, rfl⟩

theorem replaceSpec_eq_some {spec : TaskSpec} {s' : Store} :
    s.replaceSpec id spec = some s' ↔ ∃ t, s.tasks[id]? = some t
      ∧ s' = { s with tasks := s.tasks.insert id { t with spec := spec } } := by
  rw [replaceSpec, Option.map_eq_some_iff]
  exact exists_congr fun _ => and_congr_right fun _ => eq_comm

/-! ## Templates -/

/-- The template that a manager has filed under a name. -/
def filedJob? (s : Store) (manager name : String) : Option Job :=
  s.jobs[manager]?.bind fun jobs => jobs[name]?

theorem filedJob?_saveJob {job : Job} :
    (s.saveJob manager job).filedJob? other name =
      if manager = other ∧ job.key.canonical = name then some job
      else s.filedJob? other name := by
  simp only [filedJob?, saveJob, Table.getElem?_insert]
  by_cases hm : manager = other
  · subst hm
    by_cases hn : job.key.canonical = name
    · simp [hn]
    · cases hj : s.jobs[manager]? <;>
        simp [Table.getElem?_insert, hn, Std.ExtTreeMap.getD_eq_getD_getElem?, hj]
  · simp [hm]

theorem filedJob?_removeJob {key : JobKey} :
    (s.removeJob key).filedJob? manager name =
      if key.canonical = name then none else s.filedJob? manager name := by
  simp only [filedJob?, removeJob, Std.ExtTreeMap.getElem?_filter', Std.ExtTreeMap.getElem?_map]
  cases hj : s.jobs[manager]? with
  | none => simp
  | some jobs =>
      have hentry : (jobs.erase key.canonical)[name]? =
          if key.canonical = name then none else jobs[name]? := Table.getElem?_erase
      cases he : (jobs.erase key.canonical).isEmpty with
      | false => simpa [Option.filter, he] using hentry
      | true =>
          rw [Std.ExtTreeMap.isEmpty_iff] at he
          rw [he, Std.ExtTreeMap.getElem?_empty] at hentry
          simpa [Option.filter, he] using hentry

theorem mem_jobsOf {job : Job} :
    job ∈ s.jobsOf manager ↔ ∃ name, s.filedJob? manager name = some job := by
  simp only [jobsOf, filedJob?]
  cases s.jobs[manager]? with
  | none => simp
  | some jobs => simp [Table.mem_values]

/-! ## Locks -/

theorem lock?_saveLock {lock : Lock} {key : JobKey} :
    (s.saveLock lock).lock? key =
      if lock.key.canonical = key.canonical then some lock else s.lock? key :=
  Table.getElem?_insert

theorem lock?_removeLock {k key : JobKey} :
    (s.removeLock k).lock? key = if k.canonical = key.canonical then none else s.lock? key :=
  Table.getElem?_erase

theorem lock?_releaseLock {lock : Lock} {key : JobKey} : (s.releaseLock lock).lock? key =
    if lock.key.canonical = key.canonical ∧ ∃ stored, s.lock? lock.key = some stored
        ∧ stored.token = lock.token
      then none else s.lock? key := by
  rw [releaseLock]
  cases hl : s.lock? lock.key with
  | none => simp
  | some stored =>
      by_cases ht : stored.token = lock.token
      · simp [ht, lock?_removeLock]
      · simp [ht]

theorem releaseLock_cases (s : Store) (lock : Lock) :
    s.releaseLock lock = s ∨ s.releaseLock lock = s.removeLock lock.key := by
  rw [releaseLock]
  split
  · split
    · exact Or.inr rfl
    · exact Or.inl rfl
  · exact Or.inl rfl

@[simp] theorem tasks_releaseLock {lock : Lock} : (s.releaseLock lock).tasks = s.tasks := by
  rcases s.releaseLock_cases lock with h | h <;> rw [h]
  rfl

@[simp] theorem filedJob?_releaseLock {lock : Lock} :
    (s.releaseLock lock).filedJob? manager name = s.filedJob? manager name := by
  rcases s.releaseLock_cases lock with h | h <;> rw [h]
  rfl

/-- A job may be changed exactly if its lock, if there is one, is presented. -/
theorem checkLock_eq_ok {key : JobKey} {held : Option Lock} :
    s.checkLock key held = .ok () ↔ ∀ stored, s.lock? key = some stored →
      ∃ shown, held = some shown ∧ shown.key = stored.key ∧ shown.token = stored.token := by
  cases hl : s.lock? key with
  | none => simp [checkLock, hl]
  | some stored => cases held <;> simp [checkLock, hl, Lock.matches?]

/-! ## Everything under its own name -/

/-- Nothing is filed under a name that is not its own. -/
structure Filed (s : Store) : Prop where
  tasks : s.TasksFiled
  jobs : ∀ manager name job, s.filedJob? manager name = some job → job.key.canonical = name
  locks : ∀ (name : String) (lock : Lock), s.locks[name]? = some lock → lock.key.canonical = name

namespace Filed

theorem empty : Filed .empty where
  tasks _ _ h := by simp at h
  jobs _ _ _ h := by simp [filedJob?] at h
  locks _ _ h := by simp at h

theorem saveTasks {tasks : List Task} (hs : s.Filed) : (s.saveTasks tasks).Filed where
  tasks id t h := (of_getElem?_saveTasks h).elim And.right (hs.tasks id t)
  jobs := hs.jobs
  locks := hs.locks

theorem deleteTasks {ids : List String} (hs : s.Filed) : (s.deleteTasks ids).Filed where
  tasks id t h := by
    rw [getElem?_deleteTasks] at h
    split at h
    · cases h
    · exact hs.tasks id t h
  jobs := hs.jobs
  locks := hs.locks

theorem moveTasks {stamp : Stamp} {q : TaskQuery} {message : Option String}
    {next : Status → Option Status} (hs : s.Filed) :
    (s.moveTasks stamp q message next).1.Filed where
  tasks id t h := by
    obtain ⟨t, ht, rfl | ⟨-, status, -, rfl⟩⟩ := of_getElem?_moveTasks h
    · exact hs.tasks id _ ht
    · exact hs.tasks id t ht
  jobs := hs.jobs
  locks := hs.locks

theorem replaceSpec {spec : TaskSpec} {s' : Store} (hs : s.Filed)
    (h : s.replaceSpec id spec = some s') : s'.Filed := by
  obtain ⟨t, ht, rfl⟩ := replaceSpec_eq_some.mp h
  refine ⟨fun other u hu => ?_, hs.jobs, hs.locks⟩
  rw [Table.getElem?_insert] at hu
  split at hu
  · rename_i hid
    cases hu
    exact hid ▸ hs.tasks id t ht
  · exact hs.tasks other u hu

theorem saveJob {job : Job} (hs : s.Filed) : (s.saveJob manager job).Filed where
  tasks := hs.tasks
  jobs m name j h := by
    rw [filedJob?_saveJob] at h
    split at h
    · rename_i hsame
      cases h
      exact hsame.2
    · exact hs.jobs m name j h
  locks := hs.locks

theorem removeJob {key : JobKey} (hs : s.Filed) : (s.removeJob key).Filed where
  tasks := hs.tasks
  jobs m name j h := by
    rw [filedJob?_removeJob] at h
    split at h
    · cases h
    · exact hs.jobs m name j h
  locks := hs.locks

theorem saveLock {lock : Lock} (hs : s.Filed) : (s.saveLock lock).Filed where
  tasks := hs.tasks
  jobs := hs.jobs
  locks name l h := by
    change (s.locks.insert lock.key.canonical lock)[name]? = _ at h
    rw [Table.getElem?_insert] at h
    split at h
    · rename_i hname
      cases h
      exact hname
    · exact hs.locks name l h

theorem removeLock {key : JobKey} (hs : s.Filed) : (s.removeLock key).Filed where
  tasks := hs.tasks
  jobs := hs.jobs
  locks name l h := by
    change (s.locks.erase key.canonical)[name]? = _ at h
    rw [Table.getElem?_erase] at h
    split at h
    · cases h
    · exact hs.locks name l h

theorem releaseLock {lock : Lock} (hs : s.Filed) : (s.releaseLock lock).Filed := by
  rcases s.releaseLock_cases lock with h | h <;> rw [h]
  · exact hs
  · exact hs.removeLock

end Filed

theorem Filed.job?_eq_some {key : JobKey} {job : Job} (hs : s.Filed) :
    s.job? manager key = some job ↔
      s.filedJob? manager key.canonical = some job ∧ job.key = key := by
  constructor
  · intro h
    obtain ⟨name, hname⟩ := mem_jobsOf.mp (List.mem_of_find?_eq_some h)
    have hkey : job.key = key := by simpa using List.find?_some h
    rw [← hkey, hs.jobs _ _ _ hname]
    exact ⟨hname, rfl⟩
  · rintro ⟨hfiled, rfl⟩
    cases hfind : s.job? manager job.key with
    | none =>
        have hnot := List.find?_eq_none.mp hfind job (mem_jobsOf.mpr ⟨_, hfiled⟩)
        simp at hnot
    | some found =>
        obtain ⟨name, hname⟩ := mem_jobsOf.mp (List.mem_of_find?_eq_some hfind)
        have hkey : found.key = job.key := by simpa using List.find?_some hfind
        rw [← hs.jobs _ _ _ hname, hkey, hfiled] at hname
        exact hname.symm

/-- What a manager has for a job hangs on the entry under the job's name. -/
theorem Filed.job?_congr {s' : Store} {key : JobKey} (hs : s.Filed) (hs' : s'.Filed)
    (h : s'.filedJob? manager key.canonical = s.filedJob? manager key.canonical) :
    s'.job? manager key = s.job? manager key := by
  refine Option.ext fun job => ?_
  rw [hs.job?_eq_some, hs'.job?_eq_some, h]

end Store

end JobControl
