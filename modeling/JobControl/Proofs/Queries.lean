import JobControl.Proofs.Tables
import JobControl.Store.Life

/-!
# What queries find

A query with identifiers is answered by looking these up, any other by
going through all tasks. Both find the tasks that are filed and meet the
query, provided that each task is filed under its own identifier; without
identifiers no proviso is needed. The queries that the commands ask, for
the active tasks of a job or of some of its instances, come down to
equations between keys.
-/

namespace JobControl

theorem Status.mem_active {s : Status} : s ∈ Status.active ↔ s.isActive = true := by
  cases s <;> decide

theorem setOf_active_ne_empty : (setOf Status.active : Statuses) ≠ ∅ := by
  rw [ne_eq, setOf_eq_empty_iff]
  decide

namespace TaskQuery

theorem admits_iff {α : Type} [BEq α] [LawfulBEq α] {wanted : Option α} {value : α} :
    admits wanted value = true ↔ ∀ a ∈ wanted, a = value := by
  cases wanted <;> simp [admits]

theorem admitsAny_iff {α : Type} [Ord α] [Std.TransOrd α] {wanted : Std.ExtTreeSet α}
    {value : α} : admitsAny wanted value = true ↔ wanted = ∅ ∨ value ∈ wanted := by
  simp [admitsAny, Std.ExtTreeSet.isEmpty_iff]

theorem isMetBy_iff {q : TaskQuery} {t : Task} : q.isMetBy t = true ↔
    (∀ role ∈ q.role, role = t.role) ∧ (∀ e ∈ q.environment, e = t.spec.environment)
      ∧ (∀ name ∈ q.jobName, name = t.spec.jobName) ∧ (q.taskIds = ∅ ∨ t.id ∈ q.taskIds)
      ∧ (q.statuses = ∅ ∨ t.status ∈ q.statuses)
      ∧ (q.instanceIds = ∅ ∨ t.instanceId ∈ q.instanceIds)
      ∧ ∀ host ∈ q.host, t.host = some host := by
  cases hh : q.host <;>
    simp [isMetBy, hh, admits_iff, admitsAny_iff, and_assoc]

theorem role_of_isMetBy {q : TaskQuery} {t : Task} {role : String}
    (h : q.isMetBy t = true) (hr : q.role = some role) : t.role = role :=
  ((isMetBy_iff.mp h).1 role hr).symm

/-- The active tasks of a job, or of some of its instances if any are named. -/
theorem ofJob_instances_active_isMetBy {key : JobKey} {ids : Std.ExtTreeSet Int32} {t : Task} :
    ((ofJob key).instances ids).active.isMetBy t = true ↔
      t.jobKey = key ∧ (ids = ∅ ∨ t.instanceId ∈ ids) ∧ t.status.isActive = true := by
  have hkey : t.jobKey = key ↔ key.role = t.role ∧ key.environment = t.spec.environment
      ∧ key.name = t.spec.jobName := by
    cases key
    simp only [Task.jobKey, TaskSpec.jobKey, Task.role, JobKey.mk.injEq, eq_comm]
  rw [isMetBy_iff, hkey]
  simp only [ofJob, everything, instances, active, Option.mem_def, Option.some.injEq,
    forall_eq', mem_setOf, Status.mem_active, setOf_active_ne_empty, false_or, true_or,
    true_and, reduceCtorEq, false_implies, implies_true, and_true, and_assoc]
  exact ⟨fun ⟨h₁, h₂, h₃, hs, hi⟩ => ⟨h₁, h₂, h₃, hi, hs⟩,
    fun ⟨h₁, h₂, h₃, hi, hs⟩ => ⟨h₁, h₂, h₃, hs, hi⟩⟩

theorem ofJob_active_isMetBy {key : JobKey} {t : Task} :
    (ofJob key).active.isMetBy t = true ↔ t.jobKey = key ∧ t.status.isActive = true := by
  have h := @ofJob_instances_active_isMetBy key ∅ t
  rwa [eq_self, true_or, true_and] at h

theorem ofRole_active_isMetBy {role : String} {t : Task} :
    (ofRole role).active.isMetBy t = true ↔ t.role = role ∧ t.status.isActive = true := by
  rw [isMetBy_iff]
  simp only [ofRole, everything, active, Option.mem_def, Option.some.injEq, forall_eq',
    mem_setOf, Status.mem_active, setOf_active_ne_empty, false_or, true_or, true_and,
    reduceCtorEq, false_implies, implies_true, and_true, eq_comm]

end TaskQuery

namespace Store

variable {s : Store} {q : TaskQuery} {t : Task}

theorem findTasks_eq_filter (h : q.taskIds = ∅) :
    s.findTasks q = s.tasks.values.filter q.isMetBy := by
  rw [findTasks, if_pos (Std.ExtTreeSet.isEmpty_iff.mpr h)]

theorem mem_findTasks (h : q.taskIds = ∅) :
    t ∈ s.findTasks q ↔ (∃ id : String, s.tasks[id]? = some t) ∧ q.isMetBy t = true := by
  rw [findTasks_eq_filter h, List.mem_filter, Table.mem_values]

/-- Each task is filed under its own identifier. -/
def TasksFiled (s : Store) : Prop :=
  ∀ (id : String) (t : Task), s.tasks[id]? = some t → t.id = id

theorem TasksFiled.mem_findTasks (hs : s.TasksFiled) :
    t ∈ s.findTasks q ↔ s.tasks[t.id]? = some t ∧ q.isMetBy t = true := by
  by_cases hq : q.taskIds = ∅
  · rw [Store.mem_findTasks hq]
    exact and_congr_left fun _ => ⟨fun ⟨_, h⟩ => hs _ _ h ▸ h, fun h => ⟨_, h⟩⟩
  · rw [findTasks, if_neg (by rwa [Std.ExtTreeSet.isEmpty_iff]), List.mem_filter,
      List.mem_filterMap]
    refine and_congr_left fun hmet => ⟨fun ⟨_, _, h⟩ => hs _ _ h ▸ h, fun h => ⟨t.id, ?_, h⟩⟩
    rw [Std.ExtTreeSet.mem_toList]
    exact (TaskQuery.isMetBy_iff.mp hmet).2.2.2.1.resolve_left hq

/-! ## The order of what is found -/

/-- The listing of all tasks is ordered by their identifiers. -/
theorem TasksFiled.pairwise_values (hs : s.TasksFiled) :
    s.tasks.values.Pairwise fun t u => compare t.id u.id = .lt := by
  rw [Table.values_eq_map_toList, List.pairwise_map]
  refine Std.ExtTreeMap.ordered_keys_toList.imp_of_mem fun {x y} hx hy hlt => ?_
  rw [Std.ExtTreeMap.mem_toList_iff_getElem?_eq_some] at hx hy
  rwa [hs _ _ hx, hs _ _ hy]

theorem TasksFiled.pairwise_findTasks (hs : s.TasksFiled) :
    (s.findTasks q).Pairwise fun t u => compare t.id u.id = .lt := by
  rw [findTasks]
  split
  · exact hs.pairwise_values.filter _
  · refine List.Pairwise.filter _ (List.Pairwise.filterMap _ ?_ Std.ExtTreeSet.ordered_toList)
    intro id id' hlt t ht u hu
    rwa [hs _ _ ht, hs _ _ hu]

/-- However a query is answered, the tasks that meet it are found, in the
order of the listing. -/
theorem TasksFiled.findTasks_eq_filter (hs : s.TasksFiled) :
    s.findTasks q = s.tasks.values.filter q.isMetBy := by
  have honce : ∀ {tasks : List Task},
      tasks.Pairwise (fun t u => compare t.id u.id = .lt) → tasks.Nodup := by
    intro tasks h
    refine h.imp fun hlt heq => ?_
    rw [heq, Std.compare_self] at hlt
    cases hlt
  have hfound := hs.pairwise_findTasks (q := q)
  have hlisted := hs.pairwise_values.filter q.isMetBy
  refine List.Perm.eq_of_pairwise (fun t u _ _ hlt hgt => ?_) hfound hlisted ?_
  · exact absurd hgt (Std.OrientedCmp.not_lt_of_lt hlt)
  · refine (List.perm_ext_iff_of_nodup (honce hfound) (honce hlisted)).mpr fun t => ?_
    rw [hs.mem_findTasks, List.mem_filter, Table.mem_values]
    exact and_congr_left fun _ => ⟨fun h => ⟨_, h⟩, fun ⟨_, h⟩ => hs _ _ h ▸ h⟩

end Store

end JobControl
