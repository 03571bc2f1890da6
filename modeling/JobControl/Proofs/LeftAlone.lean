import JobControl.Proofs.Identifiers

/-!
# What leaves a job alone

A job is left alone by a step that changes, adds and takes out none of its
tasks and no template of it. Launches, moves and changes of templates
leave alone every job but their own: new tasks are filed under names that
nothing was filed under before, and templates under a text that only their
own key has, provided that this key or the other one is valid.
-/

namespace JobControl

/-- Different keys have different texts if one of them is valid. -/
theorem JobKey.canonical_ne {k other : JobKey} (hk : k.isValid = true) (hne : other ≠ k) :
    other.canonical ≠ k.canonical :=
  fun h => hne (eq_of_canonical_eq hk h)

namespace Store

variable {s s' : Store} {k key : JobKey}

/-- A job is left alone: none of its tasks is changed, added or taken out,
and no template of it. -/
structure LeavesAlone (k : JobKey) (s s' : Store) : Prop where
  tasks : ∀ (id : String) (t : Task), t.jobKey = k →
    (s'.tasks[id]? = some t ↔ s.tasks[id]? = some t)
  templates : ∀ manager, s'.job? manager k = s.job? manager k

theorem LeavesAlone.refl : s.LeavesAlone k s := ⟨fun _ _ _ => Iff.rfl, fun _ => rfl⟩

/-- A launch of tasks of other jobs, under new identifiers. -/
theorem leavesAlone_saveTasks {tasks : List Task} (hother : ∀ t ∈ tasks, t.jobKey ≠ k)
    (hnew : ∀ t ∈ tasks, s.tasks[t.id]? = none) : s.LeavesAlone k (s.saveTasks tasks) where
  tasks id t hkey := by
    constructor
    · intro ht
      rcases of_getElem?_saveTasks ht with ⟨hmem, -⟩ | hold
      · exact absurd hkey (hother t hmem)
      · exact hold
    · exact getElem?_saveTasks_of_new hnew
  templates _ := rfl

theorem Ready.leavesAlone {specs : List (Int32 × TaskSpec)} {stamp : Stamp}
    {token : Nat → String} (hready : s.Ready key specs) (hne : key ≠ k)
    (hnew : ∀ t ∈ waitingTasks stamp token specs, s.tasks[t.id]? = none) :
    s.LeavesAlone k (s.saveTasks (waitingTasks stamp token specs)) := by
  refine leavesAlone_saveTasks (fun t ht hkey => hne ?_) hnew
  obtain ⟨i, x, hx, rfl⟩ := mem_waitingTasks.mp ht
  exact (hready.ofJob x (List.mem_of_getElem? hx)).symm.trans hkey

/-- A move of tasks of other jobs. -/
theorem leavesAlone_moveTasks {stamp : Stamp} {q : TaskQuery} {message : Option String}
    {next : Status → Option Status}
    (hother : ∀ (id : String) (t : Task), s.tasks[id]? = some t → q.isMetBy t = true →
      t.jobKey ≠ k) : s.LeavesAlone k (s.moveTasks stamp q message next).1 where
  tasks id t hkey := by
    constructor
    · intro ht
      obtain ⟨u, hu, rfl | ⟨hmet, status, -, rfl⟩⟩ := of_getElem?_moveTasks ht
      · exact hu
      · exact absurd hkey (hother id u hu hmet)
    · intro ht
      rw [getElem?_moveTasks_of_not, ht]
      intro u hu
      obtain rfl := Option.some.inj (hu.symm.trans ht)
      exact Bool.eq_false_iff.mpr fun hmet => hother id u hu hmet hkey
  templates _ := rfl

theorem leavesAlone_saveJob {manager : String} {job : Job} (hs : s.Filed)
    (hne : job.key.canonical ≠ k.canonical) : s.LeavesAlone k (s.saveJob manager job) where
  tasks _ _ _ := Iff.rfl
  templates other := by
    refine hs.job?_congr hs.saveJob ?_
    rw [filedJob?_saveJob, if_neg]
    exact fun hsame => hne hsame.2

theorem leavesAlone_removeJob (hs : s.Filed) (hne : key.canonical ≠ k.canonical) :
    s.LeavesAlone k (s.removeJob key) where
  tasks _ _ _ := Iff.rfl
  templates other := by
    refine hs.job?_congr hs.removeJob ?_
    rw [filedJob?_removeJob, if_neg hne]

end Store

end JobControl
