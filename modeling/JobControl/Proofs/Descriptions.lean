import JobControl.Cron.Templates
import JobControl.Job.Sanitized
import JobControl.Proofs.Commands

/-!
# What is accepted of a description

Sanitizing succeeds on descriptions without defects only, and then it
fills what was left open and nothing more: the key of a job stays, and all
its tasks are of that job, one for each of its first instances. Steps on
cron templates file or launch a sanitized job.
-/

namespace JobControl

/-! ## Tasks and jobs -/

theorem ite_eq_none {α : Type} {c : Prop} [Decidable c] {a : α} {x : Option α} :
    (if c then some a else x) = none ↔ ¬c ∧ x = none := by
  by_cases h : c <;> simp [h]

theorem TaskSpec.sanitize_eq_ok {a b : TaskSpec} :
    a.sanitize = .ok b ↔ a.defect? = none ∧ b = a.populated := by
  -- to prove the equation of the definition would evaluate the checks
  delta sanitize
  cases a.defect? <;> simp [eq_comm]

theorem TaskSpec.jobKey_of_sanitize {a b : TaskSpec} (h : a.sanitize = .ok b) :
    b.jobKey = a.jobKey := by
  rw [(sanitize_eq_ok.mp h).2]
  rfl

theorem TaskSpec.role_of_sanitize {a b : TaskSpec} (h : a.sanitize = .ok b) :
    Text.blank a.owner.role = false := by
  obtain ⟨hsound, -⟩ := sanitize_eq_ok.mp h
  rw [defect?, ite_eq_none, Bool.not_eq_true, Bool.or_eq_false_iff] at hsound
  exact hsound.1.1

/-- What is filled in is no defect. -/
theorem TaskSpec.defect?_populated (t : TaskSpec) : t.populated.defect? = t.defect? := by
  have hlimit : t.populated.maxTaskFailures.filter (!isFailureLimit ·)
      = t.maxTaskFailures.filter (!isFailureLimit ·) := by
    rw [populated]
    cases t.maxTaskFailures with
    | none => rfl
    | some limit => rfl
  rw [defect?, hlimit]
  rfl

theorem TaskSpec.sanitize_of_sanitize {a b : TaskSpec} (h : a.sanitize = .ok b) :
    b.sanitize = .ok b := by
  obtain ⟨hsound, rfl⟩ := sanitize_eq_ok.mp h
  refine sanitize_eq_ok.mpr ⟨?_, rfl⟩
  rw [defect?_populated, hsound]

/-- What is equal as a whole is of the same job. Amounts of processors are
compared as floating-point numbers, so that equal is not identical. -/
theorem TaskSpec.jobKey_eq_of_beq {a b : TaskSpec} (h : (a == b) = true) :
    a.jobKey = b.jobKey := by
  cases a
  cases b
  simp only [BEq.beq, instBEqTaskSpec.beq, Bool.and_eq_true, decide_eq_true_eq] at h
  obtain ⟨howner, henv, hname, -⟩ := h
  simp only [TaskSpec.jobKey, howner, henv, hname]

namespace Job

variable {j j' : Job}

theorem sanitize_eq_ok : j.sanitize = .ok j' ↔ j.defect? = none
    ∧ ∃ task, j.ownTask.sanitize = .ok task ∧ j' = { j with task := task } := by
  delta sanitize
  cases j.defect? with
  | some defect => simp only [reduceCtorEq, false_and]
  | none => simp only [map_eq_ok, true_and]

theorem defect?_eq_none : j.defect? = none ↔ j.key.isValid = true
    ∧ Text.blank j.owner.role = false ∧ Text.blank j.owner.user = false
    ∧ j.owner.role = j.key.role ∧ ¬j.instanceCount ≤ 0 := by
  simp only [defect?, ite_eq_none, Bool.not_eq_true', Bool.not_eq_false, Bool.not_eq_true,
    bne_iff_ne, ne_eq, Decidable.not_not, and_true]

theorem owner_of_sanitize (h : j.sanitize = .ok j') : j.owner.role = j.key.role :=
  (defect?_eq_none.mp (sanitize_eq_ok.mp h).1).2.2.2.1

theorem key_of_sanitize (h : j.sanitize = .ok j') : j'.key = j.key := by
  obtain ⟨-, task, -, rfl⟩ := sanitize_eq_ok.mp h
  rfl

/-- The owner of an accepted job has the role of its key. -/
theorem namedRole_of_sanitize (h : j.sanitize = .ok j') :
    some j.owner.role = some j'.key.role := by
  rw [key_of_sanitize h, owner_of_sanitize h]

theorem taskKey_of_sanitize (h : j.sanitize = .ok j') : j'.task.jobKey = j'.key := by
  have howner := owner_of_sanitize h
  obtain ⟨-, task, htask, rfl⟩ := sanitize_eq_ok.mp h
  rw [TaskSpec.jobKey_of_sanitize htask, TaskSpec.jobKey, ownTask, howner]

theorem key_isValid_of_sanitize (h : j.sanitize = .ok j') : j'.key.isValid = true := by
  rw [key_of_sanitize h]
  exact (defect?_eq_none.mp (sanitize_eq_ok.mp h).1).1

theorem instanceCount_pos_of_sanitize (h : j.sanitize = .ok j') :
    0 < j'.instanceCount.toInt := by
  obtain ⟨hsound, task, -, rfl⟩ := sanitize_eq_ok.mp h
  obtain ⟨-, -, -, -, hcount⟩ := defect?_eq_none.mp hsound
  rwa [Int32.not_le, Int32.lt_iff_toInt_lt] at hcount

theorem ownTask_sanitize_of_sanitize (h : j.sanitize = .ok j') :
    j.ownTask.sanitize = .ok j'.task := by
  obtain ⟨-, task, htask, rfl⟩ := sanitize_eq_ok.mp h
  exact htask

theorem task_sanitize_of_sanitize (h : j.sanitize = .ok j') :
    j'.task.sanitize = .ok j'.task :=
  TaskSpec.sanitize_of_sanitize (ownTask_sanitize_of_sanitize h)

theorem instanceCount_of_sanitize (h : j.sanitize = .ok j') :
    j'.instanceCount = j.instanceCount := by
  obtain ⟨-, task, -, rfl⟩ := sanitize_eq_ok.mp h
  rfl

theorem sanitize_of_sanitize (h : j.sanitize = .ok j') : j'.sanitize = .ok j' := by
  obtain ⟨hsound, task, htask, rfl⟩ := sanitize_eq_ok.mp h
  have hown : ({ j with task := task } : Job).ownTask = task := by
    rw [(TaskSpec.sanitize_eq_ok.mp htask).2]
    rfl
  refine sanitize_eq_ok.mpr ⟨hsound, task, ?_, rfl⟩
  rw [hown]
  exact TaskSpec.sanitize_of_sanitize htask

end Job

theorem length_instanceIds {count : Int32} :
    (instanceIds count).length = count.toInt.toNat := by
  rw [instanceIds, List.length_map, List.length_range]

theorem mem_instanceIds {count i : Int32} :
    i ∈ instanceIds count ↔ 0 ≤ i.toInt ∧ i.toInt < count.toInt := by
  rw [instanceIds, List.mem_map]
  constructor
  · rintro ⟨n, hn, rfl⟩
    rw [List.mem_range] at hn
    have hlt := count.toInt_lt
    rw [Int32.toInt_ofNat_of_lt (by omega)]
    omega
  · rintro ⟨hlow, hhigh⟩
    refine ⟨i.toInt.toNat, List.mem_range.mpr (by omega), ?_⟩
    have hlt := i.toInt_lt
    refine Int32.toInt_inj.mp ?_
    rw [Int32.toInt_ofNat_of_lt (by omega)]
    omega

/-- An accepted job has an instance. -/
theorem Job.instanceIds_ne_nil_of_sanitize {j j' : Job} (h : j.sanitize = .ok j') :
    instanceIds j'.instanceCount ≠ [] := by
  have hcount := instanceCount_pos_of_sanitize h
  rw [← List.length_pos_iff, length_instanceIds]
  omega

theorem nodup_instanceIds (count : Int32) : (instanceIds count).Nodup := by
  rw [instanceIds, List.Nodup, List.pairwise_map]
  refine List.Pairwise.imp_of_mem (fun {a b} ha hb hne hab => hne ?_) List.nodup_range
  rw [List.mem_range] at ha hb
  have hlt := count.toInt_lt
  have hto := congrArg Int32.toInt hab
  rw [Int32.toInt_ofNat_of_lt (by omega), Int32.toInt_ofNat_of_lt (by omega)] at hto
  exact Int.ofNat_inj.mp hto

theorem map_fst_specs {ids : List Int32} {spec : TaskSpec} :
    (ids.map fun id => (id, spec)).map Prod.fst = ids := by
  rw [List.map_map]
  exact List.map_id _

namespace Sanitized

variable {j : Job} {s : Sanitized}

theorem ofJob_eq_ok : ofJob j = .ok s ↔ j.sanitize = .ok s.job
    ∧ s.cron = .ofSchedule s.job.cronSchedule
    ∧ s.warnings = if s.cron == .emptySchedule then [emptyScheduleWarning] else [] := by
  obtain ⟨job, start, warnings⟩ := s
  simp only [ofJob, map_eq_ok, mk.injEq]
  constructor
  · rintro ⟨_, hjob, rfl, rfl, hwarnings⟩
    exact ⟨hjob, rfl, hwarnings⟩
  · rintro ⟨hjob, rfl, hwarnings⟩
    exact ⟨job, hjob, rfl, rfl, hwarnings⟩

theorem sanitize_of_ofJob (h : ofJob j = .ok s) : j.sanitize = .ok s.job :=
  (ofJob_eq_ok.mp h).1

theorem jobKey_of_mem_tasks (h : ofJob j = .ok s) {x : Int32 × TaskSpec} (hx : x ∈ s.tasks) :
    x.2.jobKey = s.job.key := by
  obtain ⟨id, -, rfl⟩ := List.mem_map.mp hx
  exact Job.taskKey_of_sanitize (sanitize_of_ofJob h)

theorem sanitize_of_mem_tasks (h : ofJob j = .ok s) {x : Int32 × TaskSpec}
    (hx : x ∈ s.tasks) : x.2.sanitize = .ok x.2 := by
  obtain ⟨id, -, rfl⟩ := List.mem_map.mp hx
  exact Job.task_sanitize_of_sanitize (sanitize_of_ofJob h)

theorem length_tasks : s.tasks.length = (instanceIds s.job.instanceCount).length :=
  List.length_map _

theorem map_fst_tasks : s.tasks.map Prod.fst = instanceIds s.job.instanceCount :=
  map_fst_specs

end Sanitized

/-! ## Cron templates -/

theorem Sanitized.cronTemplate_eq_ok {s : Sanitized} {template : Job} :
    s.cronTemplate = .ok template ↔ template = s.job
      ∧ ∃ text, s.schedule? = some text ∧ (Cron.Schedule.ofText? text).isSome = true := by
  rw [cronTemplate]
  cases s.schedule? with
  | none => simp
  | some text =>
      simp only [Option.some.injEq, exists_eq_left']
      generalize (Cron.Schedule.ofText? text).isSome = readable
      cases readable with
      | false => simp
      | true => exact ⟨fun h => ⟨(Except.ok.inj h).symm, rfl⟩, fun ⟨h, _⟩ => h ▸ rfl⟩

/-- The job has a schedule, and it can be read. -/
def Job.Schedulable (j : Job) : Prop :=
  ∃ text ∈ j.cronSchedule, text ≠ "" ∧ (Cron.Schedule.ofText? text).isSome = true

instance : DecidablePred Job.Schedulable := fun j =>
  inferInstanceAs (Decidable (∃ text ∈ j.cronSchedule,
    text ≠ "" ∧ (Cron.Schedule.ofText? text).isSome = true))

/-- A job that is started by a schedule has one that is not empty. -/
theorem Sanitized.schedulable_of_cronTemplate {j template : Job} {s : Sanitized}
    (hs : ofJob j = .ok s) (h : s.cronTemplate = .ok template) : s.job.Schedulable := by
  obtain ⟨-, text, htext, hreadable⟩ := cronTemplate_eq_ok.mp h
  rw [schedule?, isCron, (ofJob_eq_ok.mp hs).2.1] at htext
  split at htext
  · rename_i hstart
    refine ⟨text, htext, ?_, hreadable⟩
    rintro rfl
    rw [htext] at hstart
    cases hstart
  · cases htext

namespace Store

variable {s s' : Store} {job : Sanitized} {key : JobKey}

theorem createCronJob_eq_ok : s.createCronJob job = .ok s' ↔
    (∃ template, job.cronTemplate = .ok template) ∧ s.hasCronJob job.job.key = false
      ∧ s' = s.saveJob cronManager job.job := by
  simp only [createCronJob, bind_eq_ok, guard_eq_ok, Bool.not_eq_true]
  constructor
  · rintro ⟨template, ht, hnone, h⟩
    obtain ⟨rfl, -⟩ := Sanitized.cronTemplate_eq_ok.mp ht
    exact ⟨⟨_, ht⟩, hnone, (Except.ok.inj h).symm⟩
  · rintro ⟨⟨template, ht⟩, hnone, rfl⟩
    obtain ⟨rfl, -⟩ := Sanitized.cronTemplate_eq_ok.mp ht
    exact ⟨_, ht, hnone, rfl⟩

theorem updateCronJob_eq_ok : s.updateCronJob job = .ok s' ↔
    (∃ template, job.cronTemplate = .ok template) ∧ s.hasCronJob job.job.key = true
      ∧ s' = s.saveJob cronManager job.job := by
  simp only [updateCronJob, bind_eq_ok]
  constructor
  · rintro ⟨template, ht, h⟩
    obtain ⟨rfl, -⟩ := Sanitized.cronTemplate_eq_ok.mp ht
    split at h
    · rename_i hsome
      exact ⟨⟨_, ht⟩, hsome, (Except.ok.inj h).symm⟩
    · cases h
  · rintro ⟨⟨template, ht⟩, hsome, rfl⟩
    obtain ⟨rfl, -⟩ := Sanitized.cronTemplate_eq_ok.mp ht
    exact ⟨_, ht, if_pos hsome⟩

theorem deleteCronJob_eq_some : s.deleteCronJob key = some s' ↔
    s.hasCronJob key = true ∧ s' = s.removeJob key := by
  cases h : s.hasCronJob key <;> simp [deleteCronJob, h, eq_comm]

theorem cronLaunch_eq_ok {specs : List (Int32 × TaskSpec)} :
    s.cronLaunch key = .ok specs ↔ ∃ template, s.cronJob? key = some template
      ∧ s.findTasks (TaskQuery.ofJob key).active = []
      ∧ ∃ sanitized, Sanitized.ofJob template = .ok sanitized ∧ specs = sanitized.tasks := by
  rw [cronLaunch]
  cases s.cronJob? key with
  | none => simp
  | some template =>
      cases ha : s.findTasks (TaskQuery.ofJob key).active with
      | cons t ts => simp
      | nil => cases hs : Sanitized.ofJob template <;> simp [hs, eq_comm]

end Store

end JobControl
