import JobControl.Proofs.CompareAndSwap
import JobControl.Proofs.JobListing
import JobControl.Proofs.SingleActive

/-!
# Tasks that are launched

A launch on demand adds one task for each instance that is asked for, and
touches nothing else. The tasks go into a table under texts made for them;
were one of these taken, or two of them alike, there would be fewer tasks
afterwards than were reported. Fresh tokens rule this out, and so it is the
size of the table that is compared and not only what can be found in it.

What a job would run can be asked beforehand. The preview and the creation
of a job both begin by sanitizing it, which looks at nothing else, so that
a preview holds good whenever and wherever it was made: what it lists is
what the tasks run, and a job that it refuses is never created. It lists
what each instance would run, leaving out what compares as equal to what it
has listed. All instances run the same, so that one entry is left; but only
because what has been accepted compares as equal to itself, as amounts that
are no numbers do not.
-/

namespace JobControl

/-! ## What a store gains -/

/-- The task has been launched, and nothing has happened to it since: it
waits, is on no host and has not failed. -/
structure Task.Waits (spec : TaskSpec) (t : Task) : Prop where
  spec : t.spec = spec
  status : t.status = .pending
  agentId : t.agentId = none
  host : t.host = none
  ports : t.ports = ∅
  failures : t.failures = 0
  ancestor : t.ancestor = none

namespace Store

variable {s s' : Store} {spec : TaskSpec} {ids : List Int32} {stamp : Stamp} {token : Nat → String}
  {wanted : Int32 → Prop} {count : Nat}

/-- A store has gained tasks that wait to run something, one for each wanted
instance. All other tasks, the templates, the locks and the allotments are
those from before. -/
structure Gains (s : Store) (spec : TaskSpec) (wanted : Int32 → Prop) (count : Nat) (s' : Store) :
    Prop where
  kept : ∀ (id : String) (t : Task), s.tasks[id]? = some t → s'.tasks[id]? = some t
  new : ∀ (id : String) (t : Task), s.tasks[id]? = none → s'.tasks[id]? = some t →
    t.id = id ∧ t.Waits spec ∧ wanted t.instanceId
  each : ∀ i, wanted i → ∃! id : String, s.tasks[id]? = none
    ∧ ∃ t, s'.tasks[id]? = some t ∧ t.instanceId = i
  size : s'.tasks.size = s.tasks.size + count
  rest : s' = { s with tasks := s'.tasks }

theorem waits_of_mem_waitingTasks {t : Task}
    (ht : t ∈ waitingTasks stamp token (ids.map fun id => (id, spec))) :
    t.Waits spec ∧ t.instanceId ∈ ids := by
  obtain ⟨k, x, hx, rfl⟩ := mem_waitingTasks.mp ht
  obtain ⟨i, hi, rfl⟩ := List.mem_map.mp (List.mem_of_getElem? hx)
  exact ⟨⟨rfl, rfl, rfl, rfl, rfl, rfl, rfl⟩, hi⟩

theorem exists_mem_waitingTasks {i : Int32} (hi : i ∈ ids) :
    ∃ t ∈ waitingTasks stamp token (ids.map fun id => (id, spec)), t.instanceId = i := by
  obtain ⟨k, hk⟩ := List.mem_iff_getElem?.mp hi
  refine ⟨_, mem_waitingTasks.mpr ⟨k, (i, spec), ?_, rfl⟩, rfl⟩
  rw [List.getElem?_map, hk]
  rfl

theorem gains_saveTasks (hs : s.Filed) (honce : ids.Nodup) (hwanted : ∀ i, wanted i ↔ i ∈ ids)
    (h : s.Launches spec (waitingTasks stamp token (ids.map fun id => (id, spec)))) :
    s.Gains spec wanted ids.length
      (s.saveTasks (waitingTasks stamp token (ids.map fun id => (id, spec)))) where
  kept _ _ ht := getElem?_saveTasks_of_new h.new ht
  new id t hnone ht := by
    rcases of_getElem?_saveTasks ht with ⟨hmem, hid⟩ | hold
    · obtain ⟨hwaits, hi⟩ := waits_of_mem_waitingTasks hmem
      exact ⟨hid, hwaits, (hwanted _).mpr hi⟩
    · rw [hnone] at hold
      cases hold
  each i hi := by
    have hfst : ((ids.map fun id => (id, spec)).map Prod.fst).Nodup := by rwa [map_fst_specs]
    obtain ⟨t, ht, rfl⟩ := exists_mem_waitingTasks ((hwanted i).mp hi)
    have hlisted := ((values_saveTasks_perm h.once h.new).mem_iff).mpr
      (List.mem_append_left s.tasks.values ht)
    obtain ⟨id, hid⟩ := Table.mem_values.mp hlisted
    obtain rfl := hs.saveTasks.tasks _ _ hid
    refine ⟨t.id, ⟨h.new t ht, t, hid, rfl⟩, ?_⟩
    rintro other ⟨hnone, u, hu, hsame⟩
    rcases of_getElem?_saveTasks hu with ⟨hmem, rfl⟩ | hold
    -- Both were made for the same instance, and so in the same turn.
    · rw [eq_of_mem_waitingTasks hfst hmem ht hsame]
    · rw [hnone] at hold
      cases hold
  size := by
    -- No text was taken and no two are alike, so that all listings add up.
    rw [← Table.length_values, ← Table.length_values,
      (values_saveTasks_perm h.once h.new).length_eq, List.length_append, length_waitingTasks,
      List.length_map, Nat.add_comm]
  rest := rfl

end Store

/-! ## Previews -/

/-- Of what compares as equal to itself one is left. -/
theorem eraseDups_replicate {α : Type} [BEq α] {a : α} (h : (a == a) = true) (n : Nat) :
    (List.replicate (n + 1) a).eraseDups = [a] := by
  have hnone : (List.replicate n a).filter (fun b => !b == a) = [] := by
    rw [List.filter_eq_nil_iff]
    intro b hb
    rw [List.eq_of_mem_replicate hb, h]
    decide
  rw [List.replicate_succ, List.eraseDups_cons, hnone, List.eraseDups_nil]

theorem Sanitized.eraseDups_tasks {job : Job} {s : Sanitized} (hs : ofJob job = .ok s) :
    (s.tasks.map Prod.snd).eraseDups = [s.job.task] := by
  have hsanitize := sanitize_of_ofJob hs
  have hself : (s.job.task == s.job.task) = true :=
    (TaskSpec.beq_iff_eq_of_sanitize (Job.task_sanitize_of_sanitize hsanitize)).mpr rfl
  have htasks : s.tasks.map Prod.snd
      = List.replicate (instanceIds s.job.instanceCount).length s.job.task := by
    rw [tasks, List.map_map]
    show List.map (Function.const _ s.job.task) _ = _
    exact List.map_const
  obtain ⟨n, hn⟩ := Nat.exists_eq_succ_of_ne_zero
    (mt List.eq_nil_of_length_eq_zero (Job.instanceIds_ne_nil_of_sanitize hsanitize))
  rw [htasks, hn, eraseDups_replicate hself]

namespace World

variable {env : Environment} {w w' : World} {job : Job} {s : Sanitized} {held : Option Lock}
  {credential : Option Credential} {spec : TaskSpec} {wanted : Int32 → Prop} {log : EventLog}

/-- Someone asks what the tasks of a job would run. -/
def preview (env : Environment) (w : World) (job : Job) : Response :=
  (w.dispatch env (.view (.populateJobConfig job))).2

theorem preview_of_ofJob (hs : Sanitized.ofJob job = .ok s) : w.preview env job
    = ⟨.ok, some "Tasks populated", some (.populated [s.job.task]), s.warnings⟩ := by
  have hanswer : w.answer (.populateJobConfig job)
      = .ok ⟨.ok, some "Tasks populated", some (.populated [s.job.task]), s.warnings⟩ := by
    unfold answer
    simp only [hs, Sanitized.eraseDups_tasks hs]
  have hattempt : w.attempt env w.live (.view (.populateJobConfig job))
      = (w.answer (.populateJobConfig job)).map fun response => (w, response) := rfl
  rw [hanswer] at hattempt
  exact (dispatch_of_done hattempt).1

theorem preview_ok_of_created
    (hok : (w.dispatch env (.command (.createJob job held) credential)).2.code = .ok)
    (env' : Environment) (v : World) : (preview env' v job).code = .ok := by
  obtain ⟨w', log, hattempt, -⟩ := attempt_of_ok hok
  obtain ⟨-, p, -, hdone⟩ := attempt_command_eq_ok.mp hattempt
  obtain ⟨s, hs, -⟩ := createJob_eq_ok.mp hdone
  rw [preview_of_ofJob hs]

/-! ## Launches on demand -/

/-- A number of tasks has been launched, one for each wanted instance, and
nothing else was done. -/
def Launched (w : World) (spec : TaskSpec) (wanted : Int32 → Prop) (count : Nat)
    (w' : World) : Prop :=
  ∃ (store : Store) (log : EventLog), w.live.Gains spec wanted count store
    ∧ w' = { w.commit store with issued := w.issued + count, events := log }

theorem Reachable.launched (hw : w.Reachable env) {ids : List Int32} {stamp : Stamp}
    (hne : ids ≠ []) (honce : ids.Nodup) (hwanted : ∀ i, wanted i ↔ i ∈ ids)
    (hafter : w' = { w.launch env stamp (ids.map fun id => (id, spec)) with events := log })
    (hfresh : env.Fresh w'.issued) : w.Launched spec wanted ids.length w' := by
  obtain rfl := hafter
  change env.Fresh (w.launch env stamp _).issued at hfresh
  rw [issued_launch] at hfresh
  have hlaunches := hw.launches hne hfresh stamp spec
  refine ⟨_, log, Store.gains_saveTasks hw.filed.live honce hwanted hlaunches, ?_⟩
  rw [launch, List.length_map]

theorem created_exactly (hw : w.Reachable env)
    (hok : (w.dispatch env (.command (.createJob job held) credential)).2.code = .ok)
    (hfresh : env.Fresh (w.dispatch env (.command (.createJob job held) credential)).1.issued) :
    let done := w.dispatch env (.command (.createJob job held) credential)
    ∃ (count : Nat) (spec : TaskSpec), job.instanceCount.toInt = count
      ∧ (∀ env' v, preview env' v job
        = ⟨.ok, some "Tasks populated", some (.populated [spec]), done.2.warnings⟩)
      ∧ w.Launched spec (fun i => 0 ≤ i.toInt ∧ i.toInt < count) count done.1
      ∧ done.2.message = some (toString count ++ " new tasks pending for job "
        ++ job.key.canonical) := by
  intro done
  obtain ⟨w', log, hattempt, hafter⟩ := attempt_of_ok hok
  obtain ⟨-, p, -, hdone⟩ := attempt_command_eq_ok.mp hattempt
  obtain ⟨s, hs, -, -, -, -, rfl, hanswer⟩ := createJob_eq_ok.mp hdone
  change done.1 = _ at hafter
  change done.2 = _ at hanswer
  have hsanitize := Sanitized.sanitize_of_ofJob hs
  have hcount : s.job.instanceCount = job.instanceCount :=
    Job.instanceCount_of_sanitize hsanitize
  have hlength : job.instanceCount.toInt = (instanceIds s.job.instanceCount).length := by
    have hpos := Job.instanceCount_pos_of_sanitize hsanitize
    rw [length_instanceIds, hcount] at *
    omega
  refine ⟨(instanceIds s.job.instanceCount).length, s.job.task, hlength, fun env' v => ?_, ?_, ?_⟩
  · rw [preview_of_ofJob hs, hanswer]
    rfl
  · refine hw.launched (Job.instanceIds_ne_nil_of_sanitize hsanitize) (nodup_instanceIds _)
      (fun i => ?_) hafter hfresh
    rw [mem_instanceIds, ← hlength, hcount]
  · rw [hanswer, Sanitized.length_tasks, Job.key_of_sanitize hsanitize]
    rfl

theorem added_exactly {addition : Addition} (hw : w.Reachable env)
    (hok : (w.dispatch env (.command (.addInstances addition held) credential)).2.code = .ok)
    (hfresh :
      env.Fresh (w.dispatch env (.command (.addInstances addition held) credential)).1.issued) :
    let done := w.dispatch env (.command (.addInstances addition held) credential)
    ∃ spec, addition.task.sanitize = .ok spec ∧ spec.jobKey = addition.key
      ∧ w.Launched spec (· ∈ addition.instanceIds) addition.instanceIds.size done.1 := by
  intro done
  obtain ⟨w', log, hattempt, hafter⟩ := attempt_of_ok hok
  obtain ⟨-, p, -, hdone⟩ := attempt_command_eq_ok.mp hattempt
  obtain ⟨-, hsome, spec, hspec, hkey, -, -, -, -, rfl, -⟩ := addInstances_eq_ok.mp hdone
  refine ⟨spec, hspec, hkey, ?_⟩
  rw [← Std.ExtTreeSet.length_toList]
  refine hw.launched ?_ (nodup_toList _) (fun i => Std.ExtTreeSet.mem_toList.symm) hafter hfresh
  intro hnil
  rw [← Std.ExtTreeSet.isEmpty_toList, hnil] at hsome
  cases hsome

/-- **Launches are exact.** When a job is created, the store gains as many
tasks as the job has instances, one for each, which run what a preview of the
job lists; when instances are added, it gains one task for each, which runs
what was described and accepted. Nothing else changes. A job that a preview
refuses is never created. -/
theorem launched_exactly (hw : w.Reachable env) :
    (∀ job held credential,
      let done := w.dispatch env (.command (.createJob job held) credential)
      done.2.code = .ok → env.Fresh done.1.issued →
      ∃ (count : Nat) (spec : TaskSpec), job.instanceCount.toInt = count
        ∧ (∀ env' v, preview env' v job
          = ⟨.ok, some "Tasks populated", some (.populated [spec]), done.2.warnings⟩)
        ∧ w.Launched spec (fun i => 0 ≤ i.toInt ∧ i.toInt < count) count done.1
        ∧ done.2.message = some (toString count ++ " new tasks pending for job "
          ++ job.key.canonical))
      ∧ (∀ addition held credential,
        let done := w.dispatch env (.command (.addInstances addition held) credential)
        done.2.code = .ok → env.Fresh done.1.issued →
        ∃ spec, addition.task.sanitize = .ok spec ∧ spec.jobKey = addition.key
          ∧ w.Launched spec (· ∈ addition.instanceIds) addition.instanceIds.size done.1)
      ∧ ∀ job env' v, (preview env' v job).code ≠ .ok → ∀ held credential,
        (w.dispatch env (.command (.createJob job held) credential)).2.code ≠ .ok :=
  ⟨fun _ _ _ => created_exactly hw, fun _ _ _ => added_exactly hw,
    fun _ env' v hrefused _ _ hok => hrefused (preview_ok_of_created hok env' v)⟩

/-- Two more web servers are asked for. -/
def webAddition : Addition where
  key := ⟨"www-data", "prod", "web"⟩
  task := (Job.plain ⟨"www-data", "prod", "web"⟩ "alice" 1).task
  instanceIds := setOf [1, 2]

/-- They are launched while the shop is closed. -/
def webAdded : World × Response :=
  shopClosed.dispatch rootOnly (.command (.addInstances webAddition none) (some (.apiKey "root")))

/-- The shop opens with two new tasks, or two web servers are added. A shop
without instances never opens. -/
theorem launched_exactly_in_shop :
    shopClosed.Reachable rootOnly
      ∧ shopClosed.live.tasks.size = 3 ∧ shopOpened.1.live.tasks.size = 5
      ∧ webAdded.1.live.tasks.size = 5
      ∧ shopOpened.2.message = some "2 new tasks pending for job www-data/prod/shop"
      ∧ (shopClosed.dispatch rootOnly (.command
          (.createJob { shop with instanceCount := 0 } none) (some (.apiKey "root")))).2.code
        ≠ .ok := by
  have hreached : furnished.Reachable rootOnly := ⟨0, 0, ∅, _, fun _ _ => trivial, rfl⟩
  have hclosed : shopClosed.Reachable rootOnly := hreached.run fun _ _ => trivial
  obtain ⟨hcreated, hadded, hrefused⟩ := launched_exactly hclosed
  have hsize : shopClosed.live.tasks.size = 3 := by decide +kernel
  have hfresh : ∀ n, n = 6 → rootOnly.Fresh n := fun n hn =>
    Environment.fresh_of_freshToken rfl (by omega)
  obtain ⟨hok, hissued⟩ : shopOpened.2.code = .ok ∧ shopOpened.1.issued = 6 := by decide +kernel
  have hopened := hcreated shop none (some (.apiKey "root"))
  dsimp only at hopened
  rw [← shopOpened] at hopened
  obtain ⟨count, spec, hcount, -, ⟨store, log, hgains, hafter⟩, hmessage⟩ :=
    hopened hok (hfresh _ hissued)
  obtain rfl : 2 = count := Int.ofNat_inj.mp hcount
  obtain ⟨hok', hissued'⟩ : webAdded.2.code = .ok ∧ webAdded.1.issued = 6 := by decide +kernel
  have hmore := hadded webAddition none (some (.apiKey "root"))
  dsimp only at hmore
  rw [← webAdded] at hmore
  obtain ⟨web, -, -, store', log', hgains', hafter'⟩ := hmore hok' (hfresh _ hissued')
  have htwo : webAddition.instanceIds.size = 2 := by decide +kernel
  refine ⟨hclosed, hsize, ?_, ?_, hmessage, hrefused _ rootOnly shopClosed (by decide +kernel) _ _⟩
  · rw [hafter]
    exact hgains.size.trans (by rw [hsize])
  · rw [hafter']
    exact hgains'.size.trans (by rw [hsize, htwo])

end World

end JobControl
