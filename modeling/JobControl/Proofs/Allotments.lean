import JobControl.Proofs.Admission

/-!
# Production and allotments

What is launched on demand, as a job or as more instances, leaves the
production of its role within the allotment, in memory and on disk. A run
of a template is not held to the allotment, and it does not add to
production either: until it is run, a template counts as if it ran. So a
run keeps what is consumed, and what is allotted, and production is within
the allotment after it if it was before. It need not be: an allotment can
be lowered while there is a template, and the template is run all the same.
-/

namespace JobControl

namespace World

variable {env : Environment} {w w' : World} {credential : Option Credential} {c : Command}
  {role : String} {key : JobKey} {id : String} {t : Task} {r : Response}

/-- The view of a role reports what its production consumes. -/
def Reports (env : Environment) (w : World) (role : String) (consumed : Medium → Int) : Prop :=
  ∃ info, (w.dispatch env (.view (.getQuota role))).2 = .found (.quota info)
    ∧ ∀ m, info.production.megabytes m = consumed m

theorem reports (hs : w.live.Accepted) (hrole : Text.blank role = false) :
    w.Reports env role fun m => min (w.live.need role m) Resources.largest :=
  ⟨_, dispatch_getQuota hrole, fun _ => Store.megabytes_production hs⟩

/-- A new task after a launch of one description is of that description. -/
theorem spec_of_launch {stamp : Stamp} {ids : List Int32} {spec : TaskSpec}
    (ht : (w.launch env stamp (ids.map fun id => (id, spec))).live.tasks[id]? = some t)
    (hnew : w.live.tasks[id]? = none) : t.spec = spec := by
  rcases Store.of_getElem?_saveTasks ht with ⟨hmem, -⟩ | hold
  · obtain ⟨i, x, hx, rfl⟩ := Store.mem_waitingTasks.mp hmem
    obtain ⟨instanceId, -, rfl⟩ := List.mem_map.mp (List.mem_of_getElem? hx)
    rfl
  · rw [hnew] at hold
    cases hold

/-! ## Launches on demand -/

/-- What a command launches by a description has been admitted. -/
theorem admitted_of_attempt (hs : w.live.Accepted) (hc : c.described?.isSome = true)
    (h : w.attempt env w.live (.command c credential) = .ok (w', r)) :
    ∃ role ids task, w.live.GrowsBy role ids task
      ∧ w.live.admitLaunch role (ids.map fun id => (id, task)) = .ok ()
      ∧ w' = w.launch env w.stamp (ids.map fun id => (id, task)) := by
  obtain ⟨-, p, -, hdone⟩ := attempt_command_eq_ok.mp h
  cases c with
  | createJob job held =>
      obtain ⟨s, hofJob, -, -, habsent, hadmit, hw', -⟩ := createJob_eq_ok.mp hdone
      exact ⟨_, _, _, Store.growsBy_of_hasJob hofJob habsent, hadmit, hw'⟩
  | addInstances addition held =>
      obtain ⟨-, hids, task, htask, hsame, hcron, -, -, hadmit, hw', -⟩ :=
        addInstances_eq_ok.mp hdone
      exact ⟨_, _, _, Store.growsBy_of_hasCronJob hs hids htask hsame hcron, hadmit, hw'⟩
  | _ => cases hc

/-- What is launched in production by a description fits in the allotment. -/
theorem need_le_allotment (hw : w.Reachable env) (hfresh : env.Fresh w'.issued)
    (hc : c.described?.isSome = true)
    (h : w.attempt env w.live (.command c credential) = .ok (w', r))
    (ht : w'.live.tasks[id]? = some t) (hnew : w.live.tasks[id]? = none)
    (hproduction : t.spec.isProduction = true) (m : Medium) :
    w'.live.need t.role m ≤ (w'.live.allotment t.role).megabytes m := by
  obtain ⟨role, ids, task, hgrows, hadmit, rfl⟩ := admitted_of_attempt hw.accepted.live hc h
  have hspec := spec_of_launch ht hnew
  have hrole : t.role = role := by
    rw [Task.role, hspec]
    exact hgrows.role_eq
  rw [hspec] at hproduction
  rw [hrole, hw.need_launch (issued_launch ▸ hfresh) hgrows hproduction]
  exact Store.fits_of_admitLaunch hw.accepted.live
    (TaskSpec.megabytes_pos_of_sanitize hgrows.accepted) hproduction hgrows.nonempty hadmit m

/-! ## Runs of templates -/

/-- A run of a template launches all its instances, of which none is
active. -/
theorem launch_of_startCronJob (hs : w.live.Accepted)
    (h : w.startCronJob env key = .ok (w', r)) :
    ∃ template, w.live.cronJob? key = some template ∧ template.sanitize = .ok template
      ∧ w.live.isRunning key = false
      ∧ w' = w.launch env ⟨w.nowMs, none⟩
          ((instanceIds template.instanceCount).map fun id => (id, template.task)) := by
  obtain ⟨-, specs, hspecs, hw', -⟩ := startCronJob_eq_ok.mp h
  obtain ⟨template, htemplate, hidle, sanitized, hofJob, rfl⟩ := Store.cronLaunch_eq_ok.mp hspecs
  obtain ⟨-, haccepted, -⟩ := hs.of_job? htemplate
  obtain rfl : sanitized.job = template :=
    Except.ok.inj ((Sanitized.sanitize_of_ofJob hofJob).symm.trans haccepted)
  refine ⟨sanitized.job, htemplate, haccepted, Bool.eq_false_iff.mpr fun hrunning => ?_, hw'⟩
  obtain ⟨id, t, ht, hkey, hactive⟩ := Store.isRunning_eq_true.mp hrunning
  rw [Store.inactive_of_findTasks hidle ht hkey] at hactive
  cases hactive

/-- A run of a template keeps what is consumed, by every role and in
production or not. -/
theorem demand_of_startCronJob {p : TaskSpec → Bool} {m : Medium} (hw : w.Reachable env)
    (hfresh : env.Fresh w'.issued) (h : w.startCronJob env key = .ok (w', r)) :
    Store.demand p m (w'.live.consumers role) = Store.demand p m (w.live.consumers role) := by
  have hs := hw.accepted.live
  obtain ⟨template, htemplate, haccepted, hidle, rfl⟩ := launch_of_startCronJob hs h
  have hcount := Job.instanceCount_pos_of_sanitize haccepted
  have hids := Job.instanceIds_ne_nil_of_sanitize haccepted
  refine Store.demand_of_template hs hw.filed.live htemplate hidle
    (hw.launches hids (issued_launch ▸ hfresh) ⟨w.nowMs, none⟩ template.task) ?_
  rw [Store.length_waitingTasks, List.length_map, length_instanceIds]
  omega

theorem need_of_startCronJob {m : Medium} (hw : w.Reachable env) (hfresh : env.Fresh w'.issued)
    (h : w.startCronJob env key = .ok (w', r)) : w'.live.need role m = w.live.need role m := by
  rw [Store.need_eq, Store.need_eq, demand_of_startCronJob hw hfresh h]

/-! ## The allotment after a launch -/

/-- A task in production is launched for a role from one world to another. -/
def Produces (w w' : World) (role : String) : Prop :=
  ∃ (id : String) (t : Task), w'.live.tasks[id]? = some t ∧ w.live.tasks[id]? = none
    ∧ t.role = role ∧ t.spec.isProduction = true

/-- **What is launched in production by a description stays within the
allotment, and a run of a template keeps what production consumes**, and
the allotment. -/
theorem production_within_allotment (hw : w.Reachable env)
    (h : w.dispatch env (.command c credential) = (w', r)) (hfresh : env.Fresh w'.issued)
    (hok : r.code = .ok) (hproduces : w.Produces w' role) :
    ∃ consumed, w'.Reports env role consumed
      ∧ (c.described?.isSome = true → ∀ m, consumed m ≤ (w'.live.allotment role).megabytes m)
      ∧ ∀ key, c = .startCronJob key →
        w.Reports env role consumed ∧ w'.live.allotment role = w.live.allotment role := by
  obtain ⟨id, t, ht, hnew, rfl, hproduction⟩ := hproduces
  obtain ⟨hafter, rfl⟩ : (w.dispatch env (.command c credential)).1 = w'
      ∧ (w.dispatch env (.command c credential)).2 = r := Prod.ext_iff.mp h
  obtain ⟨w₁, log, hattempt, hlogged⟩ := attempt_of_ok hok
  have hreached : w'.Reachable env := hafter ▸ hw.dispatch
  have hrole : Text.blank t.role = false :=
    TaskSpec.role_of_sanitize (hreached.accepted.live.tasks id t ht)
  refine ⟨_, reports hreached.accepted.live hrole, ?_⟩
  obtain rfl : w' = { w₁ with events := log } := hafter.symm.trans hlogged
  dsimp only at hfresh ht ⊢
  refine ⟨fun hc m => ?_, ?_⟩
  · exact Int.le_trans (Int.min_le_left _ _)
      (need_le_allotment hw hfresh hc hattempt ht hnew hproduction m)
  · rintro key rfl
    obtain ⟨-, p, -, hdone⟩ := attempt_command_eq_ok.mp hattempt
    have hneed : ∀ m, w₁.live.need t.role m = w.live.need t.role m :=
      fun _ => need_of_startCronJob hw hfresh hdone
    have hallotted : w₁.live.allotment t.role = w.live.allotment t.role := by
      obtain ⟨_, -, -, -, rfl⟩ := launch_of_startCronJob hw.accepted.live hdone
      rfl
    refine ⟨?_, hallotted⟩
    simp only [hneed]
    exact reports hw.accepted.live hrole

/-! ## An allotment that is lowered -/

/-- Alice's template of a job in production. -/
def nightly : Job :=
  { Job.plain shopKey "alice" 1 with cronSchedule := some "0 0 * * *", task := shopTask 64 }

/-- The template is within the allotment of the role, which is lowered
then. -/
def lowered : World :=
  (start 0 0 ∅ .empty).run operated
    [.request (.command (.setQuota "www-data" ⟨8, 100, 1000⟩) (some (.apiKey "ops"))),
    .request (.command (.scheduleCronJob nightly none) (some (.apiKey "alice"))),
    .request (.command (.setQuota "www-data" ⟨8, 10, 1000⟩) (some (.apiKey "ops")))]

/-- What a command of hers comes to. -/
def asAlice (w : World) (c : Command) : World × Response :=
  w.dispatch operated (.command c (some (.apiKey "alice")))

theorem dispatch_eq_asAlice : w.dispatch operated (.command c (some (.apiKey "alice"))) =
    ((w.asAlice c).1, (w.asAlice c).2) :=
  (Prod.eta (w.asAlice c)).symm

/-- What can be seen of a command of hers: it is answered as a success, and
there is a new task, which is in production and for the role. -/
def Seen (w : World) (c : Command) (id : String) : Prop :=
  (w.asAlice c).2.code = .ok ∧ (w.asAlice c).1.issued < 2 ^ 62
    ∧ (w.asAlice c).1.live.tasks[id]?.any
      (fun t => t.role == "www-data" && t.spec.isProduction) = true
    ∧ w.live.tasks[id]?.isNone = true

instance {w : World} {c : Command} {id : String} : Decidable (w.Seen c id) :=
  inferInstanceAs (Decidable (_ ∧ _ ∧ _ ∧ _))

theorem Seen.fresh (h : w.Seen c id) : operated.Fresh (w.asAlice c).1.issued :=
  Environment.fresh_of_freshToken rfl h.2.1

theorem Seen.produces (h : w.Seen c id) : w.Produces (w.asAlice c).1 "www-data" := by
  obtain ⟨-, -, hthere, hnew⟩ := h
  obtain ⟨t, ht, hmet⟩ := (Option.any_eq_true _ _).mp hthere
  rw [Bool.and_eq_true, beq_iff_eq] at hmet
  exact ⟨id, t, ht, Option.isNone_iff_eq_none.mp hnew, hmet⟩

theorem reachable_lowered : lowered.Reachable operated :=
  ⟨0, 0, ∅, _, fun _ _ => trivial, rfl⟩

/-- She can start a run of the template when it is not within the allotment
any more. -/
theorem seen_lowered : lowered.Seen (.startCronJob shopKey)
    (Task.idOf nightly.task 0 0 (Text.freshToken 1)) := by
  decide +kernel

/-- What she has in production is within the allotment after one more task,
and it is the same after a run of the template. -/
theorem production_within_allotment_for_alice :
    (∃ consumed, (allotted.asAlice (oneMore 36)).1.Reports operated "www-data" consumed
        ∧ ∀ m, consumed m
          ≤ ((allotted.asAlice (oneMore 36)).1.live.allotment "www-data").megabytes m)
      ∧ ∃ consumed,
        (lowered.asAlice (.startCronJob shopKey)).1.Reports operated "www-data" consumed
          ∧ lowered.Reports operated "www-data" consumed := by
  have hseen : allotted.Seen (oneMore 36) (Task.idOf (shopTask 36) 1 0 (Text.freshToken 2)) := by
    decide +kernel
  obtain ⟨consumed, hmore, hwithin, -⟩ := production_within_allotment reachable_allotted
    dispatch_eq_asAlice hseen.fresh hseen.1 hseen.produces
  obtain ⟨kept, hrun, -, hkept⟩ := production_within_allotment reachable_lowered
    dispatch_eq_asAlice seen_lowered.fresh seen_lowered.1 seen_lowered.produces
  exact ⟨⟨consumed, hmore, hwithin rfl⟩, kept, hrun, (hkept shopKey rfl).1⟩

/-- Production may be more than the allotment after a run of a template. -/
theorem not_always_within_allotment : ¬ ∀ (env : Environment) (w w' : World) (c : Command)
    (credential : Option Credential) (r : Response) (role : String),
    w.Reachable env → w.dispatch env (.command c credential) = (w', r) →
    env.Fresh w'.issued → (c.described?.isSome = true ∨ ∃ key, c = .startCronJob key) →
    r.code = .ok → w.Produces w' role →
    ∃ consumed, w'.Reports env role consumed
      ∧ ∀ m, consumed m ≤ (w'.live.allotment role).megabytes m := by
  intro hall
  obtain ⟨consumed, ⟨info, hinfo, hconsumed⟩, hwithin⟩ := hall operated lowered _ _ _ _ _
    reachable_lowered dispatch_eq_asAlice seen_lowered.fresh (Or.inr ⟨shopKey, rfl⟩)
    seen_lowered.1 seen_lowered.produces
  rw [dispatch_getQuota (by decide +kernel)] at hinfo
  cases hinfo
  have hle := hwithin .memory
  rw [← hconsumed] at hle
  revert hle
  decide +kernel

end World

end JobControl
