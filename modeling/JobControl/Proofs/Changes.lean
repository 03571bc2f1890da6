import JobControl.Proofs.Rewrites

/-!
# What commands change

`Change` says once what a command can do to the live store, with what was
checked before, and `Effect` what it can do to the world. Every command
that is carried out has one of these effects, and a dispatch carries out
an authorized command or changes nothing but the log. What is to be shown
of all commands is shown of the cases of `Change` and `Effect`; no proof
goes through the commands again.
-/

namespace JobControl

/-- The lock that is presented with a command that asks for one. -/
def Command.held? : Command → Option (Option Lock)
  | .createJob _ held | .scheduleCronJob _ held | .replaceCronTemplate _ held
  | .descheduleCronJob _ held | .addInstances _ held | .killTasks _ held
  | .restartShards _ _ held => some held
  | _ => none

/-- The role that a command names, if it is about one job: that of the
owner where the job is described, that of the key otherwise. -/
def Command.namedRole? : Command → Option String
  | .createJob job _ | .scheduleCronJob job _ | .replaceCronTemplate job _ => some job.owner.role
  | .descheduleCronJob key _ | .startCronJob key | .restartShards key _ _ | .acquireLock key =>
    some key.role
  | .addInstances addition _ => some addition.key.role
  | .releaseLock lock _ => some lock.key.role
  | _ => none

/-- The modes of all hosts after a command that gives some of them a mode. -/
def World.rehosted? (w : World) : Command → Option HostModes
  | .startMaintenance hosts => some (w.hosts.assign hosts fun _ => .scheduled)
  | .drainHosts hosts => some (w.hosts.assign hosts w.live.drainMode)
  | .endMaintenance hosts => some (w.hosts.release hosts)
  | _ => none

namespace Store

variable {s : Store} {key : JobKey} {specs : List (Int32 × TaskSpec)}

/-- Tasks can be launched for a job: they are accepted descriptions of that
job, each for an instance of its own, and none of these instances is
active. -/
structure Ready (s : Store) (key : JobKey) (specs : List (Int32 × TaskSpec)) : Prop where
  ofJob : ∀ x ∈ specs, x.2.jobKey = key
  accepted : ∀ x ∈ specs, x.2.sanitize = .ok x.2
  once : (specs.map Prod.fst).Nodup
  idle : ∀ (id : String) (t : Task), s.tasks[id]? = some t → t.jobKey = key →
    t.status.isActive = true → t.instanceId ∉ specs.map Prod.fst

/-- The lock of a job does not stand in the way of a command: none is asked
for, or it is presented if there is one. -/
def Unlocked (s : Store) (key : JobKey) (c : Command) : Prop :=
  ∀ held, c.held? = some held → s.checkLock key held = .ok ()

theorem inactive_of_findTasks (h : s.findTasks (TaskQuery.ofJob key).active = [])
    {id : String} {t : Task} (ht : s.tasks[id]? = some t) (hkey : t.jobKey = key) :
    t.status.isActive = false := by
  have hnot : t ∉ s.findTasks (TaskQuery.ofJob key).active := by simp [h]
  rw [mem_findTasks rfl, TaskQuery.ofJob_active_isMetBy] at hnot
  exact Bool.eq_false_iff.mpr fun hactive => hnot ⟨⟨id, ht⟩, hkey, hactive⟩

theorem ready_of_inactive {job : Job} {sanitized : Sanitized}
    (hs : Sanitized.ofJob job = .ok sanitized)
    (h : s.findTasks (TaskQuery.ofJob sanitized.job.key).active = []) :
    s.Ready sanitized.job.key sanitized.tasks where
  ofJob _ hx := Sanitized.jobKey_of_mem_tasks hs hx
  accepted _ hx := Sanitized.sanitize_of_mem_tasks hs hx
  once := Sanitized.map_fst_tasks ▸ nodup_instanceIds _
  idle id t ht hkey hactive := by
    rw [inactive_of_findTasks h ht hkey] at hactive
    cases hactive

theorem ready_of_cronLaunch (h : s.cronLaunch key = .ok specs) : s.Ready key specs := by
  obtain ⟨template, htemplate, hidle, sanitized, hs, rfl⟩ := cronLaunch_eq_ok.mp h
  have hkey : sanitized.job.key = key := by
    rw [Job.key_of_sanitize (Sanitized.sanitize_of_ofJob hs)]
    simpa using List.find?_some htemplate
  exact hkey ▸ ready_of_inactive hs (hkey ▸ hidle)

theorem ready_of_activeInstances {ids : Std.ExtTreeSet Int32} {task : TaskSpec}
    (hkey : task.jobKey = key) (haccepted : task.sanitize = .ok task)
    (h : (s.activeInstances key ids).isEmpty = true) :
    s.Ready key (ids.toList.map fun id => (id, task)) := by
  refine ⟨?_, ?_, ?_, fun id t ht hjob hactive hmem => ?_⟩
  · intro x hx
    obtain ⟨id, -, rfl⟩ := List.mem_map.mp hx
    exact hkey
  · intro x hx
    obtain ⟨id, -, rfl⟩ := List.mem_map.mp hx
    exact haccepted
  · rw [map_fst_specs]
    exact nodup_toList ids
  · rw [map_fst_specs, Std.ExtTreeSet.mem_toList] at hmem
    rw [activeInstances, Std.ExtTreeSet.isEmpty_iff, setOf_eq_empty_iff,
      List.map_eq_nil_iff] at h
    have hfound : t ∈ s.findTasks ((TaskQuery.ofJob key).instances ids).active := by
      rw [mem_findTasks rfl, TaskQuery.ofJob_instances_active_isMetBy]
      exact ⟨⟨id, ht⟩, hjob, Or.inr hmem, hactive⟩
    rw [h] at hfound
    cases hfound

theorem hasJob_eq_false : s.hasJob key = false ↔
    s.findTasks (TaskQuery.ofJob key).active = []
      ∧ ∀ manager ∈ s.managers, s.job? manager key = none := by
  simp [hasJob]

theorem checkLocks_eq_ok {held : Option Lock} : ∀ {keys : List JobKey},
    s.checkLocks keys held = .ok () ↔ ∀ key ∈ keys, s.checkLock key held = .ok ()
  | [] => by simp [checkLocks]
  | key :: keys => by
      show (s.checkLock key held >>= fun _ => s.checkLocks keys held) = .ok () ↔ _
      rw [bind_eq_ok, exists_unit, checkLocks_eq_ok, List.forall_mem_cons]

end Store

variable {env : Environment} {w w' : World} {p : Principal} {r : Response} {roles : Names}

/-- What a command of a principal can do to the live store, and the number
of tokens that have been handed out then. -/
inductive Change (env : Environment) (w : World) (p : Principal) :
    Command → Store → Nat → Prop
  | launched {c : Command} {key : JobKey} {specs : List (Int32 × TaskSpec)} {stamp : Stamp} :
      w.live.Unlocked key c → w.live.Ready key specs → c.namedRole? = some key.role →
      Change env w p c (w.live.saveTasks (waitingTasks stamp (w.freshToken env) specs))
        (w.issued + specs.length)
  | filed {c : Command} {job : Job} :
      w.live.Unlocked job.key c → job.sanitize = .ok job → c.namedRole? = some job.key.role →
      job.Schedulable → Change env w p c (w.live.saveJob cronManager job) w.issued
  | removed {key : JobKey} {held : Option Lock} :
      w.live.checkLock key held = .ok () → w.live.hasCronJob key = true →
      Change env w p (.descheduleCronJob key held) (w.live.removeJob key) w.issued
  | killed {q : TaskQuery} {held : Option Lock} :
      (∀ t ∈ w.live.findTasks q, w.live.checkLock t.jobKey held = .ok ()) →
      Change env w p (.killTasks q held)
        (w.live.changeState w.stamp q .killing (some ("Killed by " ++ p.name))).1 w.issued
  | restarted {key : JobKey} {shards : Std.ExtTreeSet Int32} {held : Option Lock} :
      w.live.checkLock key held = .ok () →
      Change env w p (.restartShards key shards held)
        (w.live.changeState w.stamp ((TaskQuery.ofJob key).instances shards).active .restarting
          (some ("Restarted by " ++ p.name))).1 w.issued
  | forced {id : String} {status : Status} :
      Change env w p (.forceTaskState id status)
        (w.live.forceState w.stamp id status (some ("Transition forced by " ++ p.name))).1
        w.issued
  | locked {key : JobKey} :
      w.live.lock? key = none →
      Change env w p (.acquireLock key)
        (w.live.saveLock ⟨key, w.freshToken env 0, p.name, w.nowMs, none⟩) (w.issued + 1)
  | released {lock : Lock} :
      w.live.checkLock lock.key (some lock) = .ok () →
      Change env w p (.releaseLock lock .checked) (w.live.releaseLock lock) w.issued
  | unlocked {lock : Lock} :
      Change env w p (.releaseLock lock .unchecked) (w.live.removeLock lock.key) w.issued
  | rewritten {commands : List Rewrite} {store : Store} :
      Store.Batch commands w.live store →
      Change env w p (.rewriteConfigs commands) store w.issued
  | allotted {role : String} {quota : Resources} :
      quota.hasNegative = false →
      Change env w p (.setQuota role quota) (w.live.saveQuota role quota) w.issued

/-- What a command of a principal can do to the world, the log aside. -/
inductive Effect (env : Environment) (w : World) (p : Principal) : Command → World → Prop
  | changed {c : Command} {store : Store} {issued : Nat} :
      Change env w p c store issued → Effect env w p c { w.commit store with issued := issued }
  | rehosted {c : Command} {modes : HostModes} :
      w.rehosted? c = some modes → Effect env w p c { w with hosts := modes }
  | backedUp : Effect env w p .performBackup
      { w with vault := (w.vault.backup env.retention w.nowMs w.committed).1 }
  | staged {id : String} {vault : Vault} :
      w.vault.stage id = .ok vault → Effect env w p (.stageRecovery id) { w with vault := vault }
  | trimmed {q : TaskQuery} {vault : Vault} :
      w.vault.deleteTasks q = .ok vault →
      Effect env w p (.deleteRecoveryTasks q) { w with vault := vault }
  | restored {vault : Vault} {store : Store} :
      w.vault.take = .ok (vault, store) →
      Effect env w p .commitRecovery { w.commit store with vault := vault }
  | unloaded : Effect env w p .unloadRecovery { w with vault := w.vault.unload }
  | written {files : Files} : Effect env w p .snapshot { w with files := files }
  | none {c : Command} : Effect env w p c w

/-- No refusal is reported as a success. -/
theorem Refusal.code_ne_ok (refusal : Refusal) : refusal.code ≠ .ok := by
  cases refusal with
  | fault f =>
      rw [Refusal.code]
      cases f.kind <;> simp [FaultKind.code]
  | denied | malformed => simp [Refusal.code]

/-- A check lets its caller through as it is. -/
theorem Principal.eq_of_check {access : Access} {q : Principal}
    (h : p.check roles access = .ok q) : q = p := by
  cases access <;>
    simp only [check, inRoles, withCapability] at h <;>
    repeat' split at h
  all_goals cases h
  all_goals rfl

namespace World

/-- A command has come to an end: it had an effect and was logged, and if
it was not answered as a success it had no effect. -/
def Carried (env : Environment) (w : World) (p : Principal) (c : Command) (w' : World)
    (r : Response) : Prop :=
  ∃ w₁ log, Effect env w p c w₁ ∧ w' = { w₁ with events := log }
    ∧ (r.code = .ok ∨ r.code = .warning ∨ w₁ = w)

theorem Carried.ok {c : Command} (h : Effect env w p c w') (hr : r.code = .ok) :
    w.Carried env p c w' r :=
  ⟨w', w'.events, h, rfl, Or.inl hr⟩

theorem Carried.change {c : Command} {store : Store} {issued : Nat} {log : EventLog}
    (h : Change env w p c store issued) (hr : r.code = .ok ∨ r.code = .warning)
    (hw : w' = { w.commit store with issued := issued, events := log }) :
    w.Carried env p c w' r :=
  ⟨_, log, .changed h, hw, hr.elim Or.inl fun h => Or.inr (Or.inl h)⟩

theorem foldl_record : ∀ (events : List Event) (w : World),
    ∃ log, events.foldl (World.record env) w = { w with events := log }
  | [], w => ⟨w.events, rfl⟩
  | e :: events, w => by
      obtain ⟨log, h⟩ := foldl_record events (w.record env e)
      exact ⟨log, by rw [List.foldl_cons, h]; rfl⟩

theorem carried_of_scheduleCronJob {job : Job} {held : Option Lock}
    (h : w.scheduleCronJob job held = .ok (w', r)) :
    w.Carried env p (.scheduleCronJob job held) w' r := by
  obtain ⟨s, hs, hlock, -, store, hstore, rfl, rfl⟩ := scheduleCronJob_eq_ok.mp h
  obtain ⟨⟨template, htemplate⟩, rfl⟩ : (∃ template, s.cronTemplate = .ok template)
      ∧ store = w.live.saveJob cronManager s.job := by
    split at hstore
    · obtain ⟨htemplate, -, hsaved⟩ := Store.updateCronJob_eq_ok.mp hstore
      exact ⟨htemplate, hsaved⟩
    · obtain ⟨htemplate, -, hsaved⟩ := Store.createCronJob_eq_ok.mp hstore
      exact ⟨htemplate, hsaved⟩
  have hsanitize := Sanitized.sanitize_of_ofJob hs
  refine .change (.filed ?_ ?_ ?_ ?_) (Or.inl rfl) rfl
  · rintro _ ⟨⟩
    exact hlock
  · exact Job.sanitize_of_sanitize hsanitize
  · exact Job.namedRole_of_sanitize hsanitize
  · exact Sanitized.schedulable_of_cronTemplate hs htemplate

theorem carried_of_replaceCronTemplate {job : Job} {held : Option Lock}
    (h : w.replaceCronTemplate job held = .ok (w', r)) :
    w.Carried env p (.replaceCronTemplate job held) w' r := by
  obtain ⟨hlock, s, hs, store, hstore, rfl, rfl⟩ := replaceCronTemplate_eq_ok.mp h
  have hsanitize := Sanitized.sanitize_of_ofJob hs
  obtain ⟨⟨template, htemplate⟩, -, rfl⟩ := Store.updateCronJob_eq_ok.mp hstore
  refine .change (.filed ?_ ?_ ?_ ?_) (Or.inl rfl) rfl
  · rintro _ ⟨⟩
    rwa [Job.key_of_sanitize hsanitize]
  · exact Job.sanitize_of_sanitize hsanitize
  · exact Job.namedRole_of_sanitize hsanitize
  · exact Sanitized.schedulable_of_cronTemplate hs htemplate

theorem carried_of_createJob {job : Job} {held : Option Lock}
    (h : w.createJob env job held = .ok (w', r)) :
    w.Carried env p (.createJob job held) w' r := by
  obtain ⟨s, hs, -, hlock, hnone, -, rfl, rfl⟩ := createJob_eq_ok.mp h
  refine .change (@Change.launched _ _ _ _ s.job.key _ _ ?_ ?_ ?_) (Or.inl rfl) rfl
  · rintro _ ⟨⟩
    exact hlock
  · exact Store.ready_of_inactive hs (Store.hasJob_eq_false.mp hnone).1
  · exact Job.namedRole_of_sanitize (Sanitized.sanitize_of_ofJob hs)

theorem carried_of_addInstances {addition : Addition} {held : Option Lock}
    (h : w.addInstances env addition held = .ok (w', r)) :
    w.Carried env p (.addInstances addition held) w' r := by
  obtain ⟨-, -, task, htask, hkey, -, hlock, hidle, -, rfl, rfl⟩ := addInstances_eq_ok.mp h
  refine .change (@Change.launched _ _ _ _ addition.key _ _ ?_ ?_ rfl) (Or.inl rfl) rfl
  · rintro _ ⟨⟩
    exact hlock
  · exact Store.ready_of_activeInstances hkey (TaskSpec.sanitize_of_sanitize htask) hidle

theorem carried_of_startCronJob {key : JobKey} (h : w.startCronJob env key = .ok (w', r)) :
    w.Carried env p (.startCronJob key) w' r := by
  obtain ⟨-, specs, hspecs, rfl, rfl⟩ := startCronJob_eq_ok.mp h
  refine .change (@Change.launched _ _ _ _ key _ _ ?_ ?_ rfl) (Or.inl rfl) rfl
  · rintro _ ⟨⟩
  · exact Store.ready_of_cronLaunch hspecs

theorem carried_of_rewriteConfigs {commands : List Rewrite}
    (h : w.rewriteConfigs env commands = .ok (w', r)) :
    w.Carried env p (.rewriteConfigs commands) w' r := by
  by_cases hne : commands = []
  · subst hne
    rw [rewriteConfigs_nil] at h
    cases h
    exact ⟨w, w.events, .none, rfl, Or.inr (Or.inr rfl)⟩
  · obtain ⟨store, misses, hall, rfl, rfl⟩ := (rewriteConfigs_eq_ok hne).mp h
    obtain ⟨log, hlog⟩ := @foldl_record env (missEvents w.nowMs misses) (w.commit store)
    refine .change (.rewritten (Store.batch_of_rewriteAll hall)) ?_ hlog
    split
    · exact Or.inl rfl
    · exact Or.inr rfl

theorem files_of_writeSnapshot (h : w.writeSnapshot env = .ok w') :
    ∃ files, w' = { w with files := files } := by
  rw [writeSnapshot] at h
  split at h
  · cases h
    exact ⟨w.files, rfl⟩
  · split at h
    · cases h
      exact ⟨_, rfl⟩
    · cases h

/-- **Every command that is carried out has one of the effects.** -/
theorem carried_of_perform {c : Command} (h : w.perform env p roles c = .ok (w', r)) :
    w.Carried env p c w' r := by
  cases c with
  | createJob job held => exact carried_of_createJob h
  | addInstances addition held => exact carried_of_addInstances h
  | scheduleCronJob job held => exact carried_of_scheduleCronJob h
  | replaceCronTemplate job held => exact carried_of_replaceCronTemplate h
  | startCronJob key => exact carried_of_startCronJob h
  | rewriteConfigs commands => exact carried_of_rewriteConfigs h
  | descheduleCronJob key held =>
      obtain ⟨hlock, store, hstore, rfl, rfl⟩ := descheduleCronJob_eq_ok.mp h
      obtain ⟨hthere, rfl⟩ := Store.deleteCronJob_eq_some.mp hstore
      exact .change (.removed hlock hthere) (Or.inl rfl) rfl
  | killTasks q held =>
      obtain ⟨-, hlocks, rfl, rfl⟩ := killTasks_eq_ok.mp h
      rw [Store.checkLocks_eq_ok] at hlocks
      refine .change (.killed fun t ht => hlocks _ ?_) (Or.inl rfl) rfl
      rw [Std.ExtTreeSet.mem_toList, mem_setOf]
      exact List.mem_map_of_mem ht
  | restartShards key shards held =>
      obtain ⟨-, -, hlock, -, rfl, rfl⟩ := restartShards_eq_ok.mp h
      exact .change (.restarted hlock) (Or.inl rfl) rfl
  | forceTaskState id status =>
      cases h
      exact .change .forced (Or.inl rfl) rfl
  | acquireLock key =>
      obtain ⟨hnone, lock, rfl, rfl, rfl⟩ := acquireLock_eq_ok.mp h
      exact .change (.locked hnone) (Or.inl rfl) rfl
  | releaseLock lock mode =>
      cases mode with
      | checked =>
          obtain ⟨hlock, rfl, rfl⟩ := releaseLock_checked_eq_ok.mp h
          exact .change (.released hlock) (Or.inl rfl) rfl
      | unchecked =>
          obtain ⟨rfl, rfl⟩ := releaseLock_unchecked_eq_ok.mp h
          exact .change .unlocked (Or.inl rfl) rfl
  | setQuota role quota =>
      simp only [perform, bind_eq_ok, checked_eq_ok, pure_eq_ok, Prod.mk.injEq] at h
      obtain ⟨store, hstore, rfl, rfl⟩ := h
      simp only [Store.allot, guard_eq_ok, Bool.not_eq_true] at hstore
      obtain ⟨-, hnegative, hsaved⟩ := hstore
      obtain rfl := Except.ok.inj hsaved
      exact .change (.allotted hnegative) (Or.inl rfl) rfl
  | startMaintenance hosts | drainHosts hosts | endMaintenance hosts =>
      cases h
      exact .ok (.rehosted rfl) rfl
  | maintenanceStatus hosts | listBackups =>
      cases h
      exact .ok .none rfl
  | performBackup =>
      cases h
      exact .ok .backedUp rfl
  | unloadRecovery =>
      cases h
      exact .ok .unloaded rfl
  | stageRecovery id =>
      simp only [perform, bind_eq_ok, checked_eq_ok, pure_eq_ok, Prod.mk.injEq] at h
      obtain ⟨vault, hvault, rfl, rfl⟩ := h
      exact .ok (.staged hvault) rfl
  | queryRecovery q =>
      simp only [perform, bind_eq_ok, checked_eq_ok, pure_eq_ok, Prod.mk.injEq] at h
      obtain ⟨tasks, -, rfl, rfl⟩ := h
      exact .ok .none rfl
  | deleteRecoveryTasks q =>
      simp only [perform, bind_eq_ok, checked_eq_ok, pure_eq_ok, Prod.mk.injEq] at h
      obtain ⟨vault, hvault, rfl, rfl⟩ := h
      exact .ok (.trimmed hvault) rfl
  | commitRecovery =>
      simp only [perform, bind_eq_ok, checked_eq_ok, pure_eq_ok, Prod.exists,
        Prod.mk.injEq] at h
      obtain ⟨vault, store, hvault, rfl, rfl⟩ := h
      exact .ok (.restored hvault) rfl
  | snapshot =>
      simp only [perform, bind_eq_ok, checked_eq_ok, pure_eq_ok, Prod.mk.injEq] at h
      obtain ⟨w₁, hw₁, rfl, rfl⟩ := h
      obtain ⟨files, rfl⟩ := files_of_writeSnapshot hw₁
      exact .ok .written rfl

/-! ## Dispatch -/

theorem authorize_eq_ok {nowMs : Int64} {seen : Store} {c : Command}
    {credential : Option Credential} : authorize env nowMs seen c credential = .ok p ↔
      ∃ shown, credential = some shown ∧ env.recognise nowMs shown = .ok p
        ∧ p.check (c.targetRoles seen) c.operation.access = .ok p := by
  cases credential with
  | none => simp [authorize, throw, throwThe, MonadExceptOf.throw]
  | some shown =>
      simp only [authorize, bind_eq_ok, Option.some.injEq, exists_eq_left']
      constructor
      · rintro ⟨q, hq, hchecked⟩
        obtain rfl := Principal.eq_of_check hchecked
        exact ⟨hq, hchecked⟩
      · rintro ⟨hq, hchecked⟩
        exact ⟨p, hq, hchecked⟩

theorem attempt_command_eq_ok {seen : Store} {c : Command} {credential : Option Credential} :
    w.attempt env seen (.command c credential) = .ok (w', r) ↔ c.precheck = .ok ()
      ∧ ∃ p, authorize env w.nowMs seen c credential = .ok p
      ∧ w.perform env p (c.targetRoles seen) c = .ok (w', r) := by
  cases credential with
  | none => simp [attempt, authorize_eq_ok]
  | some shown =>
      simp only [attempt, Option.isNone_some, Bool.false_eq_true, if_false, bind_eq_ok,
        exists_unit]
      cases authorize env w.nowMs seen c (some shown) <;>
        simp [throw, throwThe, MonadExceptOf.throw]

/-- A command is refused because its caller is denied, because of what it
says, or when it is carried out. -/
theorem attempt_command_eq_error {seen : Store} {c : Command} {credential : Option Credential}
    {refusal : Refusal} (h : w.attempt env seen (.command c credential) = .error refusal) :
    (∃ denial, refusal = .denied denial) ∨ c.precheck = .error refusal
      ∨ ∃ p, authorize env w.nowMs seen c credential = .ok p
        ∧ w.perform env p (c.targetRoles seen) c = .error refusal := by
  cases credential with
  | none =>
      cases h
      exact Or.inl ⟨_, rfl⟩
  | some shown =>
      simp only [attempt, Option.isNone_some, Bool.false_eq_true, if_false] at h
      cases hpre : c.precheck with
      | error malformed =>
          rw [hpre] at h
          cases h
          exact Or.inr (Or.inl rfl)
      | ok =>
          rw [hpre] at h
          cases hp : authorize env w.nowMs seen c (some shown) with
          | error denial =>
              simp only [hp] at h
              cases h
              exact Or.inl ⟨_, rfl⟩
          | ok p =>
              simp only [hp] at h
              exact Or.inr (Or.inr ⟨p, rfl, h⟩)

theorem attempt_of_authorized {seen : Store} {c : Command} {credential : Option Credential}
    (hpre : c.precheck = .ok ()) (hp : authorize env w.nowMs seen c credential = .ok p) :
    w.attempt env seen (.command c credential) = w.perform env p (c.targetRoles seen) c := by
  obtain ⟨shown, rfl, -⟩ := authorize_eq_ok.mp hp
  simp only [attempt, Option.isNone_some, Bool.false_eq_true, if_false, hpre, hp]
  rfl

/-- A refused request leaves one record and an answer that says why. -/
theorem dispatchSeeing_of_refused {seen : Store} {request : Request} {refusal : Refusal}
    (h : w.attempt env seen request = .error refusal) : w.dispatchSeeing env seen request =
      (w.record env (refusalEvent w.nowMs request.operation refusal), refusal.response) := by
  rw [dispatchSeeing, h]

theorem dispatchSeeing_of_done {seen : Store} {request : Request}
    (h : w.attempt env seen request = .ok (w', r)) :
    (w.dispatchSeeing env seen request).2 = r
      ∧ ∃ log, (w.dispatchSeeing env seen request).1 = { w' with events := log } := by
  rw [dispatchSeeing, h]
  dsimp only
  split
  · exact ⟨rfl, _, rfl⟩
  · exact ⟨rfl, _, rfl⟩

theorem dispatch_of_refused {request : Request} {refusal : Refusal}
    (h : w.attempt env w.live request = .error refusal) : w.dispatch env request =
      (w.record env (refusalEvent w.nowMs request.operation refusal), refusal.response) :=
  dispatchSeeing_of_refused h

theorem dispatch_of_done {request : Request} (h : w.attempt env w.live request = .ok (w', r)) :
    (w.dispatch env request).2 = r
      ∧ ∃ log, (w.dispatch env request).1 = { w' with events := log } :=
  dispatchSeeing_of_done h

/-- An answer of success tells of something that was done. -/
theorem attempt_of_ok {request : Request} (hok : (w.dispatch env request).2.code = .ok) :
    ∃ w' log, w.attempt env w.live request = .ok (w', (w.dispatch env request).2)
      ∧ (w.dispatch env request).1 = { w' with events := log } := by
  cases h : w.attempt env w.live request with
  | error refusal =>
      rw [dispatch_of_refused h] at hok
      exact absurd hok (Refusal.code_ne_ok refusal)
  | ok done =>
      obtain ⟨w', r⟩ := done
      obtain ⟨hanswer, log, hafter⟩ := dispatch_of_done h
      exact ⟨w', log, by rw [hanswer], hafter⟩

/-- A request has been answered: it was refused, or it asked for a view, or
an authorized command was carried out. -/
inductive Answered (env : Environment) (seen : Store) (w : World) :
    Request → World → Response → Prop
  | refused {request : Request} {refusal : Refusal} {log : EventLog} :
      w.attempt env seen request = .error refusal →
      Answered env seen w request { w with events := log } refusal.response
  | viewed {v : View} {r : Response} :
      w.answer v = .ok r → Answered env seen w (.view v) w r
  | carried {c : Command} {credential : Option Credential} {p : Principal} {w₁ : World}
      {r : Response} {log : EventLog} :
      c.precheck = .ok () → authorize env w.nowMs seen c credential = .ok p →
      w.perform env p (c.targetRoles seen) c = .ok (w₁, r) →
      Answered env seen w (.command c credential) { w₁ with events := log } r

theorem answered_dispatchSeeing {seen : Store} {request : Request} :
    Answered env seen w request (w.dispatchSeeing env seen request).1
      (w.dispatchSeeing env seen request).2 := by
  rw [dispatchSeeing]
  cases h : w.attempt env seen request with
  | error refusal => exact .refused h
  | ok done =>
      obtain ⟨w₁, r⟩ := done
      cases request with
      | view v =>
          rw [attempt] at h
          cases hv : w.answer v with
          | error refusal => rw [hv] at h; cases h
          | ok answer =>
              rw [hv] at h
              cases h
              cases v <;> exact .viewed hv
      | command c credential =>
          obtain ⟨hpre, p, hp, hdone⟩ := attempt_command_eq_ok.mp h
          simp only
          split
          · exact .carried hpre hp hdone
          · exact .carried hpre hp hdone

theorem answered_dispatch {request : Request} : Answered env w.live w request
    (w.dispatch env request).1 (w.dispatch env request).2 :=
  answered_dispatchSeeing

end World

end JobControl
