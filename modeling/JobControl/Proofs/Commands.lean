import JobControl.Control.Dispatch
import JobControl.Proofs.Tables

/-!
# What commands do

One equivalence for each command: when it succeeds, in which world it
leaves the scheduler and what it answers. The guards stand in the order in
which they are checked. Whoever reasons about a command cites its
equivalence and does not open its definition again; the `simp` lemmas on
steps that may fail, at the top, are what takes a definition apart.
-/

namespace JobControl

/-! ## Steps that may fail -/

section Steps

variable {ε α β : Type}

@[simp] theorem bind_eq_ok {x : Except ε α} {f : α → Except ε β} {b : β} :
    x >>= f = .ok b ↔ ∃ a, x = .ok a ∧ f a = .ok b := by
  cases x <;> simp [bind, Except.bind]

theorem map_eq_ok {x : Except ε α} {f : α → β} {b : β} :
    x.map f = .ok b ↔ ∃ a, x = .ok a ∧ b = f a := by
  cases x <;> simp [Except.map, eq_comm]

@[simp] theorem exists_unit {P : Unit → Prop} : (∃ u, P u) ↔ P () :=
  ⟨fun ⟨_, h⟩ => h, fun h => ⟨_, h⟩⟩

@[simp] theorem throw_bind {e : ε} {f : α → Except ε β} :
    (throw e >>= f : Except ε β) = .error e := rfl

@[simp] theorem pure_eq_ok {a b : α} : (pure a : Except ε α) = .ok b ↔ b = a := by
  simp [pure, Except.pure, eq_comm]

@[simp] theorem guard_eq_ok {c : Prop} [Decidable c] {e : ε} {x : Except ε α} {a : α} :
    (if c then .error e else x) = .ok a ↔ ¬c ∧ x = .ok a := by
  by_cases h : c <;> simp [h]

@[simp] theorem checked_eq_ok {cause : ε → Fault} {x : Except ε α} {a : α} :
    checked cause x = .ok a ↔ x = .ok a := by
  cases x <;> simp [checked]

@[simp] theorem bind_eq_error {x : Except ε α} {f : α → Except ε β} {e : ε} :
    x >>= f = .error e ↔ x = .error e ∨ ∃ a, x = .ok a ∧ f a = .error e := by
  cases x <;> simp [bind, Except.bind]

@[simp] theorem pure_ne_error {a : α} {e : ε} : (pure a : Except ε α) = .error e ↔ False := by
  simp [pure, Except.pure]

@[simp] theorem guard_eq_error {c : Prop} [Decidable c] {e e' : ε} {x : Except ε α} :
    (if c then .error e else x) = .error e' ↔ c ∧ e = e' ∨ ¬c ∧ x = .error e' := by
  by_cases h : c <;> simp [h]

@[simp] theorem checked_eq_error {cause : ε → Fault} {x : Except ε α} {refusal : Refusal} :
    checked cause x = .error refusal ↔ ∃ e, x = .error e ∧ refusal = .fault (cause e) := by
  cases x <;> simp [checked, eq_comm]

theorem checkKey_eq_ok {key : JobKey} : checkKey key = .ok () ↔ key.isValid = true := by
  simp [checkKey]

end Steps

/-! ## The vault -/

namespace Vault

variable {v v' : Vault} {s : Store}

theorem stage_eq_ok {id : String} : v.stage id = .ok v' ↔
    ∃ b, v.kept.find? (fun b => b.id == id) = some b ∧ v' = { v with staged := some b.store } := by
  rw [stage]
  cases v.kept.find? fun b => b.id == id <;> simp [eq_comm]

theorem deleteTasks_eq_ok {q : TaskQuery} : v.deleteTasks q = .ok v' ↔
    ∃ s, v.staged = some s
      ∧ v' = { v with staged := some (s.deleteTasks ((s.findTasks q).map Task.id)) } := by
  cases h : v.staged <;> simp [deleteTasks, h, eq_comm]

theorem take_eq_ok : v.take = .ok (v', s) ↔ v.staged = some s ∧ v' = { v with staged := none } := by
  cases h : v.staged <;> simp [take, h, eq_comm, and_comm]

end Vault

namespace World

variable {env : Environment} {w w' : World} {p : Principal} {r : Response}

/-! ## Launches -/

theorem createJob_eq_ok {job : Job} {lock : Option Lock} :
    w.createJob env job lock = .ok (w', r) ↔ ∃ s, Sanitized.ofJob job = .ok s ∧ s.isCron = false
      ∧ w.live.checkLock s.job.key lock = .ok () ∧ w.live.hasJob s.job.key = false
      ∧ w.live.admitLaunch s.job.key.role s.tasks = .ok ()
      ∧ w' = w.launch env w.stamp s.tasks
      ∧ r = .done (toString s.tasks.length ++ " new tasks pending for job "
          ++ s.job.key.canonical) s.warnings := by
  simp only [createJob, throw_bind, bind_eq_ok, exists_unit, guard_eq_ok, pure_eq_ok,
    checked_eq_ok, Bool.not_eq_true, Prod.mk.injEq]

theorem addInstances_eq_ok {addition : Addition} {lock : Option Lock} :
    w.addInstances env addition lock = .ok (w', r) ↔ addition.key.isValid = true
      ∧ addition.instanceIds.isEmpty = false
      ∧ ∃ task, addition.task.sanitize = .ok task ∧ task.jobKey = addition.key
      ∧ w.live.hasCronJob addition.key = false
      ∧ w.live.checkLock addition.key lock = .ok ()
      ∧ (w.live.activeInstances addition.key addition.instanceIds).isEmpty = true
      ∧ w.live.admitLaunch addition.key.role
          (addition.instanceIds.toList.map fun id => (id, task)) = .ok ()
      ∧ w' = w.launch env w.stamp (addition.instanceIds.toList.map fun id => (id, task))
      ∧ r = .done "Successfully added instances." [] := by
  simp only [addInstances, throw_bind, bind_eq_ok, exists_unit, guard_eq_ok, pure_eq_ok,
    checked_eq_ok, checkKey_eq_ok, Bool.not_eq_true, bne_eq_false_iff_eq, Bool.not_eq_false',
    Prod.mk.injEq]

theorem checkKey_eq_error {key : JobKey} {refusal : Refusal} : checkKey key = .error refusal ↔
    key.isValid = false ∧ refusal = .fault (.description (.invalidKey key)) := by
  cases h : key.isValid <;> simp [checkKey, h, eq_comm]

/-- The allotment is checked last, when everything else is in order. -/
theorem createJob_eq_quota {job : Job} {lock : Option Lock} {refusal : QuotaRefusal} :
    w.createJob env job lock = .error (.fault (.quota refusal)) ↔
      ∃ s, Sanitized.ofJob job = .ok s ∧ s.isCron = false
      ∧ w.live.checkLock s.job.key lock = .ok () ∧ w.live.hasJob s.job.key = false
      ∧ w.live.admitLaunch s.job.key.role s.tasks = .error refusal := by
  simp only [createJob, throw_bind, bind_eq_error, guard_eq_error, checked_eq_error,
    checked_eq_ok, exists_unit, pure_ne_error, Bool.not_eq_true, Refusal.fault.injEq,
    Fault.quota.injEq, exists_eq_right', reduceCtorEq, and_false, exists_false, false_or,
    or_false]

theorem addInstances_eq_quota {addition : Addition} {lock : Option Lock}
    {refusal : QuotaRefusal} :
    w.addInstances env addition lock = .error (.fault (.quota refusal)) ↔
      addition.key.isValid = true ∧ addition.instanceIds.isEmpty = false
      ∧ ∃ task, addition.task.sanitize = .ok task ∧ task.jobKey = addition.key
      ∧ w.live.hasCronJob addition.key = false
      ∧ w.live.checkLock addition.key lock = .ok ()
      ∧ (w.live.activeInstances addition.key addition.instanceIds).isEmpty = true
      ∧ w.live.admitLaunch addition.key.role
          (addition.instanceIds.toList.map fun id => (id, task)) = .error refusal := by
  simp only [addInstances, throw_bind, bind_eq_error, guard_eq_error, checked_eq_error,
    checked_eq_ok, exists_unit, pure_ne_error, checkKey_eq_ok, checkKey_eq_error,
    Bool.not_eq_true, bne_eq_false_iff_eq, Bool.not_eq_false', Refusal.fault.injEq,
    Fault.quota.injEq, exists_eq_right', reduceCtorEq, and_false, exists_false, false_or,
    or_false]

theorem launchCronJob_eq_ok {key : JobKey} : w.launchCronJob env key = .ok w' ↔
    ∃ specs, w.live.cronLaunch key = .ok specs ∧ w' = w.launch env ⟨w.nowMs, none⟩ specs := by
  rw [launchCronJob, map_eq_ok]

theorem startCronJob_eq_ok {key : JobKey} :
    w.startCronJob env key = .ok (w', r) ↔ key.isValid = true
      ∧ ∃ specs, w.live.cronLaunch key = .ok specs
      ∧ w' = w.launch env ⟨w.nowMs, none⟩ specs ∧ r = .done "Cron run started." [] := by
  simp only [startCronJob, bind_eq_ok, exists_unit, checkKey_eq_ok, launchCronJob]
  cases w.live.cronLaunch key <;> simp [Except.map]

/-! ## Templates -/

theorem scheduleCronJob_eq_ok {job : Job} {lock : Option Lock} :
    w.scheduleCronJob job lock = .ok (w', r) ↔ ∃ s, Sanitized.ofJob job = .ok s
      ∧ w.live.checkLock s.job.key lock = .ok () ∧ s.isCron = true
      ∧ ∃ store, (if w.live.hasCronJob s.job.key then w.live.updateCronJob s
          else w.live.createCronJob s) = .ok store
      ∧ w' = w.commit store
      ∧ r = .done ("Job " ++ s.job.key.canonical ++ " scheduled with cron schedule '"
          ++ s.job.cronSchedule.getD "" ++ "'") s.warnings := by
  simp only [scheduleCronJob, throw_bind, bind_eq_ok, exists_unit, guard_eq_ok, pure_eq_ok,
    checked_eq_ok, Bool.not_eq_true, Bool.not_eq_false', Prod.mk.injEq]

theorem descheduleCronJob_eq_ok {key : JobKey} {lock : Option Lock} :
    w.descheduleCronJob key lock = .ok (w', r) ↔ w.live.checkLock key lock = .ok ()
      ∧ ∃ store, w.live.deleteCronJob key = some store ∧ w' = w.commit store
      ∧ r = .done ("Job " ++ key.canonical ++ " removed from cron schedule") [] := by
  simp only [descheduleCronJob, bind_eq_ok, exists_unit, checked_eq_ok]
  cases w.live.deleteCronJob key <;> simp [throw, throwThe, MonadExceptOf.throw]

theorem replaceCronTemplate_eq_ok {job : Job} {lock : Option Lock} :
    w.replaceCronTemplate job lock = .ok (w', r) ↔ w.live.checkLock job.key lock = .ok ()
      ∧ ∃ s, Sanitized.ofJob job = .ok s
      ∧ ∃ store, w.live.updateCronJob s = .ok store ∧ w' = w.commit store
      ∧ r = .done ("Replaced template for: " ++ s.job.key.canonical) [] := by
  simp only [replaceCronTemplate, bind_eq_ok, exists_unit, pure_eq_ok, checked_eq_ok,
    Prod.mk.injEq]

/-! ## Moves -/

theorem killTasks_eq_ok {owners : Names} {q : TaskQuery} {lock : Option Lock} :
    w.killTasks p owners q lock = .ok (w', r) ↔
      (p.holds .root = true ∨ ∀ t ∈ w.live.findTasks q, owners.contains t.role = true)
      ∧ w.live.checkLocks (setOf ((w.live.findTasks q).map Task.jobKey) : JobKeys).toList lock
          = .ok ()
      ∧ w' = w.commit
          (w.live.changeState w.stamp q .killing (some ("Killed by " ++ p.name))).1
      ∧ r = .done ("Killed " ++ toString
          (w.live.changeState w.stamp q .killing (some ("Killed by " ++ p.name))).2
          ++ " tasks.") [] := by
  have hforeign : (!p.holds .root && !(setOf (((w.live.findTasks q).map Task.role).filter
      (!owners.contains ·)) : Names).isEmpty) = false ↔
        p.holds .root = true ∨ ∀ t ∈ w.live.findTasks q, owners.contains t.role = true := by
    cases p.holds .root <;>
      simp [Std.ExtTreeSet.isEmpty_iff, setOf_eq_empty_iff, List.filter_eq_nil_iff]
  simp only [killTasks, throw_bind, bind_eq_ok, exists_unit, guard_eq_ok, pure_eq_ok,
    checked_eq_ok, Prod.mk.injEq, Bool.not_eq_true, hforeign]

theorem restartShards_eq_ok {key : JobKey} {shards : Std.ExtTreeSet Int32}
    {lock : Option Lock} :
    w.restartShards p key shards lock = .ok (w', r) ↔ key.isValid = true
      ∧ shards.isEmpty = false ∧ w.live.checkLock key lock = .ok ()
      ∧ (∀ id ∈ shards, id ∈ w.live.activeInstances key shards)
      ∧ w' = w.commit (w.live.changeState w.stamp ((TaskQuery.ofJob key).instances shards).active
          .restarting (some ("Restarted by " ++ p.name))).1
      ∧ r = .done ("Shards are restarting. " ++ toString
          (w.live.changeState w.stamp ((TaskQuery.ofJob key).instances shards).active
            .restarting (some ("Restarted by " ++ p.name))).2
          ++ " of " ++ toString shards.size ++ " shards restarted.") [] := by
  have hmissing : (!(shards.toList.filter
      (!(w.live.activeInstances key shards).contains ·)).isEmpty) = false ↔
        ∀ id ∈ shards, id ∈ w.live.activeInstances key shards := by
    simp [List.filter_eq_nil_iff]
  simp only [restartShards, throw_bind, bind_eq_ok, exists_unit, guard_eq_ok, pure_eq_ok,
    checked_eq_ok, checkKey_eq_ok, Prod.mk.injEq, Bool.not_eq_true, hmissing]

/-! ## Locks -/

theorem acquireLock_eq_ok {key : JobKey} :
    w.acquireLock env p key = .ok (w', r) ↔ w.live.lock? key = none
      ∧ ∃ lock, lock = ⟨key, w.freshToken env 0, p.name, w.nowMs, none⟩
      ∧ w' = World.record env { w.commit (w.live.saveLock lock) with issued := w.issued + 1 }
          (.of .lockAcquired w.nowMs Operation.acquireLock.name lock.text)
      ∧ r = ⟨.ok, some "Lock has been acquired.", some (.lock lock), []⟩ := by
  simp only [acquireLock, lockJob, bind_eq_ok, pure_eq_ok, checked_eq_ok, Store.acquireLock]
  cases w.live.lock? key with
  | some stored => simp [Except.map]
  | none =>
      constructor
      · rintro ⟨_, h, hr⟩
        cases h
        cases hr
        exact ⟨rfl, _, rfl, rfl, rfl⟩
      · rintro ⟨-, _, rfl, rfl, rfl⟩
        exact ⟨_, rfl, rfl⟩

theorem releaseLock_checked_eq_ok {lock : Lock} :
    w.releaseLock env lock .checked = .ok (w', r) ↔
      w.live.checkLock lock.key (some lock) = .ok ()
      ∧ w' = World.record env (w.commit (w.live.releaseLock lock))
          (.of .lockReleased w.nowMs Operation.releaseLock.name lock.text)
      ∧ r = .done "Lock has been released." [] := by
  simp only [releaseLock, bind_eq_ok, exists_unit, checked_eq_ok, pure_eq_ok, Prod.mk.injEq,
    exists_eq_left]
  rfl

theorem releaseLock_unchecked_eq_ok {lock : Lock} :
    w.releaseLock env lock .unchecked = .ok (w', r) ↔
      w' = World.record env (w.commit (w.live.removeLock lock.key))
          (.of .lockReleased w.nowMs Operation.releaseLock.name lock.text)
      ∧ r = .done "Lock has been released." [] := by
  simp only [releaseLock, bind_eq_ok, pure_eq_ok, Prod.mk.injEq, exists_eq_left]
  rfl

/-! ## Rewrites -/

/-- The events of commands that missed. -/
def missEvents (nowMs : Int64) (misses : List RewriteMiss) : List Event :=
  misses.map fun miss =>
    Event.of .rewriteFailed nowMs Operation.rewriteConfigs.name miss.message

theorem rewriteConfigs_nil : w.rewriteConfigs env [] =
    .ok (w, .failed .error "No rewrite commands provided.") := rfl

theorem rewriteConfigs_eq_ok {commands : List Rewrite} (h : commands ≠ []) :
    w.rewriteConfigs env commands = .ok (w', r) ↔ ∃ store misses,
      w.live.rewriteAll commands = .ok (store, misses)
      ∧ w' = (missEvents w.nowMs misses).foldl (World.record env) (w.commit store)
      ∧ r = if misses = [] then .done "All rewrites completed successfully." []
          else .failed .warning (joined ", " (misses.map RewriteMiss.message)) := by
  have hne : commands.isEmpty = false := by simpa using h
  simp only [rewriteConfigs, hne, Bool.false_eq_true, if_false, bind_eq_ok, checked_eq_ok,
    Prod.exists]
  refine exists_congr fun store => exists_congr fun misses => and_congr_right fun _ => ?_
  cases misses with
  | nil => simp [missEvents]
  | cons miss misses =>
      rw [if_neg (by simp), if_neg (by simp), pure_eq_ok, Prod.mk.injEq]
      rfl

end World

end JobControl
