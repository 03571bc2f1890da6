import JobControl.Proofs.FreshTokens
import JobControl.Proofs.LeftAlone

/-!
# What a lock protects from

Once a job with a valid key is locked, its lock stays as it is until a
request takes it out of the way: one that releases it in unchecked mode
with the right to do so, one that presents its token to release it, or one
that puts a backup back. Until then nobody can lock the job again, and no
command that asks for a lock touches the job unless this lock is presented
with it.

The three parts of a valid key can be read off its text, under which locks
and templates are filed; this is why the lock of another job is never in
the way, and never lets anyone in. Identifiers of new tasks have to be
new, so that a launch for another job does not overwrite a task of this
one.
-/

namespace JobControl

/-- The request may take a lock out of the way. -/
def Request.MayFree (env : Environment) (w : World) (lock : Lock) : Request → Prop
  | .command .commitRecovery _ => True
  | .command (.releaseLock shown .unchecked) credential => shown.key = lock.key
      ∧ ∃ p, World.authorize env w.nowMs w.live (.releaseLock shown .unchecked) credential = .ok p
  | .command (.releaseLock shown .checked) _ =>
      shown.key = lock.key ∧ shown.token = lock.token
  | _ => False

namespace Store

variable {s s' : Store} {key k : JobKey} {lock : Lock}

theorem locks_of_applied {command : Rewrite} (h : Applied command s s') :
    s'.locks = s.locks := by
  cases h with
  | job => rfl
  | task _ _ _ hspec =>
      obtain ⟨filed, -, rfl⟩ := replaceSpec_eq_some.mp hspec
      rfl

theorem Batch.locks {commands : List Rewrite} (h : Batch commands s s') :
    s'.locks = s.locks :=
  h.keeps (I := fun s' => s'.locks = s.locks)
    (fun _ _ _ _ happly heq => (locks_of_applied happly).trans heq) rfl

/-- A locked job is not changed by anyone who does not present its lock. -/
theorem ne_of_checkLock {held : Option Lock} (hlock : s.lock? k = some lock)
    (hforeign : ∀ shown ∈ held, shown.key ≠ lock.key ∨ shown.token ≠ lock.token)
    (h : s.checkLock key held = .ok ()) : key ≠ k := by
  rintro rfl
  obtain ⟨shown, hshown, hkey, htoken⟩ := checkLock_eq_ok.mp h lock hlock
  rcases hforeign shown hshown with hne | hne
  · exact hne hkey
  · exact hne htoken

end Store

namespace World

variable {env : Environment} {w w' : World} {p : Principal} {c : Command}
  {credential : Option Credential} {store : Store} {issued : Nat} {lock : Lock}

/-! ## The lock stays -/

theorem lock?_of_change (h : Change env w p c store issued) (hvalid : lock.key.isValid = true)
    (hlock : w.live.lock? lock.key = some lock)
    (hauthorized : authorize env w.nowMs w.live c credential = .ok p)
    (hkeep : ¬(Request.command c credential).MayFree env w lock) :
    store.lock? lock.key = some lock := by
  cases h with
  | launched | filed | removed | killed | restarted | forced | allotted => exact hlock
  | @locked key hnone =>
      rw [Store.lock?_saveLock, if_neg, hlock]
      intro hname
      obtain rfl : key = lock.key := JobKey.eq_of_canonical_eq hvalid hname
      rw [hlock] at hnone
      cases hnone
  | @released shown =>
      rw [Store.lock?_releaseLock, if_neg, hlock]
      rintro ⟨hname, stored, hstored, htoken⟩
      have hkey := JobKey.eq_of_canonical_eq hvalid hname
      rw [hkey, hlock] at hstored
      cases hstored
      exact hkeep ⟨hkey, htoken.symm⟩
  | @unlocked shown =>
      rw [Store.lock?_removeLock, if_neg, hlock]
      intro hname
      exact hkeep ⟨JobKey.eq_of_canonical_eq hvalid hname, p, hauthorized⟩
  | rewritten hbatch =>
      rw [Store.lock?, hbatch.locks]
      exact hlock

theorem lock?_of_effect (h : Effect env w p c w') (hvalid : lock.key.isValid = true)
    (hlock : w.live.lock? lock.key = some lock)
    (hauthorized : authorize env w.nowMs w.live c credential = .ok p)
    (hkeep : ¬(Request.command c credential).MayFree env w lock) :
    w'.live.lock? lock.key = some lock := by
  cases h with
  | changed h => exact lock?_of_change h hvalid hlock hauthorized hkeep
  | restored => exact absurd trivial hkeep
  | rehosted | backedUp | staged | trimmed | unloaded | written | none => exact hlock

/-- A request that does not free the lock leaves it as it is. -/
theorem Answered.lock? {request : Request} {r : Response}
    (h : Answered env w.live w request w' r) (hvalid : lock.key.isValid = true)
    (hlock : w.live.lock? lock.key = some lock) (hkeep : ¬request.MayFree env w lock) :
    w'.live.lock? lock.key = some lock := by
  cases h with
  | refused => exact hlock
  | viewed => exact hlock
  | carried _ hp hdone =>
      obtain ⟨w₁, log, heffect, rfl, -⟩ := carried_of_perform hdone
      have hlock' := lock?_of_effect heffect hvalid hlock hp hkeep
      exact hlock'

/-- **A lock outlives every run whose requests do not free it.** -/
theorem lock?_of_run {inputs : List Input} (hvalid : lock.key.isValid = true)
    (hlock : w.live.lock? lock.key = some lock)
    (hkeep : ∀ v request, (v, request) ∈ w.exchanges env inputs →
      ¬request.MayFree env v lock) :
    (w.run env inputs).live.lock? lock.key = some lock :=
  run_keeps (I := fun v => v.live.lock? lock.key = some lock) (fun _ _ h => h)
    (fun v request hmem hv => answered_dispatch.lock? hvalid hv (hkeep v request hmem))
    hlock

/-! ## Nobody locks a locked job -/

theorem acquireLock_of_locked {key : JobKey} (hlock : w.live.lock? key = some lock) :
    w.acquireLock env p key = .error (.fault (.lock (.inProgress lock key))) := by
  have hstored : w.live.acquireLock key p.name (w.freshToken env 0) w.nowMs
      = .error (.inProgress lock key) := by
    rw [Store.acquireLock, hlock]
  rw [acquireLock, lockJob, hstored]
  rfl

theorem Answered.refused_of_locked {key : JobKey} {r : Response}
    (h : Answered env w.live w (.command (.acquireLock key) credential) w' r)
    (hlock : w.live.lock? key = some lock) : r.code = .lockError ∨ r.code = .authFailed := by
  cases h with
  | refused hrefused =>
      rcases attempt_command_eq_error hrefused with ⟨denial, rfl⟩ | hpre | ⟨p, -, hdone⟩
      · exact Or.inr rfl
      · cases hpre
      · rw [perform, acquireLock_of_locked hlock] at hdone
        cases hdone
        exact Or.inl rfl
  | carried _ _ hdone =>
      rw [perform, acquireLock_of_locked hlock] at hdone
      cases hdone

end World

/-! ## Nobody else changes the job -/

namespace World

variable {env : Environment} {w w' : World} {p : Principal} {c : Command}
  {credential : Option Credential} {store : Store} {issued : Nat} {lock : Lock}
  {held : Option Lock}

theorem leavesAlone_of_change (h : Change env w p c store issued) (hw : w.Reachable env)
    (hvalid : lock.key.isValid = true) (hlock : w.live.lock? lock.key = some lock)
    (hc : c.held? = some held)
    (hforeign : ∀ shown ∈ held, shown.key ≠ lock.key ∨ shown.token ≠ lock.token)
    (hfresh : env.Fresh issued) : w.live.LeavesAlone lock.key store := by
  have hne : ∀ {key : JobKey}, w.live.checkLock key held = .ok () → key ≠ lock.key :=
    Store.ne_of_checkLock hlock hforeign
  have hfiled := hw.filed.live
  cases h with
  | launched hunlocked hready =>
      exact hready.leavesAlone (hne (hunlocked held hc)) fun t ht =>
        hw.unfiled_of_mem_waitingTasks hfresh ht
  | filed hunlocked =>
      exact Store.leavesAlone_saveJob hfiled
        (JobKey.canonical_ne hvalid (hne (hunlocked held hc)))
  | removed hunlocked =>
      cases hc
      exact Store.leavesAlone_removeJob hfiled (JobKey.canonical_ne hvalid (hne hunlocked))
  | killed hunlocked =>
      -- the lock of each job was checked that has a task among those found
      cases hc
      refine Store.leavesAlone_moveTasks fun id t ht hmet => hne (hunlocked t ?_)
      rw [hfiled.tasks.mem_findTasks, hfiled.tasks id t ht]
      exact ⟨ht, hmet⟩
  | restarted hunlocked =>
      cases hc
      refine Store.leavesAlone_moveTasks fun id t ht hmet => ?_
      rw [(TaskQuery.ofJob_instances_active_isMetBy.mp hmet).1]
      exact hne hunlocked
  | forced | locked | released | unlocked | rewritten | allotted => cases hc

theorem Answered.leavesAlone {r : Response}
    (h : Answered env w.live w (.command c credential) w' r) (hw : w.Reachable env)
    (hvalid : lock.key.isValid = true) (hlock : w.live.lock? lock.key = some lock)
    (hc : c.held? = some held)
    (hforeign : ∀ shown ∈ held, shown.key ≠ lock.key ∨ shown.token ≠ lock.token)
    (hfresh : env.Fresh w'.issued) : w.live.LeavesAlone lock.key w'.live := by
  cases h with
  | refused => exact .refl
  | carried _ _ hdone =>
      obtain ⟨w₁, log, heffect, rfl, -⟩ := carried_of_perform hdone
      cases heffect with
      | changed h => exact leavesAlone_of_change h hw hvalid hlock hc hforeign hfresh
      | rehosted | none => exact .refl
      | backedUp | staged | trimmed | restored | unloaded | written => cases hc

/-! ## A locked job -/

theorem Answered.acquired {key : JobKey} {r : Response}
    (h : Answered env w.live w (.command (.acquireLock key) credential) w' r)
    (hresult : r.result = some (.lock lock)) :
    lock.key = key ∧ w'.live.lock? key = some lock := by
  cases h with
  | refused => cases hresult
  | carried _ _ hdone =>
      obtain ⟨-, acquired, rfl, rfl, rfl⟩ := acquireLock_eq_ok.mp hdone
      cases hresult
      refine ⟨rfl, ?_⟩
      show (w.live.saveLock _).lock? key = _
      rw [Store.lock?_saveLock, if_pos rfl]

/-- Who is answered that a job is locked gets a lock under his own name. -/
theorem Answered.lock_of_ok {key : JobKey} {r : Response}
    (h : Answered env w.live w (.command (.acquireLock key) credential) w' r)
    (hok : r.code = .ok) : ∃ p,
      authorize env w.nowMs w.live (.acquireLock key) credential = .ok p
        ∧ r.result = some (.lock ⟨key, w.freshToken env 0, p.name, w.nowMs, none⟩) := by
  cases h with
  | refused => exact absurd hok (Refusal.code_ne_ok _)
  | carried _ hp hdone =>
      obtain ⟨-, acquired, rfl, -, rfl⟩ := acquireLock_eq_ok.mp hdone
      exact ⟨_, hp, rfl⟩

/-- **A lock protects its job.** After a job with a valid key was locked,
and as long as no request frees the lock, it is the lock of the job,
nobody locks the job, and no command that asks for a lock changes anything
of the job unless this lock is presented. -/
theorem lock_protects {k : JobKey} {lock : Lock} {inputs : List Input}
    (hvalid : k.isValid = true) (hw : w.Reachable env)
    (hacquired : (w.dispatch env (.command (.acquireLock k) credential)).2.code = .ok
      ∧ (w.dispatch env (.command (.acquireLock k) credential)).2.result = some (.lock lock))
    (hkeep : ∀ v request, (v, request) ∈
      ((w.dispatch env (.command (.acquireLock k) credential)).1).exchanges env inputs →
      ¬request.MayFree env v lock) :
    let v := (w.dispatch env (.command (.acquireLock k) credential)).1.run env inputs
    v.live.lock? k = some lock
      ∧ (∀ shown, (v.dispatch env (.command (.acquireLock k) shown)).2.code = .lockError
        ∨ (v.dispatch env (.command (.acquireLock k) shown)).2.code = .authFailed)
      ∧ ∀ c held shown, c.held? = some held →
        (∀ other ∈ held, other.key ≠ lock.key ∨ other.token ≠ lock.token) →
        env.Fresh (v.dispatch env (.command c shown)).1.issued →
        v.live.LeavesAlone k (v.dispatch env (.command c shown)).1.live := by
  obtain ⟨rfl, hlock⟩ := answered_dispatch.acquired hacquired.2
  intro v
  have hv : v.live.lock? lock.key = some lock := lock?_of_run hvalid hlock hkeep
  have hreached : (w.run env (.request (.command (.acquireLock lock.key) credential)
      :: inputs)).Reachable env := hw.run fun _ _ => trivial
  refine ⟨hv, fun shown => answered_dispatch.refused_of_locked hv, ?_⟩
  intro c held shown hc hforeign hfresh
  exact answered_dispatch.leavesAlone hreached hvalid hv hc hforeign hfresh

/-! ## Two colleagues -/

/-- Whoever shows a key has its name, and acts for the same role. -/
def colleagues : Environment := .plain fun key => ⟨key, setOf ["www-data"], ∅⟩

def webKey : JobKey := ⟨"www-data", "prod", "web"⟩

/-- Alice runs a job with two tasks. -/
def webRuns : World :=
  (start 0 0 ∅ .empty).run colleagues
    [.request (.command (.createJob (.plain webKey "alice" 2) none) (some (.apiKey "alice")))]

/-- The lock that Alice gets for it. -/
def webLock : Lock := ⟨webKey, Text.freshToken 3, "alice", 0, none⟩

/-- Somewhat later Bob asks for a lock. -/
def bobAsks : List Input :=
  [.pause 1000, .request (.command (.acquireLock webKey) (some (.apiKey "bob")))]

/-- Alice has locked the job and Bob has asked. -/
def webLater : World :=
  (webRuns.dispatch colleagues (.command (.acquireLock webKey)
    (some (.apiKey "alice")))).1.run colleagues bobAsks

theorem webLock_acquired :
    (webRuns.dispatch colleagues (.command (.acquireLock webKey)
        (some (.apiKey "alice")))).2.code = .ok
      ∧ (webRuns.dispatch colleagues (.command (.acquireLock webKey)
        (some (.apiKey "alice")))).2.result = some (.lock webLock) := by
  have hcode : (webRuns.dispatch colleagues (.command (.acquireLock webKey)
      (some (.apiKey "alice")))).2.code = .ok := by decide +kernel
  obtain ⟨p, hp, hresult⟩ := answered_dispatch.lock_of_ok hcode
  obtain ⟨shown, hshown, hrecognised, -⟩ := authorize_eq_ok.mp hp
  cases hshown
  cases hrecognised
  have hissued : webRuns.issued = 2 := by decide +kernel
  refine ⟨hcode, hresult.trans ?_⟩
  rw [freshToken, hissued]
  rfl

theorem bobAsks_keeps {w v : World} {request : Request}
    (hmem : (v, request) ∈ w.exchanges colleagues bobAsks) :
    ¬request.MayFree colleagues v webLock := by
  have hinput := request_mem_of_mem_exchanges hmem
  simp only [bobAsks, List.mem_cons, List.not_mem_nil, or_false, reduceCtorEq, false_or,
    Input.request.injEq] at hinput
  rw [hinput]
  exact id

/-- The tokens of a lock and of the tasks of two instances. -/
theorem colleagues_fresh : colleagues.Fresh 3 :=
  Environment.fresh_of_freshToken rfl (by decide)

/-- Bob, who has no lock, kills none of the two tasks. -/
theorem lock_protects_from_colleague : webLater.live.tasks.size = 2
    ∧ webLater.live.lock? webKey = some webLock
    ∧ webLater.live.LeavesAlone webKey (webLater.dispatch colleagues
      (.command (.killTasks .everything none) (some (.apiKey "bob")))).1.live := by
  have hreached : webRuns.Reachable colleagues := ⟨0, 0, ∅, _, fun _ _ => trivial, rfl⟩
  obtain ⟨hlock, -, halone⟩ :=
    lock_protects (by decide) hreached webLock_acquired fun _ _ => bobAsks_keeps
  have hsize : webLater.live.tasks.size = 2 := by decide +kernel
  have hissued : (webLater.dispatch colleagues
      (.command (.killTasks .everything none) (some (.apiKey "bob")))).1.issued = 3 := by
    decide +kernel
  refine ⟨hsize, hlock, halone (.killTasks .everything none) none _ rfl nofun ?_⟩
  show colleagues.Fresh (webLater.dispatch colleagues _).1.issued
  rw [hissued]
  exact colleagues_fresh

end World

end JobControl
