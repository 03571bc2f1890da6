import JobControl.Proofs.LockProtection
import JobControl.Proofs.LockSecrecy

/-!
# Locks of different jobs

A request that locks a job, or takes a lock out, looks at one entry of the
table of locks and changes no other: that under the text of its key. Two
jobs do not get in each other's way, therefore, as long as their keys have
different texts, and this a store tells of a key if no lock of another job
is stored under its text.

The parts of a valid key can be read off its text, so that every store
tells a valid key from all others. The requests on locks take any key,
though, and slashes in the parts of a key show in its text like those
between them: `a/b` in `prod` has the text of `b` in `prod/a`. Of two such
jobs no more than one can be locked, and whoever may release the lock of
the one may take that of the other.
-/

namespace JobControl

/-- The job that a request on locks is about. -/
def Command.lockKey? : Command → Option JobKey
  | .acquireLock key => some key
  | .releaseLock lock _ => some lock.key
  | _ => none

theorem Command.ne_killTasks_of_lockKey? {c : Command} {key : JobKey}
    (h : c.lockKey? = some key) (q : TaskQuery) (held : Option Lock) : c ≠ .killTasks q held := by
  rintro rfl
  cases h

namespace Store

variable {s : Store} {key other : JobKey} {lock : Lock} {name : String}

/-- Every lock is filed under the text of its key. -/
def LocksFiled (s : Store) : Prop :=
  ∀ (name : String) (lock : Lock), s.locks[name]? = some lock → lock.key.canonical = name

/-- A lock of the job is stored. -/
def Locked (s : Store) (key : JobKey) : Prop :=
  ∃ (name : String) (lock : Lock), s.locks[name]? = some lock ∧ lock.key = key

/-- No lock of another job is stored under the text of the key. -/
def TellsApart (s : Store) (key : JobKey) : Prop :=
  ∀ lock ∈ s.lock? key, lock.key = key

instance : Decidable (s.TellsApart key) :=
  inferInstanceAs (Decidable (∀ lock ∈ s.lock? key, lock.key = key))

def withoutLocks (s : Store) (key : JobKey) : Store :=
  { s with locks := s.locks.filter fun _ lock => lock.key != key }

theorem LocksFiled.locked_iff (hfiled : s.LocksFiled) :
    s.Locked key ↔ ∃ lock, s.lock? key = some lock ∧ lock.key = key := by
  constructor
  · rintro ⟨name, lock, hlock, rfl⟩
    obtain rfl := hfiled name lock hlock
    exact ⟨lock, hlock, rfl⟩
  · rintro ⟨lock, hlock, hkey⟩
    exact ⟨_, lock, hlock, hkey⟩

theorem LocksFiled.tellsApart_of_isValid (hfiled : s.LocksFiled) (hvalid : key.isValid = true) :
    s.TellsApart key :=
  fun lock hlock => JobKey.eq_of_canonical_eq hvalid (hfiled _ lock hlock)

theorem TellsApart.lock?_withoutLocks (hapart : s.TellsApart key) (hne : key ≠ other) :
    (s.withoutLocks other).lock? key = s.lock? key := by
  simp only [lock?, withoutLocks, Std.ExtTreeMap.getElem?_filter']
  cases hlock : s.locks[key.canonical]? with
  | none => rfl
  | some lock =>
      -- what stands under the text of the key is not one of the locks left out
      have hkey := hapart lock hlock
      simp [Option.filter, hkey, hne]

theorem getElem?_locks_removeLock (hname : key.canonical ≠ name) :
    (s.removeLock key).locks[name]? = s.locks[name]? := by
  rw [removeLock, Table.getElem?_erase, if_neg hname]

theorem getElem?_locks_releaseLock (hname : lock.key.canonical ≠ name) :
    (s.releaseLock lock).locks[name]? = s.locks[name]? := by
  rcases s.releaseLock_cases lock with h | h <;> rw [h]
  exact getElem?_locks_removeLock hname

end Store

namespace World

variable {env : Environment} {w v w' : World} {p : Principal} {c : Command}
  {credential : Option Credential} {key k₁ k₂ : JobKey} {name : String}

/-! ## One entry is changed -/

theorem locks_elsewhere_of_change {store : Store} {issued : Nat}
    (h : Change env w p c store issued) (hc : c.lockKey? = some key)
    (hname : key.canonical ≠ name) : store.locks[name]? = w.live.locks[name]? := by
  cases h with
  | launched | filed => rfl
  | locked =>
      cases hc
      rw [Store.saveLock, Table.getElem?_insert, if_neg hname]
  | released =>
      cases hc
      exact Store.getElem?_locks_releaseLock hname
  | unlocked =>
      cases hc
      exact Store.getElem?_locks_removeLock hname
  | removed | killed | restarted | forced | rewritten | allotted => cases hc

theorem Answered.locks_elsewhere {r : Response}
    (h : Answered env w.live w (.command c credential) w' r) (hc : c.lockKey? = some key)
    (hname : key.canonical ≠ name) : w'.live.locks[name]? = w.live.locks[name]? := by
  cases h with
  | refused => rfl
  | carried _ _ hdone =>
      obtain ⟨w₁, log, heffect, rfl, -⟩ := carried_of_perform hdone
      cases heffect with
      | changed h => exact locks_elsewhere_of_change h hc hname
      | rehosted | none => rfl
      | backedUp | staged | trimmed | restored | unloaded | written => cases hc

/-! ## One entry is looked at -/

def SameAnswer (a b : World × Response) : Prop :=
  b.2 = a.2

theorem sameAnswer_of_agree {request : Request}
    (h : Agree SameAnswer (w.attempt env w.live request) (v.attempt env v.live request)) :
    (v.dispatch env request).2 = (w.dispatch env request).2 := by
  generalize hw : w.attempt env w.live request = x at h
  generalize hv : v.attempt env v.live request = y at h
  cases h with
  | error refusal => rw [dispatch_of_refused hw, dispatch_of_refused hv]
  | ok hsame => rw [(dispatch_of_done hw).1, (dispatch_of_done hv).1, hsame]

theorem sameAnswer_perform {owners : Names} (hc : c.lockKey? = some key)
    (hnow : v.nowMs = w.nowMs) (hissued : v.issued = w.issued)
    (hlock : v.live.lock? key = w.live.lock? key) :
    Agree SameAnswer (w.perform env p owners c) (v.perform env p owners c) := by
  cases c with
  | acquireLock =>
      cases hc
      simp only [perform, acquireLock, lockJob, Store.acquireLock, freshToken, hlock, hnow, hissued]
      cases w.live.lock? key with
      | some stored => exact .error _
      | none => exact .ok rfl
  | releaseLock lock mode =>
      cases hc
      cases mode with
      | checked =>
          simp only [perform, releaseLock, Store.checkLock, hlock]
          exact .bind_same fun _ _ => .ok rfl
      | unchecked => exact .ok rfl
  | _ => cases hc

/-- What is answered to a request on locks hangs on the entry under the
text of its key. -/
theorem answer_of_lock? (hc : c.lockKey? = some key) (hnow : v.nowMs = w.nowMs)
    (hissued : v.issued = w.issued) (hlock : v.live.lock? key = w.live.lock? key) :
    (v.dispatch env (.command c credential)).2 = (w.dispatch env (.command c credential)).2 := by
  exact sameAnswer_of_agree (agree_attempt (Command.ne_killTasks_of_lockKey? hc) hnow
    fun _ _ => sameAnswer_perform hc hnow hissued hlock)

/-- Who may lock a job is refused exactly if there is something under the
text of its key. -/
theorem acquireLock_refused_iff
    (hp : authorize env w.nowMs w.live (.acquireLock key) credential = .ok p) :
    (w.dispatch env (.command (.acquireLock key) credential)).2.code = .lockError
      ↔ ∃ lock, w.live.lock? key = some lock := by
  have hattempt : w.attempt env w.live (.command (.acquireLock key) credential)
      = w.acquireLock env p key := attempt_of_authorized rfl hp
  cases hlock : w.live.lock? key with
  | none =>
      have hdone := hattempt.trans (acquireLock_eq_ok.mpr ⟨hlock, _, rfl, rfl, rfl⟩)
      rw [(dispatch_of_done hdone).1]
      simp
  | some lock =>
      rw [dispatch_of_refused (hattempt.trans (acquireLock_of_locked hlock))]
      exact ⟨fun _ => ⟨lock, rfl⟩, fun _ => rfl⟩

/-- To be refused means that the job is locked exactly if the store tells
its key from those of other jobs. -/
theorem refused_iff_locked_iff_tellsApart (hfiled : w.live.LocksFiled)
    (hp : authorize env w.nowMs w.live (.acquireLock key) credential = .ok p) :
    ((w.dispatch env (.command (.acquireLock key) credential)).2.code = .lockError
      ↔ w.live.Locked key) ↔ w.live.TellsApart key := by
  rw [acquireLock_refused_iff hp, hfiled.locked_iff]
  constructor
  · intro h lock hlock
    obtain ⟨stored, hstored, hkey⟩ := h.mp ⟨lock, hlock⟩
    obtain rfl := Option.some.inj (hlock.symm.trans hstored)
    exact hkey
  · intro hapart
    constructor
    · rintro ⟨lock, hlock⟩
      exact ⟨lock, hlock, hapart lock hlock⟩
    · rintro ⟨lock, hlock, -⟩
      exact ⟨lock, hlock⟩

/-! ## Two jobs -/

/-- Locks of the second job are nothing to requests on locks of the first. -/
structure LocksApart (env : Environment) (w : World) (k₁ k₂ : JobKey) : Prop where
  refused_iff : ∀ credential p,
    authorize env w.nowMs w.live (.acquireLock k₁) credential = .ok p →
    ((w.dispatch env (.command (.acquireLock k₁) credential)).2.code = .lockError
      ↔ w.live.Locked k₁)
  kept : ∀ c credential, c.lockKey? = some k₁ → ∀ (name : String) (lock : Lock),
    w.live.locks[name]? = some lock → lock.key = k₂ →
    (w.dispatch env (.command c credential)).1.live.locks[name]? = some lock
  ignored : ∀ c credential, c.lockKey? = some k₁ →
    ({ w with live := w.live.withoutLocks k₂ }.dispatch env (.command c credential)).2
      = (w.dispatch env (.command c credential)).2

/-- **Locks of different jobs do not get in each other's way**, if the store
tells the key of the one from those of the others. -/
theorem locksApart_of_tellsApart (hfiled : w.live.LocksFiled) (hne : k₁ ≠ k₂)
    (hapart : w.live.TellsApart k₁) : LocksApart env w k₁ k₂ where
  refused_iff _ _ hp := (refused_iff_locked_iff_tellsApart hfiled hp).mpr hapart
  kept c credential hc name lock hlock hkey := by
    have hname : k₁.canonical ≠ name := by
      rintro rfl
      exact hne ((hapart lock hlock).symm.trans hkey)
    rw [answered_dispatch.locks_elsewhere hc hname, hlock]
  ignored _ _ hc := answer_of_lock? hc rfl rfl (hapart.lock?_withoutLocks hne)

/-! ## Slashes in keys -/

/-- A key with a slash in its name. -/
def slashedKey : JobKey := ⟨"www-data", "prod", "a/b"⟩

/-- Another key with the same text. -/
def twinKey : JobKey := ⟨"www-data", "prod/a", "b"⟩

/-- Alice has locked two jobs. -/
def slashLocked : World :=
  (start 0 0 ∅ .empty).run colleagues
    [.request (.command (.acquireLock slashedKey) (some (.apiKey "alice"))),
      .request (.command (.acquireLock webKey) (some (.apiKey "alice")))]

theorem locksFiled_slashLocked : slashLocked.live.LocksFiled :=
  (Reachable.filed ⟨0, 0, ∅, _, fun _ _ => trivial, rfl⟩ : slashLocked.Everywhere _).live.locks

theorem authorize_colleague {nowMs : Int64} {seen : Store} {user : String}
    (hrole : key.role = "www-data") :
    authorize colleagues nowMs seen (.acquireLock key) (some (.apiKey user))
      = .ok ⟨user, setOf ["www-data"], ∅⟩ := by
  refine authorize_eq_ok.mpr ⟨_, rfl, rfl, Principal.check_jobOwner_eq_ok.mpr ?_⟩
  rw [hrole]
  exact mem_setOf.mpr List.mem_cons_self

/-- Bob cannot lock the first job, and when its lock is taken out the
other job stays locked. -/
theorem locksApart_slashed_web : slashLocked.live.LocksFiled ∧ slashedKey ≠ webKey
    ∧ slashLocked.live.TellsApart slashedKey
    ∧ LocksApart colleagues slashLocked slashedKey webKey
    ∧ (slashLocked.dispatch colleagues
        (.command (.acquireLock slashedKey) (some (.apiKey "bob")))).2.code = .lockError
    ∧ (slashLocked.dispatch colleagues (.command
        (.releaseLock ⟨slashedKey, "", "", 0, none⟩ .unchecked)
        (some (.apiKey "bob")))).1.live.Locked webKey := by
  obtain ⟨hapart, hslashed, hweb⟩ : slashLocked.live.TellsApart slashedKey
      ∧ (slashLocked.live.lock? slashedKey).isSome = true
      ∧ (slashLocked.live.lock? webKey).isSome = true := by decide +kernel
  have hfiled := locksFiled_slashLocked
  have hlocks : LocksApart colleagues slashLocked slashedKey webKey :=
    locksApart_of_tellsApart hfiled (by decide) hapart
  refine ⟨hfiled, by decide, hapart, hlocks, ?_, ?_⟩
  · obtain ⟨lock, hlock⟩ := Option.isSome_iff_exists.mp hslashed
    exact (hlocks.refused_iff _ _ (authorize_colleague rfl)).mpr ⟨_, lock, hlock, hapart lock hlock⟩
  · obtain ⟨lock, hlock⟩ := Option.isSome_iff_exists.mp hweb
    have hkey : lock.key = webKey := hfiled.tellsApart_of_isValid (by decide) lock hlock
    exact ⟨_, lock, hlocks.kept _ _ rfl _ lock hlock hkey, hkey⟩

/-- **Locks of different jobs can get in each other's way**: the twin of
the first job is not locked, but nobody can lock it. -/
theorem not_always_locksApart : ¬∀ (env : Environment) (w : World) (k₁ k₂ : JobKey),
    w.live.LocksFiled → k₁ ≠ k₂ → LocksApart env w k₁ k₂ := by
  intro h
  have hlocks := h colleagues slashLocked twinKey slashedKey locksFiled_slashLocked (by decide)
  have hp : authorize colleagues slashLocked.nowMs slashLocked.live (.acquireLock twinKey)
      (some (.apiKey "alice")) = .ok _ := authorize_colleague rfl
  have hapart := (refused_iff_locked_iff_tellsApart locksFiled_slashLocked hp).mp
    (hlocks.refused_iff _ _ hp)
  -- but what stands under the text of the twin is the lock of the first job
  revert hapart
  decide +kernel

end World

end JobControl
