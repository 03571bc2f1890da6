import JobControl.Proofs.KillRoles

/-!
# Writes between the authorization of a kill and the kill

Whose tasks a query matches is looked up before the caller is authorized,
and the tasks are looked up again when they are killed. Others may write
to the store in between, so that a kill works on a store that nobody has
authorized it for. Nothing is assumed here of how the two stores differ;
all that is needed is that both have each task under its own identifier,
without which a query by identifiers would find other tasks than a search.

The kill is safe because it decides everything once more on the store that
it changes. It compares the owners of what it finds with the owners that
were authorized, it asks for the lock of every job of what it finds, and
it counts the tasks that it moves. Root is spared the first of these only.
-/

namespace JobControl

/-! ## What is killed, and how -/

/-- The state that a task enters when it is killed. -/
def Status.whenKilled (s : Status) : Status :=
  if s.isUnassigned then .killed else .killing

theorem Status.resolve_killing (s : Status) : s.resolve .killing =
    if !s.isTerminal && s != .killing then some s.whenKilled else none := by
  cases s <;> rfl

/-- The query matches the task, which has neither ended nor been told to. -/
def TaskQuery.kills (q : TaskQuery) (t : Task) : Bool :=
  q.isMetBy t && (!t.status.isTerminal && t.status != .killing)

namespace Store

variable {s seen : Store} {q : TaskQuery} {held : Option Lock}

theorem getElem?_changeState_killing {stamp : Stamp} {message : Option String} {id : String} :
    (s.changeState stamp q .killing message).1.tasks[id]? = s.tasks[id]?.map fun t =>
      if q.kills t then
        t.enter ⟨stamp.nowMs, t.status.whenKilled, message, stamp.scheduler⟩
      else t :=
  getElem?_moveTasks_of_rule Status.resolve_killing

/-- As many tasks are reported as are killed. -/
theorem count_changeState_killing {stamp : Stamp} {message : Option String} :
    (s.changeState stamp q .killing message).2 = (s.tasks.values.filter q.kills).length :=
  count_moveTasks_of_rule Status.resolve_killing

/-! ## What stands in the way -/

/-- The query matches a task of a role that had no match when the owners
were looked up, and that the query does not name. -/
def Strays (seen s : Store) (q : TaskQuery) : Prop :=
  ∃ (id : String) (t : Task), s.tasks[id]? = some t ∧ q.isMetBy t = true
    ∧ q.role ≠ some t.role
    ∧ ∀ (other : String) (u : Task), seen.tasks[other]? = some u → q.isMetBy u = true →
      u.role ≠ t.role

/-- The job of a matching task is locked, and its lock is not presented. -/
def LocksOut (s : Store) (q : TaskQuery) (held : Option Lock) : Prop :=
  ∃ (id : String) (t : Task) (stored : Lock), s.tasks[id]? = some t ∧ q.isMetBy t = true
    ∧ s.lock? t.jobKey = some stored
    ∧ ∀ shown ∈ held, shown.key ≠ stored.key ∨ shown.token ≠ stored.token

theorem TasksFiled.mem_findTasks_of_getElem? {id : String} {t : Task} (hs : s.TasksFiled)
    (ht : s.tasks[id]? = some t) (hmet : q.isMetBy t = true) : t ∈ s.findTasks q := by
  obtain rfl := hs id t ht
  exact hs.mem_findTasks.mpr ⟨ht, hmet⟩

theorem strays_iff (hseen : seen.TasksFiled) (hs : s.TasksFiled) :
    seen.Strays s q ↔ ∃ t ∈ s.findTasks q, (seen.ownersOf q).contains t.role = false := by
  have howner : ∀ t : Task, (seen.ownersOf q).contains t.role = false ↔ q.role ≠ some t.role
      ∧ ∀ (other : String) (u : Task), seen.tasks[other]? = some u → q.isMetBy u = true →
        u.role ≠ t.role := by
    intro t
    rw [← Bool.not_eq_true, ← Std.ExtTreeSet.mem_iff_contains, mem_ownersOf, not_or, and_comm]
    refine and_congr_right fun _ => ?_
    constructor
    · intro hnone other u hu hmet hrole
      exact hnone ⟨u, hseen.mem_findTasks_of_getElem? hu hmet, hrole⟩
    · rintro hnone ⟨u, hu, hrole⟩
      obtain ⟨hfiled, hmet⟩ := hseen.mem_findTasks.mp hu
      exact hnone _ u hfiled hmet hrole
  constructor
  · rintro ⟨id, t, ht, hmet, hforeign⟩
    exact ⟨t, hs.mem_findTasks_of_getElem? ht hmet, (howner t).mpr hforeign⟩
  · rintro ⟨t, ht, hforeign⟩
    obtain ⟨hfiled, hmet⟩ := hs.mem_findTasks.mp ht
    exact ⟨t.id, t, hfiled, hmet, (howner t).mp hforeign⟩

theorem not_locksOut_iff (hs : s.TasksFiled) :
    ¬s.LocksOut q held ↔ ∀ t ∈ s.findTasks q, s.checkLock t.jobKey held = .ok () := by
  constructor
  · intro hfree t ht
    obtain ⟨hfiled, hmet⟩ := hs.mem_findTasks.mp ht
    refine checkLock_eq_ok.mpr fun stored hstored => Classical.byContradiction fun hnone => ?_
    refine hfree ⟨t.id, t, stored, hfiled, hmet, hstored, fun shown hshown => ?_⟩
    by_cases hkey : shown.key = stored.key
    · exact Or.inr fun htoken => hnone ⟨shown, hshown, hkey, htoken⟩
    · exact Or.inl hkey
  · rintro hfree ⟨id, t, stored, ht, hmet, hstored, hforeign⟩
    have hmem := hs.mem_findTasks_of_getElem? ht hmet
    obtain ⟨shown, hshown, hkey, htoken⟩ := checkLock_eq_ok.mp (hfree t hmem) stored hstored
    exact (hforeign shown hshown).elim (absurd hkey) (absurd htoken)

end Store

/-! ## The kill -/

/-- Where the store is looked at first, the request has passed all checks
that come before. -/
theorem Command.precheck_of_looksFirst {c : Command} {credential : Option Credential}
    (h : (Request.command c credential).looksFirst = true) : c.precheck = .ok () := by
  cases credential with
  | none => cases h
  | some shown =>
      rw [Request.looksFirst, Bool.and_eq_true] at h
      cases hpre : c.precheck with
      | ok => rfl
      | error refusal =>
          rw [hpre] at h
          exact absurd h.2 nofun

namespace World

variable {env : Environment} {seen : Store} {w w' : World} {p : Principal} {q : TaskQuery}
  {held : Option Lock} {credential : Option Credential}

/-- Tasks of other owners are noticed before anything else is. -/
theorem killTasks_of_foreign {owners : Names} (hroot : p.holds .root = false)
    (h : ∃ t ∈ w.live.findTasks q, owners.contains t.role = false) (held : Option Lock) :
    ∃ roles, w.killTasks p owners q held = .error (.fault (.foreignTasks p.name roles)) := by
  obtain ⟨t, ht, hforeign⟩ := h
  have hmem : t.role ∈ (setOf (((w.live.findTasks q).map Task.role).filter
      (!owners.contains ·)) : Names) := by
    rw [mem_setOf, List.mem_filter, hforeign]
    exact ⟨List.mem_map_of_mem ht, rfl⟩
  have hsome : (setOf (((w.live.findTasks q).map Task.role).filter
      (!owners.contains ·)) : Names).isEmpty = false := by
    rw [Bool.eq_false_iff, ne_eq, Std.ExtTreeSet.isEmpty_iff]
    intro hempty
    rw [hempty] at hmem
    exact Std.ExtTreeSet.not_mem_empty hmem
  refine ⟨(setOf (((w.live.findTasks q).map Task.role).filter
    (!owners.contains ·)) : Names).toList, ?_⟩
  simp only [killTasks, hroot, hsome, Bool.not_false, Bool.and_self, if_true, throw_bind]

theorem checkLocks_findTasks_eq_ok : w.live.checkLocks
    (setOf ((w.live.findTasks q).map Task.jobKey) : JobKeys).toList held = .ok ()
      ↔ ∀ t ∈ w.live.findTasks q, w.live.checkLock t.jobKey held = .ok () := by
  simp only [Store.checkLocks_eq_ok, Std.ExtTreeSet.mem_toList, mem_setOf, List.mem_map,
    forall_exists_index, and_imp, forall_apply_eq_imp_iff₂]

/-- **A kill holds good on the store that it changes**, whatever was
written since the owners of the tasks were looked up. Who is not root is
denied if there are tasks now of an owner that was not found then; nobody
gets past a lock; and otherwise just those tasks are killed that the query
matches now, and that is how many are reported. -/
theorem killed_as_found (hseen : seen.TasksFiled) (hlive : w.live.TasksFiled)
    (hlooks : (Request.command (.killTasks q held) credential).looksFirst = true)
    (hp : authorize env w.nowMs seen (.killTasks q held) credential = .ok p) :
    let answer := w.dispatchSeeing env seen (.command (.killTasks q held) credential)
    (p.holds .root = false → seen.Strays w.live q →
        answer.2.code = .authFailed ∧ ∃ log, answer.1 = { w with events := log })
      ∧ (w.live.LocksOut q held →
        answer.2.code ≠ .ok ∧ ∃ log, answer.1 = { w with events := log })
      ∧ (¬(p.holds .root = false ∧ seen.Strays w.live q) → ¬w.live.LocksOut q held →
        answer.2 = .done ("Killed "
            ++ toString (w.live.tasks.values.filter q.kills).length ++ " tasks.") []
          ∧ ∃ tasks log, answer.1 =
              { w.commit { w.live with tasks := tasks } with events := log }
            ∧ ∀ id : String, tasks[id]? = w.live.tasks[id]?.map fun t =>
              if q.kills t then
                t.enter ⟨w.nowMs, t.status.whenKilled, some ("Killed by " ++ p.name),
                  w.stamp.scheduler⟩
              else t) := by
  intro answer
  have hattempt : w.attempt env seen (.command (.killTasks q held) credential)
      = w.killTasks p (seen.ownersOf q) q held :=
    attempt_of_authorized (Command.precheck_of_looksFirst hlooks) hp
  refine ⟨fun hroot hstrays => ?_, fun hlocked => ?_, fun hown hfree => ?_⟩
  · obtain ⟨roles, hrefused⟩ :=
      killTasks_of_foreign hroot ((Store.strays_iff hseen hlive).mp hstrays) held
    have hanswer : answer = _ := dispatchSeeing_of_refused (hattempt.trans hrefused)
    rw [hanswer]
    exact ⟨rfl, _, rfl⟩
  · cases hdone : w.killTasks p (seen.ownersOf q) q held with
    | ok done =>
        obtain ⟨w', r⟩ := done
        obtain ⟨-, hlocks, -⟩ := killTasks_eq_ok.mp hdone
        rw [checkLocks_findTasks_eq_ok, ← Store.not_locksOut_iff hlive] at hlocks
        exact absurd hlocked hlocks
    | error refusal =>
        have hanswer : answer = _ := dispatchSeeing_of_refused (hattempt.trans hdone)
        rw [hanswer]
        exact ⟨Refusal.code_ne_ok refusal, _, rfl⟩
  · have howners : p.holds .root = true
        ∨ ∀ t ∈ w.live.findTasks q, (seen.ownersOf q).contains t.role = true := by
      cases hroot : p.holds .root with
      | true => exact Or.inl rfl
      | false =>
          refine Or.inr fun t ht => ?_
          cases hforeign : (seen.ownersOf q).contains t.role with
          | true => rfl
          | false =>
              exact absurd ⟨hroot, (Store.strays_iff hseen hlive).mpr ⟨t, ht, hforeign⟩⟩ hown
    have hlocks := checkLocks_findTasks_eq_ok.mpr ((Store.not_locksOut_iff hlive).mp hfree)
    have hdone := killTasks_eq_ok.mpr ⟨howners, hlocks, rfl, rfl⟩
    obtain ⟨hanswer, log, hafter⟩ := dispatchSeeing_of_done (hattempt.trans hdone)
    rw [Store.count_changeState_killing] at hanswer
    exact ⟨hanswer, _, log, hafter, fun id => Store.getElem?_changeState_killing⟩

/-! ## A job that comes in between -/

/-- Only Alice runs a job. -/
def aliceAlone : World :=
  (start 0 0 ∅ .empty).run twoRoles
    [.request (.command (.createJob (.plain ⟨"www-data", "prod", "web"⟩ "alice" 1) none)
      (some (.apiKey "alice")))]

def aliceKills (q : TaskQuery) : Request :=
  .command (.killTasks q none) (some (.apiKey "alice"))

theorem filed_aliceAlone : aliceAlone.live.TasksFiled :=
  (Reachable.filed ⟨0, 0, ∅, _, fun _ _ => trivial, rfl⟩ : aliceAlone.Everywhere _).live.tasks

/-- Both jobs are there, and Alice has locked hers. -/
def bothThereOneLocked : World :=
  (twoJobs.dispatch twoRoles (.command (.acquireLock ⟨"www-data", "prod", "web"⟩)
    (some (.apiKey "alice")))).1

theorem authorize_aliceKills {nowMs : Int64} {q : TaskQuery}
    (hq : (aliceAlone.live.ownersOf q).contains "www-data" = true) :
    authorize twoRoles nowMs aliceAlone.live (.killTasks q none)
      (some (.apiKey "alice")) = .ok ⟨"alice", setOf ["www-data"], ∅⟩ := by
  refine authorize_eq_ok.mpr ⟨_, rfl, rfl, ?_⟩
  refine Principal.check_taskOwnersOrRoot_eq_ok.mpr (Or.inr (Principal.actsFor_iff.mpr ?_))
  exact Or.inr ⟨"www-data", hq, mem_setOf.mpr List.mem_cons_self⟩

/-- Mallory creates a job of the same name while Alice is authorized. Alice
is denied if her query matches Mallory's task as well, and otherwise kills
her own, unless her job is locked by then. -/
theorem killed_as_found_beside_mallory :
    (twoJobs.dispatchSeeing twoRoles aliceAlone.live (aliceKills byName)).2.code = .authFailed
      ∧ (twoJobs.dispatchSeeing twoRoles aliceAlone.live (aliceKills (.ofRole "www-data"))).2
        = .done "Killed 1 tasks." []
      ∧ (bothThereOneLocked.dispatchSeeing twoRoles aliceAlone.live
          (aliceKills (.ofRole "www-data"))).2.code ≠ .ok := by
  have hfiled : twoJobs.live.TasksFiled := reachable_twoJobs.filed.live.tasks
  have hfree : ∀ t ∈ twoJobs.live.findTasks (.ofRole "www-data"),
      twoJobs.live.lock? t.jobKey = none := by
    decide +kernel
  have hown : ∀ t ∈ twoJobs.live.findTasks (.ofRole "www-data"),
      (aliceAlone.live.ownersOf (.ofRole "www-data")).contains t.role = true := by
    decide +kernel
  have hcount : (twoJobs.live.tasks.values.filter
      (TaskQuery.ofRole "www-data").kills).length = 1 := by
    decide +kernel
  obtain ⟨hdenied, -⟩ := killed_as_found filed_aliceAlone hfiled rfl
    (authorize_aliceKills (q := byName) (by decide +kernel))
  obtain ⟨-, -, hkilled⟩ := killed_as_found filed_aliceAlone hfiled rfl
    (authorize_aliceKills (q := .ofRole "www-data") (by decide +kernel))
  have hfiledLocked : bothThereOneLocked.live.TasksFiled :=
    reachable_twoJobs.dispatch.filed.live.tasks
  have hlocked : ∃ t ∈ bothThereOneLocked.live.findTasks (.ofRole "www-data"),
      (bothThereOneLocked.live.lock? t.jobKey).isSome = true := by
    decide +kernel
  obtain ⟨-, hkept, -⟩ := killed_as_found filed_aliceAlone hfiledLocked rfl
    (authorize_aliceKills (q := .ofRole "www-data") (by decide +kernel))
  refine ⟨(hdenied (by decide) ?_).1, ?_, (hkept ?_).1⟩
  · rw [Store.strays_iff filed_aliceAlone hfiled]
    decide +kernel
  · rw [hcount] at hkilled
    refine (hkilled ?_ ?_).1
    · rintro ⟨-, hstrays⟩
      obtain ⟨t, ht, hforeign⟩ := (Store.strays_iff filed_aliceAlone hfiled).mp hstrays
      rw [hown t ht] at hforeign
      cases hforeign
    · rw [Store.not_locksOut_iff hfiled]
      intro t ht
      refine Store.checkLock_eq_ok.mpr fun stored hstored => ?_
      rw [hfree t ht] at hstored
      cases hstored
  · obtain ⟨t, ht, hsome⟩ := hlocked
    obtain ⟨stored, hstored⟩ := Option.isSome_iff_exists.mp hsome
    obtain ⟨hat, hmet⟩ := hfiledLocked.mem_findTasks.mp ht
    exact ⟨t.id, t, stored, hat, hmet, hstored, nofun⟩

end World

end JobControl
