import JobControl.Proofs.Identifiers

/-!
# Whose tasks a principal kills

Who kills tasks has to act for one of the roles that own them, not for
all. A query that names a role finds tasks of this role only, so that it
is the principal's own. A query that names no role may find tasks of
several roles; acting for one of them is enough to kill them all. That is
as far as it goes: without a task of a role of its own among those found,
a principal other than root kills nothing.
-/

namespace JobControl

namespace Principal

variable {p : Principal} {roles : Names}

theorem actsFor_iff : p.actsFor roles = true ↔ roles = ∅ ∨ ∃ role ∈ roles, role ∈ p.roles := by
  simp [actsFor, Std.ExtTreeSet.isEmpty_iff]

theorem check_taskOwnersOrRoot_eq_ok : p.check roles .taskOwnersOrRoot = .ok p ↔
    p.holds .root = true ∨ p.actsFor roles = true := by
  simp only [check, inRoles]
  cases p.holds .root <;> cases p.actsFor roles <;> simp

end Principal

namespace Store

variable {s : Store} {q : TaskQuery} {t : Task}

theorem mem_ownersOf {role : String} : role ∈ s.ownersOf q ↔
    (∃ t ∈ s.findTasks q, t.role = role) ∨ q.role = some role := by
  simp [ownersOf]

theorem isMetBy_of_mem_findTasks (h : t ∈ s.findTasks q) : q.isMetBy t = true := by
  rw [findTasks] at h
  split at h
  · exact (List.mem_filter.mp h).2
  · exact (List.mem_filter.mp h).2

/-- Who acts for one of the owners of what a query finds acts for the owner
of any found task, or the query names no role and finds a task of another
owner that the principal acts for. -/
theorem role_mem_of_actsFor {p : Principal} (ht : t ∈ s.findTasks q)
    (h : p.actsFor (s.ownersOf q) = true) :
    t.role ∈ p.roles ∨ q.role = none ∧ ∃ other ∈ s.findTasks q, other.role ∈ p.roles := by
  have hmem : t.role ∈ s.ownersOf q := mem_ownersOf.mpr (Or.inl ⟨t, ht, rfl⟩)
  rcases Principal.actsFor_iff.mp h with hempty | ⟨role, howner, hrole⟩
  · rw [hempty] at hmem
    exact absurd hmem (Std.ExtTreeSet.not_mem_empty)
  · cases hq : q.role with
    | some named =>
        have hfound : ∀ u ∈ s.findTasks q, u.role = named := fun u hu =>
          TaskQuery.role_of_isMetBy (isMetBy_of_mem_findTasks hu) hq
        have hsame : role = named := by
          rcases mem_ownersOf.mp howner with ⟨u, hu, rfl⟩ | hnamed
          · exact hfound u hu
          · exact Option.some.inj (hnamed.symm.trans hq)
        exact Or.inl (by rwa [hfound t ht, ← hsame])
    | none =>
        rcases mem_ownersOf.mp howner with ⟨u, hu, rfl⟩ | hnamed
        · exact Or.inr ⟨rfl, u, hu, hrole⟩
        · rw [hq] at hnamed
          cases hnamed

end Store

namespace World

variable {env : Environment} {w w' : World} {q : TaskQuery} {held : Option Lock}
  {credential : Option Credential} {id : String}

/-- A kill that changes the entry of a task was answered to a principal who
may kill what the query finds, and the task is among that. -/
theorem Answered.of_killed {r : Response} (hfiled : w.live.Filed)
    (h : Answered env w.live w (.command (.killTasks q held) credential) w' r)
    (hchanged : w'.live.tasks[id]? ≠ w.live.tasks[id]?) : ∃ shown p t,
      credential = some shown ∧ env.recognise w.nowMs shown = .ok p
        ∧ w.live.tasks[id]? = some t ∧ t ∈ w.live.findTasks q
        ∧ (p.holds .root = true ∨ p.actsFor (w.live.ownersOf q) = true) := by
  cases h with
  | refused => exact absurd rfl hchanged
  | @carried _ _ p _ _ _ _ hp hdone =>
      obtain ⟨shown, hshown, hrecognised, hcheck⟩ := authorize_eq_ok.mp hp
      obtain ⟨-, -, rfl, -⟩ := killTasks_eq_ok.mp hdone
      obtain ⟨t, ht, hmet⟩ := Store.isMetBy_of_moveTasks_ne hchanged
      refine ⟨shown, p, t, hshown, hrecognised, ht, ?_,
        Principal.check_taskOwnersOrRoot_eq_ok.mp hcheck⟩
      rw [hfiled.tasks.mem_findTasks, hfiled.tasks id t ht]
      exact ⟨ht, hmet⟩

/-- **Who kills a task is root, or acts for its role, or the query names no
role and also finds a task of a role that the principal acts for.** -/
theorem roles_of_killed (h : w.Reachable env)
    (hchanged : (w.dispatch env (.command (.killTasks q held) credential)).1.live.tasks[id]?
      ≠ w.live.tasks[id]?) : ∃ shown p t,
      credential = some shown ∧ env.recognise w.nowMs shown = .ok p
        ∧ w.live.tasks[id]? = some t ∧ q.isMetBy t = true
        ∧ (p.holds .root = true ∨ t.role ∈ p.roles
          ∨ q.role = none ∧ ∃ other ∈ w.live.findTasks q, other.role ∈ p.roles) := by
  obtain ⟨shown, p, t, hshown, hp, ht, hfound, hmay⟩ :=
    answered_dispatch.of_killed h.filed.live hchanged
  exact ⟨shown, p, t, hshown, hp, ht, Store.isMetBy_of_mem_findTasks hfound,
    hmay.imp_right (Store.role_mem_of_actsFor hfound)⟩

/-! ## A query that names no role -/

/-- Alice acts for one role, and whoever else there is for another. -/
def twoRoles : Environment :=
  .plain fun key =>
    if key = "alice" then ⟨"alice", setOf ["www-data"], ∅⟩ else ⟨"mallory", setOf ["mesos"], ∅⟩

/-- Both roles run a job of the same name in the same environment. -/
def twoJobs : World :=
  (start 0 0 ∅ .empty).run twoRoles
    [.request (.command (.createJob (.plain ⟨"www-data", "prod", "web"⟩ "alice" 1) none)
      (some (.apiKey "alice"))),
    .request (.command (.createJob (.plain ⟨"mesos", "prod", "web"⟩ "mallory" 1) none)
      (some (.apiKey "mallory")))]

/-- Alice's task. -/
def firstId : String :=
  Task.idOf (Job.plain ⟨"www-data", "prod", "web"⟩ "alice" 1).task 0 0 (Text.freshToken 1)

/-- The jobs of that name, whoever owns them. -/
def byName : TaskQuery :=
  { TaskQuery.everything with environment := some "prod", jobName := some "web" }

theorem reachable_twoJobs : twoJobs.Reachable twoRoles :=
  ⟨0, 0, ∅, _, fun _ _ => trivial, rfl⟩

/-- Mallory, who acts for another role, kills Alice's task. -/
theorem firstId_killed : (twoJobs.dispatch twoRoles (.command (.killTasks byName none)
      (some (.apiKey "mallory")))).1.live.tasks[firstId]?
    ≠ twoJobs.live.tasks[firstId]? := by
  intro heq
  have hstatus := congrArg (Option.map Task.status) heq
  revert hstatus
  decide +kernel

theorem roles_of_killed_by_name :
    (twoJobs.dispatch twoRoles (.command (.killTasks byName none)
        (some (.apiKey "mallory")))).1.live.tasks[firstId]? ≠ twoJobs.live.tasks[firstId]?
      ∧ ∃ shown p t, some (Credential.apiKey "mallory") = some shown
        ∧ twoRoles.recognise twoJobs.nowMs shown = .ok p
        ∧ twoJobs.live.tasks[firstId]? = some t ∧ byName.isMetBy t = true
        ∧ (p.holds .root = true ∨ t.role ∈ p.roles
          ∨ byName.role = none ∧ ∃ other ∈ twoJobs.live.findTasks byName,
            other.role ∈ p.roles) :=
  ⟨firstId_killed, roles_of_killed reachable_twoJobs firstId_killed⟩

/-- The owner of a killed task need not be a role of the principal. -/
theorem not_only_own_tasks_killed : ¬ ∀ (env : Environment) (w : World) (q : TaskQuery)
    (held : Option Lock) (shown : Credential) (p : Principal) (id : String) (t : Task),
    w.Reachable env → env.recognise w.nowMs shown = .ok p → p.holds .root = false →
    w.live.tasks[id]? = some t →
    (w.dispatch env (.command (.killTasks q held) (some shown))).1.live.tasks[id]? ≠ some t →
    t.role ∈ p.roles := by
  intro hall
  have hrole : twoJobs.live.tasks[firstId]?.map Task.role = some "www-data" := by
    decide +kernel
  obtain ⟨t, ht, htrole⟩ := Option.map_eq_some_iff.mp hrole
  have hmem := hall twoRoles twoJobs byName none (.apiKey "mallory")
    ⟨"mallory", setOf ["mesos"], ∅⟩ firstId t reachable_twoJobs rfl (by decide +kernel) ht
    (ht ▸ firstId_killed)
  rw [htrole] at hmem
  revert hmem
  decide +kernel

end World

end JobControl
