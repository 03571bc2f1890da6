import JobControl.Proofs.Acceptance
import JobControl.Proofs.FreshTokens
import JobControl.Proofs.KillRoles
import JobControl.Proofs.LeftAlone
import JobControl.Proofs.Mediation

/-!
# What a principal leaves alone

A principal other than root changes nothing that belongs to roles it does
not act for, kills aside. A command is admitted on the strength of the one
role that it names; but it writes under the key of a job, and launches
tasks that have owners of their own. That these agree is what sanitizing
sees to: the owner of an accepted job has the role of its key, and so have
its tasks and those of every template that is filed. `Change` says so for
each kind of change, and each of them leaves alone all jobs but one.
-/

namespace JobControl

/-- Who sends a request, if he is recognised. -/
def Request.sender? (env : Environment) (nowMs : Int64) : Request → Option Principal
  | .command _ (some shown) => (env.recognise nowMs shown).toOption
  | _ => none

namespace Store

variable {s s' : Store} {role : String}

/-- The tasks of a role and the templates of its jobs are those from
before: none is changed, added or taken out. -/
structure KeepsRole (role : String) (s s' : Store) : Prop where
  tasks : ∀ (id : String) (t : Task), t.role = role →
    (s'.tasks[id]? = some t ↔ s.tasks[id]? = some t)
  templates : ∀ (manager name : String) (job : Job), job.key.role = role →
    (s'.filedJob? manager name = some job ↔ s.filedJob? manager name = some job)

theorem KeepsRole.refl : s.KeepsRole role s :=
  ⟨fun _ _ _ => Iff.rfl, fun _ _ _ _ => Iff.rfl⟩

/-- A template is filed where its key says. -/
theorem Filed.filedJob?_eq_some {manager name : String} {job : Job} (hs : s.Filed) :
    s.filedJob? manager name = some job ↔
      s.job? manager job.key = some job ∧ job.key.canonical = name := by
  rw [hs.job?_eq_some]
  constructor
  · intro h
    obtain rfl := hs.jobs _ _ _ h
    exact ⟨⟨h, rfl⟩, rfl⟩
  · rintro ⟨⟨h, -⟩, rfl⟩
    exact h

/-- What leaves alone the jobs of a role keeps the role. -/
theorem keepsRole_of_leavesAlone (hs : s.Filed) (hs' : s'.Filed)
    (h : ∀ k : JobKey, k.role = role → s.LeavesAlone k s') : s.KeepsRole role s' where
  tasks id t ht := (h t.jobKey ht).tasks id t rfl
  templates manager name job hjob := by
    rw [hs.filedJob?_eq_some, hs'.filedJob?_eq_some, (h job.key hjob).templates manager]

end Store

namespace World

variable {env : Environment} {w w' : World} {p : Principal} {c : Command}
  {credential : Option Credential} {store : Store} {issued : Nat} {role : String}

/-! ## Who was let through -/

theorem role_mem_of_authorize (h : authorize env w.nowMs w.live c credential = .ok p)
    (hnamed : c.namedRole? = some role) : role ∈ p.roles := by
  obtain ⟨shown, -, -, hcheck⟩ := authorize_eq_ok.mp h
  rw [Command.access_of_namedRole? hnamed, Command.targetRoles_of_namedRole? hnamed] at hcheck
  exact Principal.check_jobOwner_eq_ok.mp hcheck

theorem root_mem_of_authorize (h : authorize env w.nowMs w.live c credential = .ok p)
    (haccess : c.operation.access = .holder .root) : Capability.root ∈ p.capabilities := by
  obtain ⟨shown, -, -, hcheck⟩ := authorize_eq_ok.mp h
  rw [haccess] at hcheck
  exact (Principal.check_holder_eq_ok.mp hcheck).elim id id

theorem sender?_of_authorize (h : authorize env w.nowMs w.live c credential = .ok p) :
    (Request.command c credential).sender? env w.nowMs = some p := by
  obtain ⟨shown, rfl, hshown, -⟩ := authorize_eq_ok.mp h
  rw [Request.sender?, hshown]
  rfl

/-! ## Other roles -/

/-- Every change leaves alone the jobs of a role that the principal does
not act for. -/
theorem leavesAlone_of_outsider {k : JobKey} (h : Change env w p c store issued)
    (hw : w.Reachable env) (hp : authorize env w.nowMs w.live c credential = .ok p)
    (hroot : Capability.root ∉ p.capabilities) (hrole : k.role ∉ p.roles)
    (hc : ∀ q held, c ≠ .killTasks q held) (hfresh : env.Fresh issued) :
    w.live.LeavesAlone k store := by
  have hne : ∀ {key : JobKey}, c.namedRole? = some key.role → key ≠ k := by
    rintro key hnamed rfl
    exact hrole (role_mem_of_authorize hp hnamed)
  have hfiled := hw.filed.live
  cases h with
  | launched _ hready hnamed =>
      exact hready.leavesAlone (hne hnamed) fun t ht => hw.unfiled_of_mem_waitingTasks hfresh ht
  | filed _ hjob hnamed =>
      exact Store.leavesAlone_saveJob hfiled
        (JobKey.canonical_ne (Job.key_isValid_of_sanitize hjob) (hne hnamed).symm).symm
  | @removed key _ _ hthere =>
      -- only what is filed is removed, so that the key is valid
      obtain ⟨job, hjob⟩ := Option.isSome_iff_exists.mp hthere
      obtain ⟨-, haccepted, rfl⟩ := hw.accepted.live.of_job? hjob
      exact Store.leavesAlone_removeJob hfiled
        (JobKey.canonical_ne (Job.key_isValid_of_sanitize haccepted) (hne rfl).symm).symm
  | restarted =>
      refine Store.leavesAlone_moveTasks fun id t ht hmet => ?_
      rw [(TaskQuery.ofJob_instances_active_isMetBy.mp hmet).1]
      exact hne rfl
  | killed => exact absurd rfl (hc _ _)
  | forced | rewritten => exact absurd (root_mem_of_authorize hp rfl) hroot
  | @released lock =>
      rcases w.live.releaseLock_cases lock with h | h <;> rw [h]
      · exact .refl
      · exact ⟨fun _ _ _ => Iff.rfl, fun _ => rfl⟩
  | locked | unlocked | allotted => exact ⟨fun _ _ _ => Iff.rfl, fun _ => rfl⟩

theorem keepsRole_of_effect (h : Effect env w p c w') (hw : w.Reachable env)
    (hp : authorize env w.nowMs w.live c credential = .ok p)
    (hroot : Capability.root ∉ p.capabilities) (hrole : role ∉ p.roles)
    (hc : ∀ q held, c ≠ .killTasks q held) (hfresh : env.Fresh w'.issued) :
    w.live.KeepsRole role w'.live := by
  have hfiled := hw.filed.live
  cases h with
  | changed h =>
      refine Store.keepsRole_of_leavesAlone hfiled (filed_of_change h hfiled) ?_
      rintro k rfl
      exact leavesAlone_of_outsider h hw hp hroot hrole hc hfresh
  | restored => exact absurd (root_mem_of_authorize hp rfl) hroot
  | rehosted | backedUp | staged | trimmed | unloaded | written | none => exact .refl

theorem Answered.keepsRole {request : Request} {r : Response}
    (h : Answered env w.live w request w' r) (hw : w.Reachable env)
    (hrequest : ∀ q held shown, request ≠ .command (.killTasks q held) shown)
    (hsender : ∀ p ∈ request.sender? env w.nowMs,
      Capability.root ∉ p.capabilities ∧ role ∉ p.roles)
    (hfresh : env.Fresh w'.issued) : w.live.KeepsRole role w'.live := by
  cases h with
  | refused => exact .refl
  | viewed => exact .refl
  | carried _ hp hdone =>
      obtain ⟨hroot, hrole⟩ := hsender _ (sender?_of_authorize hp)
      obtain ⟨w₁, log, heffect, rfl, -⟩ := carried_of_perform hdone
      have hkept : w.live.KeepsRole role w₁.live :=
        keepsRole_of_effect heffect hw hp hroot hrole
          (fun q held hkill => hrequest q held _ (by rw [hkill])) hfresh
      exact hkept

/-- **Roles are kept apart.** Whatever is asked for, kills aside, by
someone who is not root: the tasks of a role that he does not act for and
the templates of its jobs are afterwards those from before, as long as the
tokens are fresh that have been handed out by then. -/
theorem role_kept {request : Request} (hw : w.Reachable env)
    (hrequest : ∀ q held shown, request ≠ .command (.killTasks q held) shown)
    (hsender : ∀ p ∈ request.sender? env w.nowMs,
      Capability.root ∉ p.capabilities ∧ role ∉ p.roles)
    (hfresh : env.Fresh (w.dispatch env request).1.issued) :
    w.live.KeepsRole role (w.dispatch env request).1.live :=
  answered_dispatch.keepsRole hw hrequest hsender hfresh

/-- Mallory asks for one more instance of her own job. -/
def malloryAdds : Request :=
  .command (.addInstances ⟨⟨"mesos", "prod", "web"⟩,
    (Job.plain ⟨"mesos", "prod", "web"⟩ "mallory" 1).task, setOf [1]⟩ none)
    (some (.apiKey "mallory"))

/-- She gets it, and nothing has happened to Alice's job of the same name. -/
theorem role_kept_beside_mallory :
    (twoJobs.dispatch twoRoles malloryAdds).2.code = .ok
      ∧ (∀ q held shown, malloryAdds ≠ .command (.killTasks q held) shown)
      ∧ (∀ p ∈ malloryAdds.sender? twoRoles twoJobs.nowMs,
        Capability.root ∉ p.capabilities ∧ "www-data" ∉ p.roles)
      ∧ twoRoles.Fresh (twoJobs.dispatch twoRoles malloryAdds).1.issued
      ∧ twoJobs.live.KeepsRole "www-data" (twoJobs.dispatch twoRoles malloryAdds).1.live := by
  have hrequest : ∀ q held shown, malloryAdds ≠ .command (.killTasks q held) shown := nofun
  have hsender : ∀ p ∈ malloryAdds.sender? twoRoles twoJobs.nowMs,
      Capability.root ∉ p.capabilities ∧ "www-data" ∉ p.roles := by
    rintro p ⟨⟩
    decide +kernel
  have hfresh : twoRoles.Fresh (twoJobs.dispatch twoRoles malloryAdds).1.issued :=
    Environment.fresh_of_freshToken rfl (by decide +kernel)
  exact ⟨by decide +kernel, hrequest, hsender, hfresh,
    role_kept reachable_twoJobs hrequest hsender hfresh⟩

end World

end JobControl
