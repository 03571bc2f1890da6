import JobControl.Control.Setup
import JobControl.Proofs.Runs

/-!
# Callers who are turned away

Whether a caller may give a command is decided before anything is looked
at: from the credential, the time, and what the command itself names. The
answer to a caller who may not is therefore the same in every world, and
one record of the attempt is all that remains of it. The exception are
kills, for which the store has to be looked at to find the owners of the
tasks.

`TurnedAway` lists the callers who may not, in the words of the access
rules and not of the checks; `denial_of_turnedAway` shows that the checks
stop all of them.
-/

namespace JobControl

namespace AuthSettings

variable {s : AuthSettings} {nowMs : Int64} {key : String}

/-- A key is not recognised if it is unknown, or no longer active. -/
theorem recognise_apiKey_eq_error :
    s.recognise nowMs (.apiKey key) = .error .invalidApiKey ↔
      ∀ k, s.keyOf (hashOfKey key) = some k → k.isActive = false := by
  rw [recognise]
  cases s.keyOf (hashOfKey key) with
  | none => simp
  | some k => cases h : k.isActive <;> simp [Option.filter, h]

end AuthSettings

/-- A scheduler recognises its callers as its settings say. -/
theorem Settings.recognise_environment {s : Settings} :
    s.environment.recognise = s.auth.recognise := rfl

/-- A credential belongs at some time to somebody who holds a capability, or
to root. -/
def Environment.Grants (env : Environment) (nowMs : Int64) (capability : Capability)
    (credential : Option Credential) : Prop :=
  ∃ shown p, credential = some shown ∧ env.recognise nowMs shown = .ok p
    ∧ (Capability.root ∈ p.capabilities ∨ capability ∈ p.capabilities)

namespace Command

variable {env : Environment} {nowMs : Int64} {c : Command} {role : String}

/-- Who may not give a command at some time: one who shows no credential,
one who is not recognised, one who does not act for the role of the job,
and one who has not the capability that is asked for. -/
inductive TurnedAway (env : Environment) (nowMs : Int64) (c : Command) :
    Option Credential → Prop
  | unnamed : TurnedAway env nowMs c none
  | unrecognised {shown : Credential} {denial : Denial} :
      env.recognise nowMs shown = .error denial → TurnedAway env nowMs c (some shown)
  | outsider {shown : Credential} {p : Principal} {role : String} :
      env.recognise nowMs shown = .ok p → c.namedRole? = some role → role ∉ p.roles →
      TurnedAway env nowMs c (some shown)
  | unprivileged {shown : Credential} {p : Principal} {capability : Capability} :
      env.recognise nowMs shown = .ok p → c.operation.access = .holder capability →
      Capability.root ∉ p.capabilities → capability ∉ p.capabilities →
      TurnedAway env nowMs c (some shown)

/-- A command that names a role is for those who act for it. -/
theorem access_of_namedRole? (h : c.namedRole? = some role) :
    c.operation.access = .jobOwner := by
  cases c <;> cases h <;> rfl

theorem targetRoles_of_namedRole? (h : c.namedRole? = some role) (seen : Store) :
    c.targetRoles seen = setOf [role] := by
  cases c <;> cases h <;> rfl

/-- Only for a kill the store is looked at. -/
theorem targetRoles_congr (hc : ∀ q held, c ≠ .killTasks q held) (seen other : Store) :
    c.targetRoles seen = c.targetRoles other := by
  cases c with
  | killTasks q held => exact absurd rfl (hc q held)
  | _ => rfl

theorem precheck_eq_ok (hc : ∀ q held, c ≠ .killTasks q held) : c.precheck = .ok () := by
  cases c with
  | killTasks q held => exact absurd rfl (hc q held)
  | _ => rfl

end Command

namespace Principal

variable {p : Principal} {role : String} {capability : Capability}

theorem actsFor_singleton : p.actsFor (setOf [role]) = true ↔ role ∈ p.roles := by
  rw [actsFor, Bool.or_eq_true, Std.ExtTreeSet.isEmpty_iff, setOf_eq_empty_iff]
  simp only [List.cons_ne_nil, false_or, List.any_eq_true, Std.ExtTreeSet.mem_toList,
    mem_setOf, List.mem_singleton, exists_eq_left, Std.ExtTreeSet.contains_iff_mem]

theorem holds_iff : p.holds capability = true ↔
    Capability.root ∈ p.capabilities ∨ capability ∈ p.capabilities := by
  simp [holds]

theorem check_jobOwner_eq_ok : p.check (setOf [role]) .jobOwner = .ok p ↔ role ∈ p.roles := by
  rw [← actsFor_singleton, check, inRoles]
  cases p.actsFor (setOf [role]) <;> simp

theorem check_holder_eq_ok {roles : Names} : p.check roles (.holder capability) = .ok p ↔
    Capability.root ∈ p.capabilities ∨ capability ∈ p.capabilities := by
  rw [← holds_iff, check, withCapability]
  cases p.holds capability <;> simp

theorem denied_of_check_ne_ok {roles : Names} {access : Access}
    (h : p.check roles access ≠ .ok p) : ∃ denial, p.check roles access = .error denial := by
  cases hcheck : p.check roles access with
  | error denial => exact ⟨denial, rfl⟩
  | ok q =>
      obtain rfl := eq_of_check hcheck
      exact absurd hcheck h

end Principal

namespace World

variable {env : Environment} {w : World} {nowMs : Int64} {c : Command}
  {credential : Option Credential} {denial : Denial}

theorem authorize_of_recognised {shown : Credential} {p : Principal} {seen : Store}
    (h : env.recognise nowMs shown = .ok p) : authorize env nowMs seen c (some shown) =
      p.check (c.targetRoles seen) c.operation.access := by
  show (env.recognise nowMs shown >>= fun p => p.check _ _) = _
  rw [h]
  rfl

/-- **The checks stop everyone who may not give the command**, for a reason
that does not depend on the store. -/
theorem denial_of_turnedAway (hc : ∀ q held, c ≠ .killTasks q held)
    (h : c.TurnedAway env nowMs credential) :
    ∃ denial, ∀ seen, authorize env nowMs seen c credential = .error denial := by
  cases h with
  | unnamed => exact ⟨.missingCredentials, fun _ => rfl⟩
  | @unrecognised shown denial hshown =>
      refine ⟨denial, fun seen => ?_⟩
      show (env.recognise nowMs shown >>= fun p => p.check _ _) = _
      rw [hshown]
      rfl
  | outsider hp hnamed hrole =>
      obtain ⟨denial, hdenial⟩ :=
        Principal.denied_of_check_ne_ok (mt Principal.check_jobOwner_eq_ok.mp hrole)
      refine ⟨denial, fun seen => ?_⟩
      rw [authorize_of_recognised hp, Command.access_of_namedRole? hnamed,
        Command.targetRoles_of_namedRole? hnamed, hdenial]
  | @unprivileged shown p capability hp haccess hroot hcapability =>
      have hcheck : p.check (c.targetRoles .empty) (.holder capability) ≠ .ok p :=
        mt Principal.check_holder_eq_ok.mp (not_or.mpr ⟨hroot, hcapability⟩)
      obtain ⟨denial, hdenial⟩ := Principal.denied_of_check_ne_ok hcheck
      refine ⟨denial, fun seen => ?_⟩
      rw [authorize_of_recognised hp, haccess, Command.targetRoles_congr hc seen .empty, hdenial]

theorem attempt_of_denied (hpre : c.precheck = .ok ())
    (h : authorize env w.nowMs w.live c credential = .error denial) :
    w.attempt env w.live (.command c credential) = .error (.denied denial) := by
  cases credential with
  | none =>
      cases h
      rfl
  | some shown =>
      simp only [attempt, Option.isNone_some, Bool.false_eq_true, if_false, hpre, h]
      rfl

/-- Root is let through. -/
theorem attempt_of_root {shown : Credential} {p : Principal}
    (hshown : env.recognise w.nowMs shown = .ok p) (hroot : Capability.root ∈ p.capabilities)
    (haccess : c.operation.access = .holder .root) (hpre : c.precheck = .ok ()) :
    w.attempt env w.live (.command c (some shown))
      = w.perform env p (c.targetRoles w.live) c := by
  have hp : authorize env w.nowMs w.live c (some shown) = .ok p := by
    rw [authorize_of_recognised hshown, haccess]
    exact Principal.check_holder_eq_ok.mpr (Or.inl hroot)
  exact attempt_of_authorized hpre hp

/-- Those who hold the capability that a command asks for are let through,
and nobody else. -/
theorem exists_authorized_iff_grants {capability : Capability} {seen : Store}
    (haccess : c.operation.access = .holder capability) :
    (∃ p, authorize env nowMs seen c credential = .ok p) ↔
      env.Grants nowMs capability credential := by
  simp only [authorize_eq_ok, haccess, Principal.check_holder_eq_ok]
  exact exists_comm

theorem attempt_of_grants {capability : Capability} (hpre : c.precheck = .ok ())
    (haccess : c.operation.access = .holder capability)
    (h : env.Grants w.nowMs capability credential) :
    ∃ p, w.attempt env w.live (.command c credential)
      = w.perform env p (c.targetRoles w.live) c := by
  obtain ⟨p, hp⟩ := (exists_authorized_iff_grants haccess).mpr h
  exact ⟨p, attempt_of_authorized hpre hp⟩

theorem grants_of_ok {capability : Capability}
    (haccess : c.operation.access = .holder capability)
    (hok : (w.dispatch env (.command c credential)).2.code = .ok) :
    env.Grants w.nowMs capability credential := by
  obtain ⟨w', log, hattempt, -⟩ := attempt_of_ok hok
  obtain ⟨-, p, hp, -⟩ := attempt_command_eq_ok.mp hattempt
  exact (exists_authorized_iff_grants haccess).mp ⟨p, hp⟩

/-- **Nobody gets past the gate.** A caller who may not give a command, a
kill aside, is answered that he may not, in the same words whatever the
world is like at that time, and the attempt is recorded once; nothing else
happens. -/
theorem turned_away (hc : ∀ q held, c ≠ .killTasks q held)
    (h : c.TurnedAway env nowMs credential) :
    ∃ (e : Event) (r : Response), e.kind = .authFailed ∧ r.code = .authFailed
      ∧ ∀ w : World, w.nowMs = nowMs →
        w.dispatch env (.command c credential) = (w.record env e, r) := by
  obtain ⟨denial, hdenial⟩ := denial_of_turnedAway hc h
  refine ⟨refusalEvent nowMs c.operation (.denied denial), (Refusal.denied denial).response,
    rfl, rfl, ?_⟩
  rintro w rfl
  exact dispatch_of_refused (attempt_of_denied (Command.precheck_eq_ok hc) (hdenial w.live))

/-- The settings of a scheduler that knows one key, and no longer honours
it. -/
def revoked : Settings :=
  { Settings.default with
    auth := { AuthSettings.default with
      apiKeys := [⟨"alice", hashOfKey "alice-secret", ["www-data"], ["ROOT"], false⟩] } }

/-- A key that is no longer active opens nothing. -/
theorem turned_away_revoked :
    let key := Credential.apiKey "alice-secret"
    let c := Command.createJob (.plain ⟨"www-data", "prod", "web"⟩ "alice" 1) none
    (∀ q held, c ≠ .killTasks q held) ∧ c.TurnedAway revoked.environment 0 (some key)
      ∧ ∃ (e : Event) (r : Response), e.kind = .authFailed ∧ r.code = .authFailed
        ∧ ∀ w : World, w.nowMs = 0 →
          w.dispatch revoked.environment (.command c (some key))
            = (w.record revoked.environment e, r) := by
  intro key c
  have hc : ∀ q held, c ≠ .killTasks q held := nofun
  have hkey : revoked.environment.recognise 0 key = .error .invalidApiKey := by
    rw [Settings.recognise_environment, AuthSettings.recognise_apiKey_eq_error]
    intro k hk
    simp only [revoked, AuthSettings.keyOf, beq_self_eq_true, List.filter_cons_of_pos,
      List.filter_nil, List.getLast?_singleton, Option.some.injEq] at hk
    subst hk
    rfl
  exact ⟨hc, .unrecognised hkey, turned_away hc (.unrecognised hkey)⟩

end World

end JobControl
