import JobControl.Proofs.RoleIsolation

/-!
# Locks of other roles

Whether a job is locked is for those to know who act for its role. Two
worlds look the same to them if they differ at most in the locks of jobs
of other roles, and a command about one job is then answered in the same
way in both and leads to worlds that look the same again: it looks at one
lock only, that of a job of the role for which its sender was let through.

The replacement of a template is the exception. Its sender is let through
for the role of the owner, but the lock that is looked at is that of the
key, and that these belong to the same role is found out only after that.
Where they do not, the answer tells whether the job of the other role is
locked.
-/

namespace JobControl

namespace Store

variable {roles : Names} {s t : Store} {key : JobKey}

/-- The stores look the same to those who act for some roles: they differ
at most in the locks of jobs of other roles. -/
structure SameTo (roles : Names) (s t : Store) : Prop where
  tasks : t.tasks = s.tasks
  jobs : t.jobs = s.jobs
  quotas : t.quotas = s.quotas
  locks : ∀ name : String,
    (∀ key : JobKey, key.isValid = true → key.canonical = name → key.role ∈ roles) →
    t.locks[name]? = s.locks[name]?

namespace SameTo

theorem eq_with_locks (h : s.SameTo roles t) : t = { s with locks := t.locks } := by
  cases t
  simp only [← h.tasks, ← h.jobs, ← h.quotas]

theorem lock? (h : s.SameTo roles t) (hkey : key.isValid = true → key.role ∈ roles) :
    t.lock? key = s.lock? key := by
  refine h.locks key.canonical fun other hvalid hname => ?_
  obtain rfl := JobKey.eq_of_canonical_eq hvalid hname.symm
  exact hkey hvalid

theorem checkLock {held : Option Lock} (h : s.SameTo roles t)
    (hkey : key.isValid = true → key.role ∈ roles) :
    t.checkLock key held = s.checkLock key held := by
  simp only [Store.checkLock, h.lock? hkey]

/-- What does not look at locks finds the same. -/
theorem congr {α : Type} (h : s.SameTo roles t) (f : Store → α)
    (hf : ∀ (s : Store) (locks : Table Lock), f { s with locks := locks } = f s) : f t = f s := by
  rw [h.eq_with_locks, hf]

/-- What neither looks at locks nor changes them leads to stores that look
the same. -/
theorem map (h : s.SameTo roles t) (f : Store → Store)
    (hf : ∀ (s : Store) (locks : Table Lock),
      f { s with locks := locks } = { f s with locks := locks }) : (f s).SameTo roles (f t) := by
  have hs : f s = { f s with locks := s.locks } := hf s s.locks
  have ht : f t = { f s with locks := t.locks } := by rw [← hf, ← h.eq_with_locks]
  rw [hs, ht]
  exact ⟨rfl, rfl, rfl, h.locks⟩

theorem saveLock {lock : Lock} (h : s.SameTo roles t) :
    (s.saveLock lock).SameTo roles (t.saveLock lock) where
  tasks := h.tasks
  jobs := h.jobs
  quotas := h.quotas
  locks name hname := by
    simp only [Store.saveLock, Table.getElem?_insert, h.locks name hname]

theorem removeLock (h : s.SameTo roles t) : (s.removeLock key).SameTo roles (t.removeLock key) where
  tasks := h.tasks
  jobs := h.jobs
  quotas := h.quotas
  locks name hname := by
    simp only [Store.removeLock, Table.getElem?_erase, h.locks name hname]

theorem releaseLock {lock : Lock} (h : s.SameTo roles t)
    (hkey : lock.key.isValid = true → lock.key.role ∈ roles) :
    (s.releaseLock lock).SameTo roles (t.releaseLock lock) := by
  rw [Store.releaseLock, Store.releaseLock, h.lock? hkey]
  split
  · split
    · exact h.removeLock
    · exact h
  · exact h

end SameTo

end Store

/-! ## Steps that come out the same -/

/-- Two steps fail for the same reason, or their results are related. -/
inductive Agree {ε α β : Type} (R : α → β → Prop) : Except ε α → Except ε β → Prop
  | error (e : ε) : Agree R (.error e) (.error e)
  | ok {a : α} {b : β} : R a b → Agree R (.ok a) (.ok b)

namespace Agree

variable {ε α α' β β' : Type} {R : β → β' → Prop} {S : α → α' → Prop}

theorem bind {x : Except ε α} {y : Except ε α'} {f : α → Except ε β} {g : α' → Except ε β'}
    (h : Agree S x y) (hfg : ∀ a b, S a b → Agree R (f a) (g b)) :
    Agree R (x >>= f) (y >>= g) := by
  cases h with
  | error e => exact .error e
  | ok hab => exact hfg _ _ hab

theorem bind_same {x : Except ε α} {f : α → Except ε β} {g : α → Except ε β'}
    (h : ∀ a, x = .ok a → Agree R (f a) (g a)) : Agree R (x >>= f) (x >>= g) := by
  cases x with
  | error e => exact .error e
  | ok a => exact h a rfl

theorem guard {c : Prop} [Decidable c] {e : ε} {x : Except ε β} {y : Except ε β'}
    (h : Agree R x y) : Agree R (if c then .error e else x) (if c then .error e else y) := by
  split
  · exact .error e
  · exact h

theorem checked {cause : ε → Fault} {x : Except ε β} {y : Except ε β'} (h : Agree R x y) :
    Agree R (checked cause x) (JobControl.checked cause y) := by
  cases h with
  | error e => exact .error _
  | ok hab => exact .ok hab

end Agree

namespace Store.SameTo

variable {roles : Names} {s t : Store} {job : Sanitized}

theorem createCronJob (h : s.SameTo roles t) :
    Agree (SameTo roles) (s.createCronJob job) (t.createCronJob job) := by
  simp only [Store.createCronJob]
  refine .bind_same fun template _ => ?_
  rw [h.congr (·.hasCronJob template.key) fun _ _ => rfl]
  exact .guard (.ok (h.map (·.saveJob cronManager template) fun _ _ => rfl))

theorem updateCronJob (h : s.SameTo roles t) :
    Agree (SameTo roles) (s.updateCronJob job) (t.updateCronJob job) := by
  simp only [Store.updateCronJob]
  refine .bind_same fun template _ => ?_
  rw [h.congr (·.hasCronJob template.key) fun _ _ => rfl]
  split
  · exact .ok (h.map (·.saveJob cronManager template) fun _ _ => rfl)
  · exact .error _

end Store.SameTo

namespace World

/-- The worlds look the same to those who act for some roles. -/
structure SameTo (roles : Names) (w v : World) : Prop where
  nowMs : v.nowMs = w.nowMs
  issued : v.issued = w.issued
  live : w.live.SameTo roles v.live

/-- The same is answered, and the worlds that are left look the same. -/
def SameOutcome (roles : Names) (a b : World × Response) : Prop :=
  a.1.SameTo roles b.1 ∧ b.2 = a.2

variable {env : Environment} {w v : World} {p : Principal} {roles : Names} {role : String}

namespace SameTo

theorem stamp (h : w.SameTo roles v) : v.stamp = w.stamp := by
  rw [World.stamp, World.stamp, h.nowMs]

theorem launch {stamp : Stamp} {specs : List (Int32 × TaskSpec)} (h : w.SameTo roles v) :
    (w.launch env stamp specs).SameTo roles (v.launch env stamp specs) where
  nowMs := h.nowMs
  issued := by simp only [World.launch, h.issued]
  live := by
    have htoken : v.freshToken env = w.freshToken env := by
      funext i
      rw [freshToken, freshToken, h.issued]
    simp only [World.launch, commit, htoken]
    exact h.live.map (·.saveTasks _) fun _ _ => rfl

theorem commit {s t : Store} (h : w.SameTo roles v) (hst : s.SameTo roles t) :
    (w.commit s).SameTo roles (v.commit t) :=
  ⟨h.nowMs, h.issued, hst⟩

/-! ## The commands about one job -/

theorem createJob {job : Job} {held : Option Lock} (h : w.SameTo roles v)
    (hrole : job.owner.role ∈ roles) : Agree (SameOutcome roles)
      (w.createJob env job held) (v.createJob env job held) := by
  simp only [World.createJob, throw_bind]
  refine .bind_same fun s hs => .guard ?_
  have hsanitized := Sanitized.sanitize_of_ofJob (checked_eq_ok.mp hs)
  have hkey : s.job.key.role = job.owner.role :=
    (Option.some.inj (Job.namedRole_of_sanitize hsanitized)).symm
  rw [h.live.checkLock fun _ => hkey ▸ hrole, h.live.congr (·.hasJob s.job.key) fun _ _ => rfl,
    h.live.congr (·.admitLaunch s.job.key.role s.tasks) fun _ _ => rfl, h.stamp]
  exact .bind_same fun _ _ => .guard <| .bind_same fun _ _ => .ok ⟨h.launch, rfl⟩

theorem addInstances {addition : Addition} {held : Option Lock} (h : w.SameTo roles v)
    (hrole : addition.key.role ∈ roles) : Agree (SameOutcome roles)
      (w.addInstances env addition held) (v.addInstances env addition held) := by
  simp only [World.addInstances, throw_bind]
  rw [h.live.congr (·.hasCronJob addition.key) fun _ _ => rfl,
    h.live.checkLock fun _ => hrole,
    h.live.congr (·.activeInstances addition.key addition.instanceIds) fun _ _ => rfl, h.stamp]
  refine .bind_same fun _ _ => .guard <| .bind_same fun task _ => .guard <| .guard <|
    .bind_same fun _ _ => .guard ?_
  rw [h.live.congr (·.admitLaunch addition.key.role _) fun _ _ => rfl]
  exact .bind_same fun _ _ => .ok ⟨h.launch, rfl⟩

theorem scheduleCronJob {job : Job} {held : Option Lock} (h : w.SameTo roles v)
    (hrole : job.owner.role ∈ roles) : Agree (SameOutcome roles)
      (w.scheduleCronJob job held) (v.scheduleCronJob job held) := by
  simp only [World.scheduleCronJob, throw_bind]
  refine .bind_same fun s hs => ?_
  have hsanitized := Sanitized.sanitize_of_ofJob (checked_eq_ok.mp hs)
  have hkey : s.job.key.role = job.owner.role :=
    (Option.some.inj (Job.namedRole_of_sanitize hsanitized)).symm
  rw [h.live.checkLock fun _ => hkey ▸ hrole,
    h.live.congr (·.hasCronJob s.job.key) fun _ _ => rfl]
  refine .bind_same fun _ _ => .guard <| .bind (S := Store.SameTo roles) (.checked ?_)
    fun a b hab => .ok ⟨h.commit hab, rfl⟩
  split
  · exact h.live.updateCronJob
  · exact h.live.createCronJob

theorem descheduleCronJob {key : JobKey} {held : Option Lock} (h : w.SameTo roles v)
    (hrole : key.role ∈ roles) : Agree (SameOutcome roles)
      (w.descheduleCronJob key held) (v.descheduleCronJob key held) := by
  simp only [World.descheduleCronJob, Store.deleteCronJob]
  rw [h.live.checkLock fun _ => hrole, h.live.congr (·.hasCronJob key) fun _ _ => rfl]
  refine .bind_same fun _ _ => ?_
  cases w.live.hasCronJob key with
  | false => exact .error _
  | true => exact .ok ⟨h.commit (h.live.map (·.removeJob key) fun _ _ => rfl), rfl⟩

/-- The lock that is looked at is that of the key. -/
theorem replaceCronTemplate {job : Job} {held : Option Lock} (h : w.SameTo roles v)
    (hkey : job.key.isValid = true → job.key.role ∈ roles) : Agree (SameOutcome roles)
      (w.replaceCronTemplate job held) (v.replaceCronTemplate job held) := by
  simp only [World.replaceCronTemplate]
  rw [h.live.checkLock hkey]
  exact .bind_same fun _ _ => .bind_same fun s _ =>
    .bind (S := Store.SameTo roles) (.checked h.live.updateCronJob) fun a b hab =>
      .ok ⟨h.commit hab, rfl⟩

theorem startCronJob {key : JobKey} (h : w.SameTo roles v) : Agree (SameOutcome roles)
    (w.startCronJob env key) (v.startCronJob env key) := by
  simp only [World.startCronJob, launchCronJob]
  rw [h.live.congr (·.cronLaunch key) fun _ _ => rfl, h.nowMs]
  refine .bind_same fun _ _ => ?_
  cases w.live.cronLaunch key with
  | error refusal => exact .error _
  | ok specs => exact .ok ⟨h.launch, rfl⟩

theorem restartShards {key : JobKey} {shards : Std.ExtTreeSet Int32} {held : Option Lock}
    (h : w.SameTo roles v) (hrole : key.role ∈ roles) : Agree (SameOutcome roles)
      (w.restartShards p key shards held) (v.restartShards p key shards held) := by
  simp only [World.restartShards, throw_bind]
  rw [h.live.checkLock fun _ => hrole,
    h.live.congr (·.activeInstances key shards) fun _ _ => rfl, h.stamp]
  refine .bind_same fun _ _ => .guard <| .bind_same fun _ _ => .guard ?_
  rw [h.live.congr (fun s => (s.changeState _ _ _ _).2) fun _ _ => rfl]
  exact .ok ⟨h.commit (h.live.map (fun s => (s.changeState _ _ _ _).1) fun _ _ => rfl), rfl⟩

theorem acquireLock {key : JobKey} (h : w.SameTo roles v) (hrole : key.role ∈ roles) :
    Agree (SameOutcome roles) (w.acquireLock env p key) (v.acquireLock env p key) := by
  simp only [World.acquireLock, lockJob, Store.acquireLock, freshToken, h.issued, h.nowMs]
  rw [h.live.lock? fun _ => hrole]
  cases w.live.lock? key with
  | some stored => exact .error _
  | none => exact .ok ⟨⟨h.nowMs, rfl, h.live.saveLock⟩, rfl⟩

theorem releaseLock {lock : Lock} {mode : ReleaseMode} (h : w.SameTo roles v)
    (hrole : lock.key.role ∈ roles) : Agree (SameOutcome roles)
      (w.releaseLock env lock mode) (v.releaseLock env lock mode) := by
  cases mode with
  | checked =>
      simp only [World.releaseLock]
      rw [h.live.checkLock fun _ => hrole]
      cases w.live.checkLock lock.key (some lock) with
      | error conflict => exact .error _
      | ok => exact .ok ⟨⟨h.nowMs, h.issued, h.live.releaseLock fun _ => hrole⟩, rfl⟩
  | unchecked => exact .ok ⟨⟨h.nowMs, h.issued, h.live.removeLock⟩, rfl⟩

end SameTo

/-- A command about one job of a role comes out the same for those who act
for the role, if the template that it replaces is of one of their roles. -/
theorem SameTo.perform {c : Command} {role : String} {owners : Names} (h : w.SameTo p.roles v)
    (hnamed : c.namedRole? = some role) (hrole : role ∈ p.roles)
    (hreplace : ∀ job held, c = .replaceCronTemplate job held → job.key.isValid = true →
      job.key.role ∈ p.roles) :
    Agree (SameOutcome p.roles) (w.perform env p owners c) (v.perform env p owners c) := by
  cases c with
  | createJob => cases hnamed; exact h.createJob hrole
  | addInstances => cases hnamed; exact h.addInstances hrole
  | scheduleCronJob => cases hnamed; exact h.scheduleCronJob hrole
  | descheduleCronJob => cases hnamed; exact h.descheduleCronJob hrole
  | replaceCronTemplate job held => exact h.replaceCronTemplate (hreplace job held rfl)
  | startCronJob => exact h.startCronJob
  | restartShards => cases hnamed; exact h.restartShards hrole
  | acquireLock => cases hnamed; exact h.acquireLock hrole
  | releaseLock => cases hnamed; exact h.releaseLock hrole
  | _ => cases hnamed

/-! ## Dispatch -/

end World

/-- The roles that the sender of a request acts for: none, unless he is
recognised. -/
def Environment.rolesOf (env : Environment) (nowMs : Int64) : Option Credential → Names
  | none => ∅
  | some shown =>
      match env.recognise nowMs shown with
      | .ok p => p.roles
      | .error _ => ∅

theorem Environment.rolesOf_of_recognised {env : Environment} {nowMs : Int64}
    {shown : Credential} {p : Principal} (h : env.recognise nowMs shown = .ok p) :
    env.rolesOf nowMs (some shown) = p.roles := by
  simp only [rolesOf, h]

namespace World

variable {env : Environment} {w v : World} {c : Command} {role : String}
  {credential : Option Credential}

/-- Attempts to give a command agree if it is carried out alike; the kill,
which is authorized by what is stored, aside. -/
theorem agree_attempt {R : World × Response → World × Response → Prop}
    (hcalm : ∀ q held, c ≠ .killTasks q held) (hnow : v.nowMs = w.nowMs)
    (hperform : ∀ p, authorize env w.nowMs w.live c credential = .ok p →
      Agree R (w.perform env p (c.targetRoles w.live) c)
        (v.perform env p (c.targetRoles w.live) c)) :
    Agree R (w.attempt env w.live (.command c credential))
      (v.attempt env v.live (.command c credential)) := by
  have hsame : authorize env v.nowMs v.live c credential
      = authorize env w.nowMs w.live c credential := by
    rw [hnow]
    simp only [authorize, Command.targetRoles_congr hcalm v.live w.live]
  cases hauthorized : authorize env w.nowMs w.live c credential with
  | error denial =>
      rw [attempt_of_denied (Command.precheck_eq_ok hcalm) hauthorized,
        attempt_of_denied (Command.precheck_eq_ok hcalm) (hsame.trans hauthorized)]
      exact .error _
  | ok p =>
      rw [attempt_of_authorized (Command.precheck_eq_ok hcalm) hauthorized,
        attempt_of_authorized (Command.precheck_eq_ok hcalm) (hsame.trans hauthorized),
        Command.targetRoles_congr hcalm v.live w.live]
      exact hperform p hauthorized

/-- The attempts of a sender to give a command end in the same way. -/
theorem SameTo.attempt (h : w.SameTo (env.rolesOf w.nowMs credential) v)
    (hnamed : c.namedRole? = some role)
    (hreplace : ∀ job held, c = .replaceCronTemplate job held → job.key.isValid = true →
      job.key.role ∈ env.rolesOf w.nowMs credential) :
    Agree (SameOutcome (env.rolesOf w.nowMs credential))
      (w.attempt env w.live (.command c credential))
      (v.attempt env v.live (.command c credential)) := by
  have hcalm : ∀ q held, c ≠ .killTasks q held := by
    rintro q held rfl
    cases hnamed
  refine agree_attempt hcalm h.nowMs fun p hauthorized => ?_
  -- he acts for the role for which he was let through, so that its locks are the same
  obtain ⟨shown, rfl, hshown, -⟩ := authorize_eq_ok.mp hauthorized
  have hrole := role_mem_of_authorize hauthorized hnamed
  rw [Environment.rolesOf_of_recognised hshown] at h hreplace ⊢
  exact h.perform hnamed hrole hreplace

/-- **A command about one job does not tell its sender of locks that are
none of his business**: it is answered in the same way, and does the same,
in worlds that differ in these locks only. For the replacement of a
template, the key of the template has to be of a role that the sender acts
for. -/
theorem sameOutcome_dispatch (h : w.SameTo (env.rolesOf w.nowMs credential) v)
    (hnamed : c.namedRole? = some role)
    (hreplace : ∀ job held, c = .replaceCronTemplate job held → job.key.isValid = true →
      job.key.role ∈ env.rolesOf w.nowMs credential) :
    SameOutcome (env.rolesOf w.nowMs credential) (w.dispatch env (.command c credential))
      (v.dispatch env (.command c credential)) := by
  have hattempt := h.attempt hnamed hreplace
  generalize hw : w.attempt env w.live (.command c credential) = x at hattempt
  generalize hv : v.attempt env v.live (.command c credential) = y at hattempt
  cases hattempt with
  | error refusal =>
      rw [dispatch_of_refused hw, dispatch_of_refused hv]
      exact ⟨⟨h.nowMs, h.issued, h.live⟩, rfl⟩
  | @ok a b hab =>
      obtain ⟨hafter, hsame⟩ := hab
      obtain ⟨hr, log, hw'⟩ := dispatch_of_done hw
      obtain ⟨hr', log', hv'⟩ := dispatch_of_done hv
      rw [SameOutcome, hr, hr', hw', hv']
      exact ⟨⟨hafter.nowMs, hafter.issued, hafter.live⟩, hsame⟩

/-! ## What Alice can find out -/

/-- Mallory has locked her job. -/
def malloryLocked : World :=
  (start 0 0 ∅ .empty).run twoRoles
    [.request (.command (.acquireLock ⟨"mesos", "prod", "web"⟩) (some (.apiKey "mallory")))]

/-- She has released the lock. -/
def malloryReleased : World :=
  malloryLocked.run twoRoles
    [.request (.command (.releaseLock ⟨⟨"mesos", "prod", "web"⟩, "", "", 0, none⟩ .unchecked)
      (some (.apiKey "mallory")))]

/-- A job with the key of Mallory's that Alice owns: it is not well
described. -/
def intruding : Job :=
  { Job.plain ⟨"mesos", "prod", "web"⟩ "alice" 1 with owner := ⟨"www-data", "alice"⟩ }

/-- To Alice it looks the same whether Mallory has released her lock. -/
theorem sameTo_malloryLocked :
    malloryReleased.SameTo (twoRoles.rolesOf 0 (some (.apiKey "alice"))) malloryLocked where
  nowMs := rfl
  issued := rfl
  live := by
    have hlive : malloryReleased.live = malloryLocked.live.removeLock ⟨"mesos", "prod", "web"⟩ :=
      rfl
    refine ⟨rfl, rfl, rfl, fun name hname => ?_⟩
    rw [hlive, Store.removeLock, Table.getElem?_erase, if_neg]
    intro hsame
    exact absurd (hname _ (by decide) hsame) (by decide +kernel)

/-- Alice, who asks for Mallory's job to be created, learns nothing. -/
theorem sameOutcome_of_intruding :
    malloryReleased.SameTo (twoRoles.rolesOf 0 (some (.apiKey "alice"))) malloryLocked
      ∧ (Command.createJob intruding none).namedRole? = some "www-data"
      ∧ (∀ job held, Command.createJob intruding none = .replaceCronTemplate job held →
        job.key.isValid = true →
        job.key.role ∈ twoRoles.rolesOf 0 (some (.apiKey "alice")))
      ∧ SameOutcome (twoRoles.rolesOf 0 (some (.apiKey "alice")))
        (malloryReleased.dispatch twoRoles (.command (.createJob intruding none)
          (some (.apiKey "alice"))))
        (malloryLocked.dispatch twoRoles (.command (.createJob intruding none)
          (some (.apiKey "alice")))) := by
  have hreplace : ∀ job held, Command.createJob intruding none = .replaceCronTemplate job held →
      job.key.isValid = true → job.key.role ∈ twoRoles.rolesOf 0 (some (.apiKey "alice")) := by
    intro job held h
    cases h
  exact ⟨sameTo_malloryLocked, rfl, hreplace,
    sameOutcome_dispatch (w := malloryReleased) sameTo_malloryLocked rfl hreplace⟩

/-- Alice, who replaces the template of a job of her own that has
Mallory's key, finds out whether Mallory's job is locked. -/
theorem lock_of_other_role_shows : ¬ ∀ (env : Environment) (w v : World) (c : Command)
    (role : String) (credential : Option Credential), w.Reachable env → v.Reachable env →
    (∀ shown p, credential = some shown → env.recognise w.nowMs shown = .ok p →
      p.holds .root = false) →
    w.SameTo (env.rolesOf w.nowMs credential) v → c.namedRole? = some role →
    SameOutcome (env.rolesOf w.nowMs credential)
      (w.dispatch env (.command c credential)) (v.dispatch env (.command c credential)) := by
  intro hall
  have hlocked : malloryLocked.Reachable twoRoles := ⟨0, 0, ∅, _, fun _ _ => trivial, rfl⟩
  have hreleased : malloryReleased.Reachable twoRoles := hlocked.run fun _ _ => trivial
  have hplain : ∀ shown p, some (.apiKey "alice") = some shown →
      twoRoles.recognise malloryReleased.nowMs shown = .ok p → p.holds .root = false := by
    intro shown p hshown hp
    obtain rfl := Option.some.inj hshown
    obtain rfl : ⟨"alice", setOf ["www-data"], ∅⟩ = p := Except.ok.inj hp
    decide +kernel
  have hsame := hall twoRoles malloryReleased malloryLocked (.replaceCronTemplate intruding none)
    "www-data" (some (.apiKey "alice")) hreleased hlocked hplain sameTo_malloryLocked rfl
  have hcode := congrArg Response.code hsame.2
  revert hcode
  decide +kernel

end World

end JobControl
