import JobControl.Proofs.Consumption
import JobControl.Proofs.FreshTokens

/-!
# Who is admitted

A launch that nothing else stands in the way of is admitted exactly if
production stays within the allotment, in memory and on disk and in
integers: what the role needs already, and what the new tasks need, must
not be more than what is allotted. Sums that stay at the end of the range
are as good as true ones here, because what is allotted can be written and
because every task needs something, so that a sum that has come to the
end leaves no room. If the launch is admitted the view of consumption
shows the sum; otherwise one record of the refusal is all that happens. A
launch outside of production is always admitted.

Processors are doubles, whose sums depend on their order; that the
comparison of processors does not stand in the way is a premise.
-/

namespace JobControl

/-- What needs memory is not nothing. -/
theorem Resources.beq_empty_eq_false {a : Resources} (h : 0 < a.megabytes .memory) :
    (a == empty) = false := by
  refine Bool.eq_false_iff.mpr fun heq => ?_
  obtain ⟨cpus, ram, disk⟩ := a
  simp only [BEq.beq, instBEqResources.beq, Bool.and_eq_true, decide_eq_true_eq] at heq
  have hzero : ram.toInt = 0 := congrArg Int64.toInt heq.2.1
  exact absurd hzero (Int.ne_of_gt h)

namespace Store

variable {s : Store} {role : String} {additional : Resources} {t : TaskSpec} {n : Nat}
  {ids : List Int32}

/-- What a role may use; nothing if nothing was set. -/
def allotment (s : Store) (role : String) : Resources :=
  (s.quota? role).getD .empty

/-- The processors that production comes to with some more tasks, as they
are added up. -/
def projectedCpus (s : Store) (role : String) (n : Nat) (t : TaskSpec) : Float :=
  (s.quotaInfo role).production.numCpus + (List.replicate n t.numCpus).foldl (· + ·) 0

/-- What the role needs is not more than what it is allotted, with so many
more tasks of a description. -/
def Fits (s : Store) (role : String) (n : Nat) (t : TaskSpec) : Prop :=
  ∀ m, s.need role m + n * t.resources.megabytes m ≤ (s.allotment role).megabytes m

/-- What stays at the end of the range leaves no room for more. -/
theorem production_le_iff {m : Medium} (hs : s.Accepted) (h : 0 < additional.megabytes m) :
    (s.quotaInfo role).production.megabytes m + additional.megabytes m
        ≤ (s.allotment role).megabytes m ↔
      s.need role m + additional.megabytes m ≤ (s.allotment role).megabytes m := by
  have hle := @Resources.megabytes_le_largest (s.allotment role) m
  rw [megabytes_production hs]
  omega

theorem admission_eq_ok (hs : s.Accepted) (hadditional : ∀ m, 0 < additional.megabytes m) :
    s.admission role additional = .ok () ↔
      ¬(s.quotaInfo role).production.numCpus + additional.numCpus > (s.allotment role).numCpus
        ∧ ∀ m, s.need role m + additional.megabytes m ≤ (s.allotment role).megabytes m := by
  simp only [← production_le_iff hs (hadditional _)]
  rw [admission, if_neg (Bool.eq_false_iff.mp (Resources.beq_empty_eq_false (hadditional _)))]
  have hnonneg : additional.Nonneg := fun m => Int.le_of_lt (hadditional m)
  cases hsum : (s.quotaInfo role).production.add? additional with
  | none =>
      constructor
      · intro h
        simp [hsum] at h
      · rintro ⟨-, hfits⟩
        have hsome := (Resources.isSome_add? (nonneg_production hs) hnonneg).mpr fun m =>
          Int.le_trans (hfits m) Resources.megabytes_le_largest
        rw [hsum] at hsome
        cases hsome
  | some projected =>
      obtain ⟨hcpus, hm⟩ := Resources.add?_eq_some.mp hsum
      simp only [hsum, guard_eq_ok, and_true, Bool.not_eq_true, Resources.exceeds_eq_false,
        hcpus, hm]
      rfl

theorem map_snd_instances : (ids.map fun id => (id, t)).map Prod.snd =
    List.replicate ids.length t := by
  rw [List.map_map, ← List.map_const']
  rfl

/-- What is admitted in production stays within the allotment. -/
theorem fits_of_admitLaunch (hs : s.Accepted) (ht : ∀ m, 0 < t.resources.megabytes m)
    (hproduction : t.isProduction = true) (hids : ids ≠ [])
    (h : s.admitLaunch role (ids.map fun id => (id, t)) = .ok ()) : s.Fits role ids.length t := by
  have hpos : ∀ m, 0 < ids.length * t.resources.megabytes m := fun m =>
    Int.mul_pos (Int.natCast_pos.mpr (List.length_pos_iff.mpr hids)) (ht m)
  rw [admitLaunch, map_snd_instances, bind_eq_ok] at h
  obtain ⟨demand, hdemand, hadmitted⟩ := h
  obtain ⟨-, hdemand⟩ := (productionDemand_replicate_eq_ok hproduction fun m =>
    Int.le_of_lt (ht m)).mp hdemand
  intro m
  rw [← hdemand m]
  exact ((admission_eq_ok hs fun m => hdemand m ▸ hpos m).mp hadmitted).2 m

/-- **A launch in production is admitted exactly if it stays within the
allotment.** -/
theorem admitLaunch_eq_ok (hs : s.Accepted) (ht : ∀ m, 0 < t.resources.megabytes m)
    (hproduction : t.isProduction = true) (hids : ids ≠ [])
    (hcpus : ¬s.projectedCpus role ids.length t > (s.allotment role).numCpus) :
    s.admitLaunch role (ids.map fun id => (id, t)) = .ok () ↔ s.Fits role ids.length t := by
  refine ⟨fits_of_admitLaunch hs ht hproduction hids, fun hfits => ?_⟩
  have hpos : ∀ m, 0 < ids.length * t.resources.megabytes m := fun m =>
    Int.mul_pos (Int.natCast_pos.mpr (List.length_pos_iff.mpr hids)) (ht m)
  -- the demand can be written, as it is no more than what is allotted
  have hle : ∀ m, ids.length * t.resources.megabytes m ≤ Resources.largest := fun m => by
    have hneed := @need_nonneg s role m hs
    have hallotted := @Resources.megabytes_le_largest (s.allotment role) m
    have hfitsm := hfits m
    omega
  obtain ⟨demand, hdemandcpus, hdemand⟩ := Resources.exists_of_amounts
    ((List.replicate ids.length t.numCpus).foldl (· + ·) 0)
    (fun m => Int.le_of_lt (hpos m)) hle
  rw [admitLaunch, map_snd_instances, bind_eq_ok]
  refine ⟨demand, (productionDemand_replicate_eq_ok hproduction fun m =>
    Int.le_of_lt (ht m)).mpr ⟨hdemandcpus, hdemand⟩, ?_⟩
  refine (admission_eq_ok hs fun m => hdemand m ▸ hpos m).mpr ⟨?_, fun m => ?_⟩
  · rw [hdemandcpus]
    exact hcpus
  · rw [hdemand m]
    exact hfits m

theorem admitLaunch_of_not_production (h : t.isProduction = false) :
    s.admitLaunch role (ids.map fun id => (id, t)) = .ok () := by
  have hnothing : (Resources.empty == Resources.empty) = true := by decide
  rw [admitLaunch, map_snd_instances, productionDemand_replicate_of_not h]
  show s.admission role .empty = .ok ()
  rw [admission, if_pos hnothing]

/-! ## Jobs without templates -/

theorem noTemplate_of_hasJob {key : JobKey} (h : s.hasJob key = false) :
    ∀ j ∈ s.templates, j.key ≠ key := by
  intro j hj hkey
  obtain ⟨manager, hmanager, hj⟩ := List.mem_flatMap.mp hj
  have hnone := List.find?_eq_none.mp ((hasJob_eq_false.mp h).2 manager hmanager) j hj
  exact hnone (beq_iff_eq.mpr hkey)

theorem noTemplate_of_hasCronJob {key : JobKey} (hs : s.Accepted)
    (h : s.hasCronJob key = false) : ∀ j ∈ s.templates, j.key ≠ key := by
  intro j hj hkey
  rw [templates_eq hs] at hj
  exact List.find?_eq_none.mp (Option.isSome_eq_false_iff.mp h |> Option.isNone_iff_eq_none.mp) j hj
    (beq_iff_eq.mpr hkey)

/-- Instances of an accepted description are new to a role: there are some,
and there is no template of their job. -/
structure GrowsBy (s : Store) (role : String) (ids : List Int32) (t : TaskSpec) : Prop where
  nonempty : ids ≠ []
  accepted : t.sanitize = .ok t
  role_eq : t.owner.role = role
  noTemplate : ∀ j ∈ s.templates, j.key ≠ t.jobKey

theorem growsBy_of_hasJob {job : Job} {sanitized : Sanitized}
    (h : Sanitized.ofJob job = .ok sanitized) (habsent : s.hasJob sanitized.job.key = false) :
    s.GrowsBy sanitized.job.key.role (instanceIds sanitized.job.instanceCount)
      sanitized.job.task := by
  have hsanitize := Sanitized.sanitize_of_ofJob h
  have hkey : sanitized.job.task.jobKey = sanitized.job.key :=
    Job.taskKey_of_sanitize hsanitize
  refine ⟨Job.instanceIds_ne_nil_of_sanitize hsanitize, Job.task_sanitize_of_sanitize hsanitize,
    congrArg JobKey.role hkey, ?_⟩
  rw [hkey]
  exact noTemplate_of_hasJob habsent

theorem growsBy_of_hasCronJob {addition : Addition} {task : TaskSpec} (hs : s.Accepted)
    (hids : addition.instanceIds.isEmpty = false) (htask : addition.task.sanitize = .ok task)
    (hsame : task.jobKey = addition.key) (hcron : s.hasCronJob addition.key = false) :
    s.GrowsBy addition.key.role addition.instanceIds.toList task := by
  refine ⟨fun hnil => ?_, TaskSpec.sanitize_of_sanitize htask, congrArg JobKey.role hsame, ?_⟩
  · rw [← List.isEmpty_iff, Std.ExtTreeSet.isEmpty_toList, hids] at hnil
    cases hnil
  · rw [hsame]
    exact noTemplate_of_hasCronJob hs hcron

end Store

/-- The description of the tasks that a command launches, if it comes with
the command. -/
def Command.described? : Command → Option TaskSpec
  | .createJob job _ => some job.task
  | .addInstances addition _ => some addition.task
  | _ => none

namespace World

variable {env : Environment} {w : World} {credential : Option Credential} {c : Command}
  {role : String} {n : Nat} {t : TaskSpec}

/-- Only the allotment can stand in the way of a command that launches so
many tasks of a description for a role: the caller may give it, the
description is accepted, the lock of the job is presented if there is one,
and the job, or the instances, are not there yet. -/
inductive Poised (env : Environment) (w : World) (credential : Option Credential) :
    Command → String → Nat → TaskSpec → Prop
  | create {job : Job} {held : Option Lock} {p : Principal} {s : Sanitized} :
      authorize env w.nowMs w.live (.createJob job held) credential = .ok p →
      Sanitized.ofJob job = .ok s → s.isCron = false →
      w.live.checkLock job.key held = .ok () → w.live.hasJob job.key = false →
      Poised env w credential (.createJob job held) job.key.role job.instanceCount.toInt.toNat
        job.task
  | add {addition : Addition} {held : Option Lock} {p : Principal} {task : TaskSpec} :
      authorize env w.nowMs w.live (.addInstances addition held) credential = .ok p →
      addition.key.isValid = true → addition.instanceIds.isEmpty = false →
      addition.task.sanitize = .ok task → task.jobKey = addition.key →
      w.live.hasCronJob addition.key = false → w.live.checkLock addition.key held = .ok () →
      (w.live.activeInstances addition.key addition.instanceIds).isEmpty = true →
      Poised env w credential (.addInstances addition held) addition.key.role
        addition.instanceIds.size addition.task

/-- A launch that only the allotment can stand in the way of: it is made if
it is admitted, and it is refused for the allotment otherwise. -/
structure Pending (env : Environment) (w : World) (credential : Option Credential)
    (c : Command) (role : String) (ids : List Int32) (t : TaskSpec) : Prop
    extends w.live.GrowsBy role ids t where
  admitted : w.live.admitLaunch role (ids.map fun id => (id, t)) = .ok () →
    ∃ r : Response, r.code = .ok ∧ w.attempt env w.live (.command c credential) =
      .ok (w.launch env w.stamp (ids.map fun id => (id, t)), r)
  refused : ∀ refusal, w.live.admitLaunch role (ids.map fun id => (id, t)) = .error refusal →
    w.attempt env w.live (.command c credential) = .error (.fault (.quota refusal))

theorem Poised.pending (hs : w.live.Accepted) (h : Poised env w credential c role n t) :
    ∃ ids task, Pending env w credential c role ids task ∧ ids.length = n
      ∧ task.resources = t.resources ∧ task.isProduction = t.isProduction := by
  cases h with
  | @create job held p s hp hofJob hcron hlock habsent =>
      have hsanitize := Sanitized.sanitize_of_ofJob hofJob
      have htask := Job.ownTask_sanitize_of_sanitize hsanitize
      have hkey := Job.key_of_sanitize hsanitize
      have hlength : (instanceIds s.job.instanceCount).length = job.instanceCount.toInt.toNat := by
        rw [length_instanceIds, Job.instanceCount_of_sanitize hsanitize]
      have hresources : s.job.task.resources = job.task.resources :=
        (TaskSpec.resources_of_sanitize htask).trans rfl
      have hproduction : s.job.task.isProduction = job.task.isProduction :=
        (TaskSpec.isProduction_of_sanitize htask).trans rfl
      rw [← hkey] at hlock habsent ⊢
      refine ⟨_, _, ⟨Store.growsBy_of_hasJob hofJob habsent, fun hadmit => ?_,
        fun refusal hrefuse => ?_⟩, hlength, hresources, hproduction⟩
      · refine ⟨_, ?_, (attempt_of_authorized rfl hp).trans
          (createJob_eq_ok.mpr ⟨s, hofJob, hcron, hlock, habsent, hadmit, rfl, rfl⟩)⟩
        rfl
      · exact (attempt_of_authorized rfl hp).trans
          (createJob_eq_quota.mpr ⟨s, hofJob, hcron, hlock, habsent, hrefuse⟩)
  | @add addition held p task hp hkey hids htask hsame hcron hlock hidle =>
      refine ⟨_, _, ⟨Store.growsBy_of_hasCronJob hs hids htask hsame hcron,
        fun hadmit => ?_, fun refusal hrefuse => ?_⟩, Std.ExtTreeSet.length_toList,
        TaskSpec.resources_of_sanitize htask, TaskSpec.isProduction_of_sanitize htask⟩
      · refine ⟨_, ?_, (attempt_of_authorized rfl hp).trans
          (addInstances_eq_ok.mpr ⟨hkey, hids, task, htask, hsame, hcron, hlock, hidle, hadmit,
            rfl, rfl⟩)⟩
        rfl
      · exact (attempt_of_authorized rfl hp).trans
          (addInstances_eq_quota.mpr ⟨hkey, hids, task, htask, hsame, hcron, hlock, hidle,
            hrefuse⟩)

theorem dispatch_getQuota (hrole : Text.blank role = false) :
    (w.dispatch env (.view (.getQuota role))).2 = .found (.quota (w.live.quotaInfo role)) := by
  have hanswer : w.answer (.getQuota role) = .ok (.found (.quota (w.live.quotaInfo role))) :=
    if_neg (Bool.eq_false_iff.mp hrole)
  have hattempt : w.attempt env w.live (.view (.getQuota role)) =
      .ok (w, .found (.quota (w.live.quotaInfo role))) := by
    rw [attempt, hanswer]
    rfl
  exact (dispatch_of_done hattempt).1

/-- The need of the role after the launch. -/
theorem Reachable.need_launch {ids : List Int32} {m : Medium} (hw : w.Reachable env)
    (hfresh : env.Fresh (w.issued + ids.length)) (h : w.live.GrowsBy role ids t)
    (hproduction : t.isProduction = true) :
    (w.launch env w.stamp (ids.map fun id => (id, t))).live.need role m =
      w.live.need role m + ids.length * t.resources.megabytes m := by
  have hneed := (hw.launches h.nonempty hfresh w.stamp t).need_of_noTemplate (m := m) h.noTemplate
  rw [h.role_eq, if_pos hproduction, Store.length_waitingTasks, List.length_map] at hneed
  exact hneed

namespace Pending

variable {ids : List Int32} (h : Pending env w credential c role ids t)
  (hproduction : t.isProduction = true)
include h hproduction

/-- A launch within the allotment succeeds, and is reported. -/
theorem dispatch_of_fits (hw : w.Reachable env)
    (hfresh : env.Fresh (w.dispatch env (.command c credential)).1.issued)
    (hcpus : ¬w.live.projectedCpus role ids.length t > (w.live.allotment role).numCpus)
    (hfits : w.live.Fits role ids.length t) :
    (w.dispatch env (.command c credential)).2.code = .ok
      ∧ ∃ info, ((w.dispatch env (.command c credential)).1.dispatch env
          (.view (.getQuota role))).2 = .found (.quota info)
        ∧ ∀ m, info.production.megabytes m
          = w.live.need role m + ids.length * t.resources.megabytes m := by
  have hpos := TaskSpec.megabytes_pos_of_sanitize h.accepted
  have hadmit := (Store.admitLaunch_eq_ok hw.accepted.live hpos hproduction h.nonempty hcpus).mpr
    hfits
  obtain ⟨r, hcode, hattempt⟩ := h.admitted hadmit
  obtain ⟨hresponse, log, hafter⟩ := dispatch_of_done hattempt
  have hrole : Text.blank role = false := h.role_eq ▸ TaskSpec.role_of_sanitize h.accepted
  refine ⟨hresponse ▸ hcode, _, dispatch_getQuota hrole, fun m => ?_⟩
  have haccepted := (@Reachable.dispatch env w (.command c credential) hw).accepted.live
  have hissued : (w.dispatch env (.command c credential)).1.issued = w.issued + ids.length := by
    rw [hafter]
    exact @issued_launch env w w.stamp ids t
  have hneed := hw.need_launch (m := m) (hissued ▸ hfresh) h.toGrowsBy hproduction
  rw [Store.megabytes_production haccepted, hafter, hneed]
  exact Int.min_eq_left (Int.le_trans (hfits m) Resources.megabytes_le_largest)

/-- A launch beyond the allotment is refused, and nothing happens. -/
theorem dispatch_of_not_fits (hw : w.Reachable env)
    (hcpus : ¬w.live.projectedCpus role ids.length t > (w.live.allotment role).numCpus)
    (hfits : ¬w.live.Fits role ids.length t) :
    ∃ refusal : QuotaRefusal, w.dispatch env (.command c credential) =
      (w.record env (refusalEvent w.nowMs c.operation (.fault (.quota refusal))),
        (Refusal.fault (.quota refusal)).response) := by
  have hpos := TaskSpec.megabytes_pos_of_sanitize h.accepted
  cases hadmit : w.live.admitLaunch role (ids.map fun id => (id, t)) with
  | ok =>
      exact absurd ((Store.admitLaunch_eq_ok hw.accepted.live hpos hproduction h.nonempty
        hcpus).mp hadmit) hfits
  | error refusal => exact ⟨refusal, dispatch_of_refused (h.refused refusal hadmit)⟩

end Pending

/-- A description outside of production is not refused for the allotment,
whatever that is and whatever the role needs. -/
theorem attempt_ne_quota (hc : c.described? = some t) (hproduction : t.isProduction = false)
    (refusal : QuotaRefusal) :
    w.attempt env w.live (.command c credential) ≠ .error (.fault (.quota refusal)) := by
  intro h
  rcases attempt_command_eq_error h with ⟨denial, hdenied⟩ | hpre | ⟨p, -, hdone⟩
  · cases hdenied
  · cases c <;> cases hc <;> cases hpre
  · cases c with
    | createJob job held =>
        cases hc
        obtain ⟨s, hofJob, -, -, -, hrefused⟩ := createJob_eq_quota.mp hdone
        have htask := Job.ownTask_sanitize_of_sanitize (Sanitized.sanitize_of_ofJob hofJob)
        have hsame : s.job.task.isProduction = job.task.isProduction :=
          (TaskSpec.isProduction_of_sanitize htask).trans rfl
        rw [Sanitized.tasks, Store.admitLaunch_of_not_production (hsame.trans hproduction)]
          at hrefused
        cases hrefused
    | addInstances addition held =>
        cases hc
        obtain ⟨-, -, task, htask, -, -, -, -, hrefused⟩ := addInstances_eq_quota.mp hdone
        have hsame := TaskSpec.isProduction_of_sanitize htask
        rw [Store.admitLaunch_of_not_production (hsame.trans hproduction)] at hrefused
        cases hrefused
    | _ => cases hc

/-- A launch of so many tasks of a description is decided exactly: it is
answered as a success if the role then stays within its allotment, and the
view of consumption reports the sum; otherwise the allotment is given as
the reason, and one record is all that is made of it. -/
structure Exact (env : Environment) (w : World) (c : Command) (credential : Option Credential)
    (role : String) (n : Nat) (t : TaskSpec) : Prop where
  ok_iff : (w.dispatch env (.command c credential)).2.code = .ok ↔ w.live.Fits role n t
  reported : w.live.Fits role n t → ∃ info,
    ((w.dispatch env (.command c credential)).1.dispatch env (.view (.getQuota role))).2
        = .found (.quota info)
      ∧ ∀ m, info.production.megabytes m = w.live.need role m + n * t.resources.megabytes m
  refused : ¬w.live.Fits role n t → ∃ refusal : QuotaRefusal,
    w.dispatch env (.command c credential) =
      (w.record env (refusalEvent w.nowMs c.operation (.fault (.quota refusal))),
        (Refusal.fault (.quota refusal)).response)

/-- **Admission is exact.** If only the allotment can stand in the way of
a launch in production, and processors do not, it is decided by what the
role needs and what the new tasks need, in integers, of memory and of
disk. What is not production is never refused for the allotment. -/
theorem production_admitted (hw : w.Reachable env)
    (hfresh : env.Fresh (w.dispatch env (.command c credential)).1.issued) :
    (∀ role n t, Poised env w credential c role n t → t.isProduction = true →
      ¬w.live.projectedCpus role n t > (w.live.allotment role).numCpus →
      Exact env w c credential role n t)
      ∧ ∀ t, c.described? = some t → t.isProduction = false → ∀ refusal,
        w.attempt env w.live (.command c credential) ≠ .error (.fault (.quota refusal)) := by
  refine ⟨fun role n t hpoised hproduction hcpus => ?_,
    fun t hc hproduction => attempt_ne_quota hc hproduction⟩
  obtain ⟨ids, task, hpending, rfl, hresources, hsame⟩ := hpoised.pending hw.accepted.live
  have hcpus' : ¬w.live.projectedCpus role ids.length task > (w.live.allotment role).numCpus := by
    have hnumCpus : task.numCpus = t.numCpus := congrArg Resources.numCpus hresources
    rwa [Store.projectedCpus, hnumCpus]
  have hyes := hpending.dispatch_of_fits (hsame.trans hproduction) hw hfresh hcpus'
  have hno := hpending.dispatch_of_not_fits (hsame.trans hproduction) hw hcpus'
  rw [Store.Fits, hresources] at hyes hno
  refine ⟨⟨fun hok => ?_, fun hfits => (hyes hfits).1⟩, fun hfits => (hyes hfits).2, hno⟩
  by_contra hfits
  obtain ⟨refusal, hanswer⟩ := hno hfits
  rw [hanswer] at hok
  cases hok

/-! ## Up to the allotment -/

/-- There is an operator, and everyone else acts for one role. -/
def operated : Environment :=
  .plain fun key =>
    if key = "ops" then ⟨"ops", ∅, setOf [.root]⟩ else ⟨key, setOf ["www-data"], ∅⟩

def shopKey : JobKey := ⟨"www-data", "prod", "shop"⟩

/-- Alice's task in production, with what it needs of memory. -/
def shopTask (ramMb : Int64) : TaskSpec :=
  { (Job.plain shopKey "alice" 1).task with ramMb := ramMb, production := some true }

/-- The role is allotted 100 megabytes of memory, and Alice runs a task that
needs 64. -/
def allotted : World :=
  (start 0 0 ∅ .empty).run operated
    [.request (.command (.setQuota "www-data" ⟨8, 100, 1000⟩) (some (.apiKey "ops"))),
    .request (.command (.addInstances ⟨shopKey, shopTask 64, setOf [0]⟩ none)
      (some (.apiKey "alice")))]

theorem reachable_allotted : allotted.Reachable operated :=
  ⟨0, 0, ∅, _, fun _ _ => trivial, rfl⟩

/-- She asks for one more. -/
def oneMore (ramMb : Int64) : Command :=
  .addInstances ⟨shopKey, shopTask ramMb, setOf [1]⟩ none

theorem poised_oneMore {ramMb : Int64} (h : (shopTask ramMb).defect?.isNone = true) :
    Poised operated allotted (some (.apiKey "alice")) (oneMore ramMb) "www-data" 1
      (shopTask ramMb) := by
  have hsize : (setOf [(1 : Int32)]).size = 1 := by decide +kernel
  have hactsFor : Principal.actsFor ⟨"alice", setOf ["www-data"], ∅⟩ (setOf [shopKey.role])
      = true := by decide +kernel
  have hcron : allotted.live.hasCronJob shopKey = false := by decide +kernel
  have hlock : allotted.live.checkLock shopKey none = .ok () := by decide +kernel
  have hidle : (allotted.live.activeInstances shopKey (setOf [1])).isEmpty = true := by
    decide +kernel
  have htask := TaskSpec.sanitize_eq_ok.mpr ⟨Option.isNone_iff_eq_none.mp h, rfl⟩
  rw [← hsize]
  exact .add (authorize_eq_ok.mpr ⟨_, rfl, rfl, if_pos hactsFor⟩)
    (by decide +kernel : shopKey.isValid = true)
    (by decide +kernel : (setOf [(1 : Int32)]).isEmpty = false) htask rfl hcron hlock hidle

/-- She gets as much as is left of the allotment, and no more. -/
theorem production_admitted_up_to_allotment :
    (Exact operated allotted (oneMore 36) (some (.apiKey "alice")) "www-data" 1 (shopTask 36)
        ∧ allotted.live.Fits "www-data" 1 (shopTask 36))
      ∧ Exact operated allotted (oneMore 37) (some (.apiKey "alice")) "www-data" 1 (shopTask 37)
        ∧ ¬allotted.live.Fits "www-data" 1 (shopTask 37) := by
  have hneed : ∀ m, allotted.live.need "www-data" m = 64 := by
    refine Resources.forall_medium.mpr ⟨?_, ?_⟩ <;> decide +kernel
  have hmemory : (allotted.live.allotment "www-data").megabytes .memory = 100 := by
    decide +kernel
  have hdisk : (allotted.live.allotment "www-data").megabytes .disk = 1000 := by
    decide +kernel
  have hcpus : ¬allotted.live.projectedCpus "www-data" 1 (shopTask 0)
      > (allotted.live.allotment "www-data").numCpus := by decide +kernel
  have hexact : ∀ ramMb, (shopTask ramMb).defect?.isNone = true →
      (allotted.dispatch operated (.command (oneMore ramMb)
        (some (.apiKey "alice")))).1.issued < 2 ^ 62 →
      Exact operated allotted (oneMore ramMb) (some (.apiKey "alice")) "www-data" 1
        (shopTask ramMb) := fun ramMb hdefect hissued =>
    (production_admitted reachable_allotted (Environment.fresh_of_freshToken rfl hissued)).1 _ _ _
      (poised_oneMore hdefect) rfl hcpus
  refine ⟨⟨hexact 36 (by decide +kernel) (by decide +kernel), fun m => ?_⟩,
    hexact 37 (by decide +kernel) (by decide +kernel), fun h => ?_⟩
  · rw [hneed]
    cases m with
    | memory => rw [hmemory]; decide
    | disk => rw [hdisk]; decide
  · have hle := h .memory
    rw [hneed, hmemory] at hle
    revert hle
    decide

end World

end JobControl
