import JobControl.Proofs.Allotments
import JobControl.Proofs.NewTasks

/-!
# Runs of templates

Who starts a cron job launches what its template says, once for each of its
instances, and nothing else. The tasks are counted one by one from then on,
where the template was counted as a whole before. Both sums stay at the end
of the range if they come to it, and they come to the same: no amount is
negative, so that it makes no difference in which order and in which parts
it is added up. Processors are added up as doubles, of which this does not
hold.
-/

namespace JobControl

namespace World

variable {env : Environment} {w w' : World} {key : JobKey} {credential : Option Credential}
  {role : String}

/-! ## What a role is told -/

/-- Two answers to who asks what a role consumes, by which the role has the
same allotment and consumes as much, in memory and on disk, in production and
outside of it. A role that is blank is refused alike. -/
def ToldAlike (role : String) (r r' : Response) : Prop :=
  (Text.blank role = true ∧ r' = r)
    ∨ ∃ info info', r = .found (.quota info) ∧ r' = .found (.quota info')
      ∧ info'.quota = info.quota
      ∧ ∀ m, info'.production.megabytes m = info.production.megabytes m
        ∧ info'.nonProduction.megabytes m = info.nonProduction.megabytes m

theorem dispatch_getQuota_of_blank (hblank : Text.blank role = true) :
    (w.dispatch env (.view (.getQuota role))).2 = (Refusal.malformed .roleUnset).response := by
  have hanswer : w.answer (.getQuota role) = .error (.malformed .roleUnset) := if_pos hblank
  have hattempt : w.attempt env w.live (.view (.getQuota role)) =
      .error (.malformed .roleUnset) := by
    rw [attempt, hanswer]
    rfl
  rw [dispatch_of_refused hattempt]

theorem toldAlike_of_demand (hs : w.live.Accepted) (hs' : w'.live.Accepted)
    (hquota : w'.live.quota? role = w.live.quota? role)
    (hdemand : ∀ p m, Store.demand p m (w'.live.consumers role) =
      Store.demand p m (w.live.consumers role)) :
    ToldAlike role (w.dispatch env (.view (.getQuota role))).2
      (w'.dispatch env (.view (.getQuota role))).2 := by
  cases hblank : Text.blank role with
  | true =>
      rw [dispatch_getQuota_of_blank hblank, dispatch_getQuota_of_blank hblank]
      exact Or.inl ⟨hblank, rfl⟩
  | false =>
      refine Or.inr ⟨_, _, dispatch_getQuota hblank, dispatch_getQuota hblank, ?_,
        fun m => ⟨?_, ?_⟩⟩
      · rw [Store.quotaInfo, hquota]
        rfl
      · rw [Store.megabytes_production hs', Store.megabytes_production hs, Store.need_eq,
          Store.need_eq, hdemand]
      · rw [Store.megabytes_nonProduction hs', Store.megabytes_nonProduction hs, hdemand]

/-! ## A run -/

section Run

variable (hw : w.Reachable env)
  (hok : (w.dispatch env (.command (.startCronJob key) credential)).2.code = .ok)
  (hfresh : env.Fresh (w.dispatch env (.command (.startCronJob key) credential)).1.issued)
include hw hok hfresh

theorem launched_of_startCronJob : ∃ (template : Job) (count : Nat),
    w.live.cronJob? key = some template
      ∧ template.instanceCount.toInt = count ∧ template.task.jobKey = key
      ∧ w.Launched template.task (fun i => 0 ≤ i.toInt ∧ i.toInt < count) count
        (w.dispatch env (.command (.startCronJob key) credential)).1 := by
  have hs := hw.accepted.live
  obtain ⟨w₁, log, hattempt, hafter⟩ := attempt_of_ok hok
  obtain ⟨-, p, -, hdone⟩ := attempt_command_eq_ok.mp hattempt
  obtain ⟨template, htemplate, haccepted, -, rfl⟩ := launch_of_startCronJob hs hdone
  have hkey : template.key = key := (hs.of_job? htemplate).2.2
  have hlength : template.instanceCount.toInt = (instanceIds template.instanceCount).length := by
    have hpos := Job.instanceCount_pos_of_sanitize haccepted
    rw [length_instanceIds]
    omega
  refine ⟨template, _, htemplate, hlength, (Job.taskKey_of_sanitize haccepted).trans hkey,
    hw.launched (Job.instanceIds_ne_nil_of_sanitize haccepted) (nodup_instanceIds _)
      (fun i => ?_) hafter hfresh⟩
  rw [mem_instanceIds, ← hlength]

theorem toldAlike_of_startCronJob (role : String) :
    ToldAlike role (w.dispatch env (.view (.getQuota role))).2
      ((w.dispatch env (.command (.startCronJob key) credential)).1.dispatch env
        (.view (.getQuota role))).2 := by
  have hs := hw.accepted.live
  have hreached : (w.dispatch env (.command (.startCronJob key) credential)).1.Reachable env :=
    hw.dispatch
  have hs' := hreached.accepted.live
  obtain ⟨w₁, log, hattempt, hafter⟩ := attempt_of_ok hok
  obtain ⟨-, p, -, hdone⟩ := attempt_command_eq_ok.mp hattempt
  rw [hafter] at hfresh hs' ⊢
  refine toldAlike_of_demand hs hs' ?_ fun p m => ?_
  · obtain ⟨template, -, -, -, rfl⟩ := launch_of_startCronJob hs hdone
    rfl
  · show Store.demand p m (w₁.live.consumers role) = _
    exact demand_of_startCronJob hw hfresh hdone

end Run

/-- **A run takes the place of its template.** The store gains a task for
each instance of the template, which waits to run the template's task, and
nothing else changes; and whatever role one asks for consumes what it did
before. -/
theorem run_in_place_of_template (hw : w.Reachable env) (key : JobKey)
    (credential : Option Credential) :
    let done := w.dispatch env (.command (.startCronJob key) credential)
    done.2.code = .ok → env.Fresh done.1.issued →
    ∃ (template : Job) (count : Nat), w.live.cronJob? key = some template
      ∧ template.instanceCount.toInt = count ∧ template.task.jobKey = key
      ∧ w.Launched template.task (fun i => 0 ≤ i.toInt ∧ i.toInt < count) count done.1
      ∧ ∀ role, ToldAlike role (w.dispatch env (.view (.getQuota role))).2
          (done.1.dispatch env (.view (.getQuota role))).2 := by
  intro done hok hfresh
  obtain ⟨template, count, htemplate, hcount, hkey, hlaunched⟩ :=
    launched_of_startCronJob hw hok hfresh
  exact ⟨template, count, htemplate, hcount, hkey, hlaunched,
    toldAlike_of_startCronJob hw hok hfresh⟩

/-- Three reports at midnight. -/
def midnightReports : Job :=
  { Job.plain ⟨"www-data", "prod", "report"⟩ "alice" 3 with cronSchedule := some "0 0 * * *" }

/-- There is a template of the reports, and there are web servers. -/
def reportsPlanned : World :=
  (start 0 0 ∅ .empty).run rootOnly
    ([.scheduleCronJob midnightReports none,
      .createJob (.plain ⟨"www-data", "prod", "web"⟩ "alice" 1) none].map
        fun c => .request (.command c (some (.apiKey "root"))))

/-- The reports are run at once. -/
def reportsRun : World × Response :=
  reportsPlanned.dispatch rootOnly
    (.command (.startCronJob midnightReports.key) (some (.apiKey "root")))

/-- Three tasks are launched beside the web server, and the role goes on to
consume what four tasks of 64 megabytes need. -/
theorem run_in_place_of_template_at_once :
    reportsPlanned.Reachable rootOnly ∧ reportsRun.2.code = .ok
      ∧ reportsRun.1.live.tasks.size = reportsPlanned.live.tasks.size + 3
      ∧ (reportsPlanned.live.quotaInfo "www-data").nonProduction.megabytes .memory = 256
      ∧ ∃ info, (reportsRun.1.dispatch rootOnly (.view (.getQuota "www-data"))).2
          = .found (.quota info) ∧ info.nonProduction.megabytes .memory = 256 := by
  have hreached : reportsPlanned.Reachable rootOnly := ⟨0, 0, ∅, _, fun _ _ => trivial, rfl⟩
  obtain ⟨hok, hissued, hthree, hbefore⟩ : reportsRun.2.code = .ok ∧ reportsRun.1.issued = 4
      ∧ (reportsPlanned.live.cronJob? midnightReports.key).map (·.instanceCount) = some 3
      ∧ (reportsPlanned.live.quotaInfo "www-data").nonProduction.megabytes .memory = 256 := by
    decide +kernel
  have hfresh : rootOnly.Fresh reportsRun.1.issued := by
    rw [hissued]
    exact Environment.fresh_of_freshToken rfl (by decide)
  have hrun := run_in_place_of_template hreached midnightReports.key (some (.apiKey "root"))
  dsimp only at hrun
  rw [← reportsRun] at hrun
  obtain ⟨template, count, htemplate, hcount, -, ⟨store, log, hgains, hafter⟩, htold⟩ :=
    hrun hok hfresh
  rw [htemplate, Option.map_some, Option.some.injEq] at hthree
  rw [hthree] at hcount
  obtain rfl : 3 = count := Int.ofNat_inj.mp hcount
  have hnamed : Text.blank "www-data" = false := by decide +kernel
  have hquota : (reportsPlanned.dispatch rootOnly (.view (.getQuota "www-data"))).2
      = .found (.quota (reportsPlanned.live.quotaInfo "www-data")) :=
    dispatch_getQuota hnamed
  refine ⟨hreached, hok, ?_, hbefore, ?_⟩
  · rw [hafter]
    exact hgains.size
  · rcases htold "www-data" with ⟨hblank, -⟩ | ⟨info, info', hinfo, hinfo', -, hmegabytes⟩
    · rw [hnamed] at hblank
      cases hblank
    · rw [hquota] at hinfo
      cases hinfo
      exact ⟨info', hinfo', (hmegabytes .memory).2.trans hbefore⟩

end World

end JobControl
