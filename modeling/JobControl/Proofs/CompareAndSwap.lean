import JobControl.Proofs.Acceptance
import JobControl.Proofs.RewriteBatches
import Mathlib

/-!
# Rewrites of templates lose no update

The template of a job is replaced if the command expects what is stored
there, and only then. What is compared is the job as a whole; that this
leaves no room for another job is not clear of itself, since amounts of
processors are doubles. But what is stored has been accepted, so that its
amount is a number above zero, and such a job compares as equal to itself
only.

Looking a template up goes through everything that a manager has, filing
it goes by the text of the key. The two meet because nothing is filed
under a name that is not its own, and because the key of an accepted job
can be read off its text.
-/

namespace JobControl

/-! ## Accepted descriptions -/

/-- A double above zero compares as equal to itself only. -/
theorem beq_iff_eq_of_pos {x y : Float} (hnan : x.isNaN = false) (hpos : ¬x ≤ 0) :
    (x == y) = true ↔ x = y := by
  rw [Float.isNaN_eq_decide_eq_nan, decide_eq_false_iff_not] at hnan
  rw [Float.beq_iff_ne_nan_and_eq]
  constructor
  · rintro ⟨-, -, rfl | ⟨rfl, -⟩ | ⟨rfl, -⟩⟩
    · rfl
    · exact absurd rfl hpos
    · exact absurd rfl hpos
  · rintro rfl
    exact ⟨hnan, hnan, Or.inl rfl⟩

theorem TaskSpec.numCpus_of_sanitize {a b : TaskSpec} (h : a.sanitize = .ok b) :
    b.numCpus.isNaN = false ∧ ¬b.numCpus ≤ 0 := by
  obtain ⟨hsound, rfl⟩ := sanitize_eq_ok.mp h
  simp only [defect?, ite_eq_none, Bool.or_eq_true, not_or, Bool.not_eq_true,
    decide_eq_true_eq] at hsound
  exact hsound.2.2.2.1

theorem TaskSpec.beq_iff_eq_of_sanitize {a b : TaskSpec} (ha : a.sanitize = .ok a) :
    (a == b) = true ↔ a = b := by
  obtain ⟨hnan, hpos⟩ := numCpus_of_sanitize ha
  have hcpus := @beq_iff_eq_of_pos a.numCpus b.numCpus hnan hpos
  cases a
  cases b
  change instBEqTaskSpec.beq _ _ = true ↔ _
  simp only [instBEqTaskSpec.beq, Bool.and_eq_true, beq_iff_eq, hcpus, TaskSpec.mk.injEq]

/-- An accepted job compares as equal to itself only. -/
theorem Job.beq_iff_eq_of_sanitize {a b : Job} (ha : a.sanitize = .ok a) :
    (a == b) = true ↔ a = b := by
  have htask := @TaskSpec.beq_iff_eq_of_sanitize a.task b.task (task_sanitize_of_sanitize ha)
  cases a
  cases b
  change instBEqJob.beq _ _ = true ↔ _
  simp only [instBEqJob.beq, Bool.and_eq_true, beq_iff_eq, htask, Job.mk.injEq]

namespace Store

variable {s s' : Store} {manager other : String} {key : JobKey} {job stored expected : Job}

/-! ## The only template of a job -/

/-- A manager has this template of a job, and no other manager has one. -/
def OnlyTemplate (s : Store) (manager : String) (key : JobKey) (stored : Job) : Prop :=
  s.job? manager key = some stored ∧ ∀ other, other ≠ manager → s.job? other key = none

theorem mem_managers_of_job? (h : s.job? manager key = some job) : manager ∈ s.managers := by
  have hmem := List.mem_of_find?_eq_some h
  rw [jobsOf] at hmem
  split at hmem
  · rename_i jobs hjobs
    rw [managers, Std.ExtTreeMap.mem_keys, Std.ExtTreeMap.mem_iff_isSome_getElem?, hjobs]
    rfl
  · cases hmem

theorem mem_templatesOf : (manager, job) ∈ s.templatesOf key ↔ s.job? manager key = some job := by
  simp only [templatesOf, List.mem_filterMap, Option.map_eq_some_iff, Prod.mk.injEq]
  constructor
  · rintro ⟨m, -, j, hj, rfl, rfl⟩
    exact hj
  · intro h
    exact ⟨manager, mem_managers_of_job? h, job, h, rfl, rfl⟩

theorem nodup_templatesOf : (s.templatesOf key).Nodup := by
  have hmanagers : s.managers.Nodup :=
    Std.ExtTreeMap.distinct_keys.imp fun h heq => h (by rw [heq, Std.compare_self])
  refine List.Pairwise.filterMap _ (fun m m' hne x hx x' hx' heq => hne ?_) hmanagers
  obtain ⟨j, -, rfl⟩ := Option.map_eq_some_iff.mp hx
  obtain ⟨j', -, rfl⟩ := Option.map_eq_some_iff.mp hx'
  exact (Prod.mk.inj heq).1

theorem templatesOf_eq_singleton :
    s.templatesOf key = [(manager, stored)] ↔ s.OnlyTemplate manager key stored := by
  constructor
  · intro h
    have hmem : ∀ m j, s.job? m key = some j ↔ m = manager ∧ j = stored := by
      intro m j
      rw [← mem_templatesOf, h, List.mem_singleton, Prod.mk.injEq]
    refine ⟨(hmem _ _).mpr ⟨rfl, rfl⟩, fun m hm => ?_⟩
    cases hj : s.job? m key with
    | none => rfl
    | some j => exact absurd ((hmem m j).mp hj).1 hm
  · rintro ⟨hstored, hothers⟩
    -- nothing is listed twice, so that the same members are the same list but for the order
    have hperm : (s.templatesOf key).Perm [(manager, stored)] := by
      refine (List.perm_ext_iff_of_nodup nodup_templatesOf (by simp)).mpr ?_
      rintro ⟨m, j⟩
      rw [mem_templatesOf, List.mem_singleton, Prod.mk.injEq]
      constructor
      · intro hj
        by_cases hm : m = manager
        · subst hm
          exact ⟨rfl, Option.some.inj (hj.symm.trans hstored)⟩
        · rw [hothers m hm] at hj
          cases hj
      · rintro ⟨rfl, rfl⟩
        exact hstored
    exact List.perm_singleton.mp hperm

/-! ## What a replacement leaves alone -/

/-- A manager has a new template of a job. All other templates, the tasks,
the locks and the allotments are those from before. -/
structure Replaces (s : Store) (manager : String) (job : Job) (s' : Store) : Prop where
  template : s'.job? manager job.key = some job
  others : ∀ other key, other ≠ manager ∨ key ≠ job.key → s'.job? other key = s.job? other key
  tasks : s'.tasks = s.tasks
  locks : s'.locks = s.locks
  quotas : s'.quotas = s.quotas

theorem replaces_saveJob (hs : s.Filed) (hvalid : job.key.isValid = true) :
    s.Replaces manager job (s.saveJob manager job) where
  template := by
    rw [hs.saveJob.job?_eq_some, filedJob?_saveJob]
    exact ⟨if_pos ⟨rfl, rfl⟩, rfl⟩
  others other key hne := by
    refine hs.job?_congr hs.saveJob ?_
    rw [filedJob?_saveJob, if_neg]
    rintro ⟨rfl, hname⟩
    have hkey := JobKey.eq_of_canonical_eq hvalid hname.symm
    exact hne.elim (fun h => h rfl) fun h => h hkey
  tasks := rfl
  locks := rfl
  quotas := rfl

/-- A template is replaced exactly if neither the key nor the owner is to
change and the only template of the job is the expected one. -/
theorem rewrite_job_eq_ok {replacement : Job} (hs : s.Accepted)
    (hjob : replacement.sanitize = .ok job) :
    s.rewrite (.job expected replacement) = .ok (.ok s') ↔ expected.key = job.key
      ∧ expected.owner = job.owner ∧ ∃ manager, s.OnlyTemplate manager job.key expected
      ∧ s' = s.saveJob manager job := by
  have hrewrite : s.rewrite (.job expected replacement) = .ok (s.replaceJob expected job) := by
    rw [rewrite.eq_def]
    simp only [hjob]
  rw [hrewrite, Except.ok.injEq, replaceJob_eq_ok]
  refine and_congr_right fun hkey => and_congr_right fun _ => exists_congr fun manager => ?_
  simp only [templatesOf_eq_singleton, hkey]
  constructor
  · rintro ⟨stored, honly, hsame, rfl⟩
    have haccepted := (hs.of_job? honly.1).2.1
    rw [Job.beq_iff_eq_of_sanitize haccepted] at hsame
    subst hsame
    exact ⟨honly, rfl⟩
  · rintro ⟨honly, rfl⟩
    have haccepted := (hs.of_job? honly.1).2.1
    exact ⟨expected, honly, (Job.beq_iff_eq_of_sanitize haccepted).mpr rfl, rfl⟩

end Store

namespace World

variable {env : Environment} {w w' : World} {p : Principal} {shown : Credential}
  {credential : Option Credential} {command : Rewrite} {r : Response} {expected job : Job}

/-! ## A command alone -/

theorem Answered.of_alone_ok {seen : Store}
    (h : Answered env seen w (.command (.rewriteConfigs [command]) credential) w' r)
    (hr : r.code = .ok) : ∃ store log, w.live.rewrite command = .ok (.ok store)
      ∧ w' = { w.commit store with events := log } := by
  cases h with
  | refused => exact absurd hr (Refusal.code_ne_ok _)
  | carried _ _ hdone =>
      obtain ⟨store, misses, hall, rfl, rfl⟩ :=
        (rewriteConfigs_eq_ok (List.cons_ne_nil _ _)).mp hdone
      rcases Store.rewriteAll_singleton_eq_ok.mp hall with ⟨hcommand, rfl⟩ | ⟨miss, -, -, rfl⟩
      · exact ⟨store, _, hcommand, rfl⟩
      · cases hr

theorem Answered.of_alone_not_ok {seen : Store}
    (h : Answered env seen w (.command (.rewriteConfigs [command]) credential) w' r)
    (hw : w.committed = w.live) (hr : r.code ≠ .ok) : ∃ log, w' = { w with events := log } := by
  cases h with
  | refused => exact ⟨_, rfl⟩
  | carried _ _ hdone =>
      obtain ⟨store, misses, hall, rfl, rfl⟩ :=
        (rewriteConfigs_eq_ok (List.cons_ne_nil _ _)).mp hdone
      rcases Store.rewriteAll_singleton_eq_ok.mp hall with ⟨-, rfl⟩ | ⟨miss, -, rfl, rfl⟩
      · exact absurd rfl hr
      · have hsame : w.commit w.live = w :=
          congrArg (fun committed => { w with committed := committed }) hw.symm
        obtain ⟨log, hlog⟩ := @foldl_record env (missEvents w.nowMs [miss]) w
        rw [hsame, hlog]
        exact ⟨_, rfl⟩

theorem alone_ok {store : Store} (hshown : env.recognise w.nowMs shown = .ok p)
    (hroot : Capability.root ∈ p.capabilities)
    (h : w.live.rewrite command = .ok (.ok store)) :
    (w.dispatch env (rewrites shown [command])).2.code = .ok := by
  have hall : w.live.rewriteAll [command] = .ok (store, []) :=
    Store.rewriteAll_singleton_eq_ok.mpr (Or.inl ⟨h, rfl⟩)
  rw [(dispatch_rewrites hshown hroot (List.cons_ne_nil _ _) hall).1]
  rfl

/-! ## Updates -/

/-- Who expects another template than the one that is stored is refused. -/
theorem Reachable.refused_of_stale {manager : String} {stale other : Job}
    (hw : w.Reachable env) (hjob : job.sanitize = .ok job)
    (hstored : w.live.job? manager job.key = some job) (hkey : stale.key = job.key)
    (hstale : stale ≠ job) :
    let late := w.dispatch env (.command (.rewriteConfigs [.job stale other]) credential)
    late.2.code ≠ .ok ∧ ∃ log, late.1 = { w with events := log } := by
  intro late
  have hrefused : late.2.code ≠ .ok := by
    intro hok
    obtain ⟨store, -, hreplaced, -⟩ := answered_dispatch.of_alone_ok hok
    cases Store.applied_of_rewrite hreplaced with
    | @job _ _ _ found _ m _ _ _ honly hsame =>
        have hmem := Store.mem_templatesOf.mpr hstored
        rw [← hkey, honly, List.mem_singleton] at hmem
        cases hmem
        exact hstale ((Job.beq_iff_eq_of_sanitize hjob).mp hsame).symm
  exact ⟨hrefused, answered_dispatch.of_alone_not_ok hw.committed_eq_live hrefused⟩

/-- **A template is replaced if it is what the command expects, and only
then**; nothing else changes, and if it is not replaced nothing at all.
From then on, and for as long as the new template stays, nobody replaces
it who expects another one. -/
theorem replaced_iff_expected {replacement : Job} (hw : w.Reachable env)
    (hshown : env.recognise w.nowMs shown = .ok p) (hroot : Capability.root ∈ p.capabilities)
    (hjob : replacement.sanitize = .ok job) :
    let done := w.dispatch env (rewrites shown [.job expected replacement])
    (done.2.code = .ok ↔ expected.key = job.key ∧ expected.owner = job.owner
        ∧ ∃ manager, w.live.OnlyTemplate manager job.key expected)
      ∧ (done.2.code ≠ .ok → ∃ log, done.1 = { w with events := log })
      ∧ (done.2.code = .ok → ∃ manager store log, w.live.OnlyTemplate manager job.key expected
        ∧ w.live.Replaces manager job store
        ∧ done.1 = { w.commit store with events := log }
        ∧ ∀ inputs, (∀ v request, (v, request) ∈ done.1.exchanges env inputs →
            (v.dispatch env request).1.live.job? manager job.key
              = v.live.job? manager job.key) →
          ∀ stale other credential, stale.key = job.key → stale ≠ job →
            let v := done.1.run env inputs
            let late := v.dispatch env (.command (.rewriteConfigs [.job stale other]) credential)
            late.2.code ≠ .ok ∧ ∃ log, late.1 = { v with events := log }) := by
  intro done
  have haccepted := hw.accepted.live
  refine ⟨⟨fun hok => ?_, ?_⟩, ?_, fun hok => ?_⟩
  · obtain ⟨store, -, hreplaced, -⟩ := answered_dispatch.of_alone_ok hok
    obtain ⟨hkey, howner, manager, honly, -⟩ :=
      (Store.rewrite_job_eq_ok haccepted hjob).mp hreplaced
    exact ⟨hkey, howner, manager, honly⟩
  · rintro ⟨hkey, howner, manager, honly⟩
    exact alone_ok hshown hroot
      ((Store.rewrite_job_eq_ok haccepted hjob).mpr ⟨hkey, howner, manager, honly, rfl⟩)
  · exact answered_dispatch.of_alone_not_ok hw.committed_eq_live
  · -- what every step of the run has to keep is the template alone
    obtain ⟨store, log, hreplaced, hafter⟩ := answered_dispatch.of_alone_ok hok
    obtain ⟨-, -, manager, honly, rfl⟩ := (Store.rewrite_job_eq_ok haccepted hjob).mp hreplaced
    have hreplaces : w.live.Replaces manager job (w.live.saveJob manager job) :=
      Store.replaces_saveJob hw.filed.live (Job.key_isValid_of_sanitize hjob)
    refine ⟨manager, _, log, honly, hreplaces, hafter, ?_⟩
    intro inputs hkept stale other credential hkey hstale
    have hstored : (done.1.run env inputs).live.job? manager job.key = some job := by
      refine run_keeps (I := fun v => v.live.job? manager job.key = some job)
        (fun _ _ hv => hv) (fun v request hmem hv => (hkept v request hmem).trans hv) ?_
      change done.1 = _ at hafter
      rw [hafter]
      exact hreplaces.template
    have hreached : (done.1.run env inputs).Reachable env :=
      hw.dispatch.run fun _ _ => trivial
    exact hreached.refused_of_stale (Job.sanitize_of_sanitize hjob) hstored hkey hstale

/-! ## A nightly report -/

/-- A report that is made every night. -/
def report : Job :=
  let job := Job.plain ⟨"www-data", "prod", "report"⟩ "root" 1
  { job with cronSchedule := some "0 3 * * *", task := job.task.populated }

/-- It is made twice. -/
def reportTwice : Job := { report with instanceCount := 2 }

/-- It has been filed. -/
def reportFiled : World :=
  (start 0 0 ∅ .empty).run rootOnly
    [.request (.command (.scheduleCronJob report none) (some (.apiKey "root")))]

/-- It is to be made twice from now on, if it is made once. -/
def makeTwice : Request := rewrites (.apiKey "root") [.job report reportTwice]

/-- What is done once is not done again a minute later. -/
theorem replaced_iff_expected_makeTwice :
    let done := reportFiled.dispatch rootOnly makeTwice
    let late := (done.1.run rootOnly [.pause 60000]).dispatch rootOnly makeTwice
    reportFiled.Reachable rootOnly
      ∧ rootOnly.recognise reportFiled.nowMs (.apiKey "root")
        = .ok ⟨"root", setOf ["www-data"], setOf [.root]⟩
      ∧ Capability.root ∈ (setOf [.root] : Capabilities)
      ∧ reportTwice.sanitize = .ok reportTwice ∧ done.2.code = .ok
      ∧ (∃ manager, reportFiled.live.OnlyTemplate manager report.key report
        ∧ reportFiled.live.Replaces manager reportTwice done.1.live)
      ∧ late.2.code ≠ .ok := by
  intro done late
  have hreached : reportFiled.Reachable rootOnly := ⟨0, 0, ∅, _, fun _ _ => trivial, rfl⟩
  have hshown : rootOnly.recognise reportFiled.nowMs (.apiKey "root")
      = .ok ⟨"root", setOf ["www-data"], setOf [.root]⟩ := rfl
  have hroot : Capability.root ∈ (setOf [.root] : Capabilities) := by decide +kernel
  have hjob : reportTwice.sanitize = .ok reportTwice := rfl
  have hok : done.2.code = .ok := by decide +kernel
  obtain ⟨-, -, happlied⟩ := @replaced_iff_expected rootOnly reportFiled _ _ report _ _ hreached
    hshown hroot hjob
  obtain ⟨manager, store, log, honly, hreplaces, hafter, hlate⟩ := happlied hok
  change done.1 = _ at hafter
  refine ⟨hreached, hshown, hroot, hjob, hok, ⟨manager, honly, ?_⟩, ?_⟩
  · rw [hafter]
    exact hreplaces
  · refine (hlate [.pause 60000] (fun _ _ hmem => by cases hmem) report reportTwice _ rfl ?_).1
    intro heq
    have hcount := congrArg Job.instanceCount heq
    revert hcount
    decide

end World

end JobControl
