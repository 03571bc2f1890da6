import JobControl.Proofs.Mediation

/-!
# A batch is its commands in order, or nothing

Whether a batch of rewrite commands is undone hangs on the commands alone:
it is if one of them brings a replacement that is not well described,
wherever it stands and whatever the store holds. Otherwise the batch does
what its commands do that are submitted alone one after the other. Each of
them meets the store as those before it left it, so that commands for the
same job or instance see each other here and there; and a command that
misses leaves the store as it is, here and there.

What a batch reports are the messages of the commands that missed, in
order. It has missed none exactly if every command alone is a success.
-/

namespace JobControl

namespace Rewrite

/-- The fault that a defect is reported as, if there is one. -/
def faultOf {α : Type} (cause : Defect → Fault) : Except Defect α → Option Fault
  | .ok _ => none
  | .error defect => some (cause defect)

/-- What is wrong with the replacement that a command brings. -/
def fault? : Rewrite → Option Fault
  | .job _ replacement => faultOf .jobReplacement replacement.sanitize
  | .task _ _ replacement => faultOf .taskReplacement replacement.sanitize

theorem faultOf_eq_some {α : Type} {cause : Defect → Fault} {x : Except Defect α} {f : Fault} :
    faultOf cause x = some f ↔ ∃ defect, x = .error defect ∧ f = cause defect := by
  cases x <;> simp [faultOf, eq_comm]

theorem kind_of_fault? {command : Rewrite} {f : Fault} (h : command.fault? = some f) :
    f.kind = .internal := by
  cases command with
  | job | task =>
      obtain ⟨defect, -, rfl⟩ := faultOf_eq_some.mp h
      rfl

end Rewrite

namespace Store

variable {s s' : Store} {command : Rewrite} {commands more : List Rewrite}
  {misses : List RewriteMiss} {f : Fault}

theorem rewrite_eq_error : s.rewrite command = .error f ↔ command.fault? = some f := by
  cases command with
  | job _ replacement | task _ _ replacement =>
      rw [Rewrite.fault?, Rewrite.faultOf_eq_some, rewrite.eq_def]
      dsimp only
      cases replacement.sanitize <;> simp [@eq_comm _ f]

/-- A batch is undone because of the first replacement with a fault,
whatever the commands before it have met with. -/
theorem rewriteAll_eq_error : ∀ {commands : List Rewrite} {s : Store},
    s.rewriteAll commands = .error f ↔ commands.findSome? Rewrite.fault? = some f
  | [], s => by simp [rewriteAll]
  | command :: commands, s => by
      rw [rewriteAll, List.findSome?_cons]
      cases hf : command.fault? with
      | some fault =>
          rw [rewrite_eq_error.mpr hf]
          simp [bind, Except.bind]
      | none =>
          cases hcommand : s.rewrite command with
          | error fault =>
              rw [rewrite_eq_error, hf] at hcommand
              cases hcommand
          | ok outcome =>
              -- the fault of a later command does not depend on the store it meets
              cases outcome with
              | ok mid => exact rewriteAll_eq_error
              | error miss =>
                  show (s.rewriteAll commands >>= fun _ => _) = _ ↔ _
                  rw [bind_eq_error, rewriteAll_eq_error]
                  simp

theorem rewriteAll_append : ∀ {commands : List Rewrite} {s : Store},
    s.rewriteAll (commands ++ more) = do
      let (mid, misses) ← s.rewriteAll commands
      let (s', misses') ← mid.rewriteAll more
      return (s', misses ++ misses')
  | [], s => by
      show s.rewriteAll more = s.rewriteAll more >>= fun done => pure (done.1, [] ++ done.2)
      cases s.rewriteAll more <;> rfl
  | command :: commands, s => by
      rw [List.cons_append, rewriteAll, rewriteAll]
      cases s.rewrite command with
      | error fault => rfl
      | ok outcome =>
          cases outcome with
          | ok mid => exact rewriteAll_append
          | error miss =>
              show s.rewriteAll (commands ++ more) >>= _ = s.rewriteAll commands >>= _ >>= _
              rw [rewriteAll_append]
              cases s.rewriteAll commands with
              | error fault => rfl
              | ok first =>
                  show (first.1.rewriteAll more >>= _) >>= _ = first.1.rewriteAll more >>= _
                  cases first.1.rewriteAll more <;> rfl

theorem rewriteAll_cons_eq_ok : s.rewriteAll (command :: commands) = .ok (s', misses) ↔
    ∃ mid first rest, s.rewriteAll [command] = .ok (mid, first)
      ∧ mid.rewriteAll commands = .ok (s', rest) ∧ misses = first ++ rest := by
  rw [← List.singleton_append, rewriteAll_append]
  simp only [bind_eq_ok, pure_eq_ok, Prod.exists, Prod.mk.injEq, exists_and_left]
  constructor
  · rintro ⟨mid, first, hfirst, _, rest, hrest, rfl, rfl⟩
    exact ⟨mid, first, hfirst, rest, hrest, rfl⟩
  · rintro ⟨mid, first, hfirst, rest, hrest, rfl⟩
    exact ⟨mid, first, hfirst, s', rest, hrest, rfl, rfl⟩

/-- A command alone is carried out, or it misses and leaves the store. -/
theorem rewriteAll_singleton_eq_ok : s.rewriteAll [command] = .ok (s', misses) ↔
    s.rewrite command = .ok (.ok s') ∧ misses = []
      ∨ ∃ miss, s.rewrite command = .ok (.error miss) ∧ s' = s ∧ misses = [miss] := by
  constructor
  · intro h
    rw [rewriteAll] at h
    obtain ⟨outcome, hcommand, h⟩ := bind_eq_ok.mp h
    cases outcome with
    | ok mid =>
        cases h
        exact Or.inl ⟨hcommand, rfl⟩
    | error miss =>
        cases h
        exact Or.inr ⟨miss, hcommand, rfl, rfl⟩
  · rintro (⟨hcommand, rfl⟩ | ⟨miss, hcommand, rfl, rfl⟩)
    · rw [rewriteAll, hcommand]
      rfl
    · rw [rewriteAll, hcommand]
      rfl

end Store

namespace World

variable {env : Environment} {w v : World} {p : Principal} {shown : Credential}
  {command : Rewrite} {commands : List Rewrite} {store : Store} {misses : List RewriteMiss}

/-- A batch that someone submits. -/
def rewrites (shown : Credential) (commands : List Rewrite) : Request :=
  .command (.rewriteConfigs commands) (some shown)

/-- What a batch is answered of which some commands missed. -/
def rewriteAnswer (misses : List RewriteMiss) : Response :=
  if misses = [] then .done "All rewrites completed successfully." []
  else .failed .warning (joined ", " (misses.map RewriteMiss.message))

/-! ## Batches of root -/

theorem attempt_rewrites (hshown : env.recognise w.nowMs shown = .ok p)
    (hroot : Capability.root ∈ p.capabilities) :
    w.attempt env w.live (rewrites shown commands) = w.rewriteConfigs env commands :=
  attempt_of_root hshown hroot rfl rfl

/-- A batch with a replacement that is not well described fails, and leaves
a record only. -/
theorem dispatch_rewrites_of_fault {f : Fault} (hshown : env.recognise w.nowMs shown = .ok p)
    (hroot : Capability.root ∈ p.capabilities) (hne : commands ≠ [])
    (h : commands.findSome? Rewrite.fault? = some f) :
    (w.dispatch env (rewrites shown commands)).2 = (Refusal.fault f).response
      ∧ ∃ log, (w.dispatch env (rewrites shown commands)).1 = { w with events := log } := by
  have hrefused : w.attempt env w.live (rewrites shown commands) = .error (.fault f) := by
    rw [attempt_rewrites hshown hroot, rewriteConfigs]
    have hempty : commands.isEmpty = false := by simpa using hne
    rw [hempty, Store.rewriteAll_eq_error.mpr h]
    rfl
  rw [dispatch_of_refused hrefused]
  exact ⟨rfl, _, rfl⟩

/-- Any other batch leaves the store that its commands leave. -/
theorem dispatch_rewrites (hshown : env.recognise w.nowMs shown = .ok p)
    (hroot : Capability.root ∈ p.capabilities) (hne : commands ≠ [])
    (h : w.live.rewriteAll commands = .ok (store, misses)) :
    (w.dispatch env (rewrites shown commands)).2 = rewriteAnswer misses
      ∧ ∃ log, (w.dispatch env (rewrites shown commands)).1
        = { w.commit store with events := log } := by
  obtain ⟨log, hlog⟩ := @foldl_record env (missEvents w.nowMs misses) (w.commit store)
  have hdone : w.attempt env w.live (rewrites shown commands)
      = .ok ({ w.commit store with events := log }, rewriteAnswer misses) := by
    rw [attempt_rewrites hshown hroot, rewriteConfigs_eq_ok hne]
    exact ⟨store, misses, h, hlog.symm, rfl⟩
  obtain ⟨hanswer, log', hafter⟩ := dispatch_of_done hdone
  exact ⟨hanswer, log', hafter⟩

/-! ## One after the other -/

/-- What a run answers, in order. -/
def answers (env : Environment) (w : World) (inputs : List Input) : List Response :=
  (w.exchanges env inputs).map fun exchange => (exchange.1.dispatch env exchange.2).2

/-- The messages of the answers that are no success. -/
def failures (answers : List Response) : List String :=
  (answers.filter (·.code != .ok)).filterMap Response.message

/-- Each command submitted as a batch of its own. -/
def alone (shown : Credential) (commands : List Rewrite) : List Input :=
  commands.map fun command => .request (rewrites shown [command])

theorem failures_cons {r : Response} {answers : List Response} :
    failures (r :: answers) = failures [r] ++ failures answers := by
  rw [← List.singleton_append]
  simp only [failures, List.filter_append, List.filterMap_append]

theorem failures_rewriteAnswer (h : v.live.rewriteAll [command] = .ok (store, misses)) :
    failures [rewriteAnswer misses] = misses.map RewriteMiss.message := by
  rcases Store.rewriteAll_singleton_eq_ok.mp h with ⟨-, rfl⟩ | ⟨miss, -, -, rfl⟩
  · rfl
  · simp [failures, rewriteAnswer, Response.failed, joined, String.intercalate_singleton]

theorem code_rewriteAnswer :
    (rewriteAnswer misses).code = if misses = [] then .ok else .warning := by
  rw [rewriteAnswer]
  split <;> rfl

/-- Commands one after the other leave the store that they leave as a
batch; what each of them missed is together what the batch missed. -/
theorem run_alone (hroot : Capability.root ∈ p.capabilities) :
    ∀ {commands : List Rewrite} {v : World} {misses : List RewriteMiss},
      env.recognise v.nowMs shown = .ok p → (commands = [] → v.committed = v.live) →
      v.live.rewriteAll commands = .ok (store, misses) →
      (∃ log, v.run env (alone shown commands) = { v.commit store with events := log })
        ∧ failures (answers env v (alone shown commands)) = misses.map RewriteMiss.message
        ∧ (misses = [] ↔ ∀ r ∈ answers env v (alone shown commands), r.code = .ok)
  | [], v, misses, _, hcommitted, h => by
      -- no batch is submitted, so that nothing is committed anew
      cases h
      have hsame : v = v.commit v.live :=
        congrArg (fun committed => { v with committed := committed }) (hcommitted rfl)
      refine ⟨⟨v.events, hsame⟩, rfl, fun _ r hr => ?_, fun _ => rfl⟩
      cases hr
  | command :: commands, v, misses, hshown, _, h => by
      obtain ⟨mid, first, rest, hfirst, hrest, rfl⟩ := Store.rewriteAll_cons_eq_ok.mp h
      obtain ⟨hanswer, log, hafter⟩ :=
        dispatch_rewrites hshown hroot (List.cons_ne_nil _ _) hfirst
      have hanswers : answers env v (alone shown (command :: commands)) = rewriteAnswer first
          :: answers env { v.commit mid with events := log } (alone shown commands) := by
        rw [← hanswer, ← hafter]
        rfl
      obtain ⟨⟨log', hrun⟩, hfailures, hnone⟩ := @run_alone hroot commands
        { v.commit mid with events := log } rest hshown (fun _ => rfl) hrest
      refine ⟨⟨log', ?_⟩, ?_, ?_⟩
      · show ((v.dispatch env _).1).run env (alone shown commands) = _
        rw [hafter, hrun]
        rfl
      · rw [hanswers, failures_cons, hfailures, List.map_append,
          failures_rewriteAnswer hfirst]
      · rw [hanswers, List.forall_mem_cons, ← hnone, List.append_eq_nil_iff, code_rewriteAnswer]
        simp

/-- **A batch of root is the sequence of its commands, or nothing.** If a
replacement in it is not well described it fails and changes nothing.
Otherwise it leaves what its commands leave that are submitted alone one
after the other; it is a success if they all are, and if not it reports
their failures. -/
theorem rewrites_sequential (hshown : env.recognise w.nowMs shown = .ok p)
    (hroot : Capability.root ∈ p.capabilities) (hne : commands ≠ []) :
    let batch := w.dispatch env (rewrites shown commands)
    let each := answers env w (alone shown commands)
    ((∃ command ∈ commands, command.fault?.isSome = true) →
      batch.2.code = .error ∧ ∃ log, batch.1 = { w with events := log })
    ∧ ((∀ command ∈ commands, command.fault? = none) →
      (∃ log, batch.1 = { w.run env (alone shown commands) with events := log })
      ∧ ((∀ r ∈ each, r.code = .ok) → batch.2.code = .ok)
      ∧ ((∃ r ∈ each, r.code ≠ .ok) →
        batch.2.code = .warning ∧ batch.2.message = some (joined ", " (failures each)))) := by
  intro batch each
  constructor
  · rintro ⟨command, hmem, hfault⟩
    have hsome := List.findSome?_isSome_iff.mpr ⟨command, hmem, hfault⟩
    obtain ⟨f, hf⟩ := Option.isSome_iff_exists.mp hsome
    obtain ⟨hanswer, hafter⟩ := dispatch_rewrites_of_fault (w := w) hshown hroot hne hf
    obtain ⟨first, -, hfirst⟩ := List.exists_of_findSome?_eq_some hf
    refine ⟨?_, hafter⟩
    show (w.dispatch env _).2.code = _
    rw [hanswer]
    show f.kind.code = _
    rw [Rewrite.kind_of_fault? hfirst]
    rfl
  · intro hsound
    have hnone : commands.findSome? Rewrite.fault? = none := List.findSome?_eq_none_iff.mpr hsound
    cases hall : w.live.rewriteAll commands with
    | error f =>
        rw [Store.rewriteAll_eq_error, hnone] at hall
        cases hall
    | ok done =>
        obtain ⟨store, misses⟩ := done
        obtain ⟨hanswer, log, hafter⟩ := dispatch_rewrites hshown hroot hne hall
        obtain ⟨⟨log', hrun⟩, hfailures, hok⟩ :=
          run_alone hroot hshown (fun h => absurd h hne) hall
        refine ⟨⟨log, ?_⟩, fun heach => ?_, fun heach => ?_⟩
        · rw [hrun]
          exact hafter
        · show (w.dispatch env _).2.code = _
          rw [hanswer, code_rewriteAnswer, if_pos (hok.mpr heach)]
        · have hmissed : misses ≠ [] := by
            rintro rfl
            obtain ⟨r, hr, hcode⟩ := heach
            exact hcode (hok.mp rfl r hr)
          show (w.dispatch env _).2.code = _ ∧ (w.dispatch env _).2.message = _
          rw [hanswer, hfailures, rewriteAnswer, if_neg hmissed]
          exact ⟨rfl, rfl⟩

/-! ## A batch that meets itself -/

/-- What the web servers run. -/
def webTask : TaskSpec := (Job.plain ⟨"www-data", "prod", "web"⟩ "root" 1).task.populated

/-- The same, before others. -/
def urgentTask : TaskSpec := { webTask with priority := some 1 }

/-- There is one web server. -/
def oneWebServer : World :=
  (start 0 0 ∅ .empty).run rootOnly
    [.request (.command (.createJob (.plain ⟨"www-data", "prod", "web"⟩ "root" 1) none)
      (some (.apiKey "root")))]

/-- It is made urgent, once more, which misses, and not urgent again. -/
def urgentAndBack : List Rewrite :=
  let server : InstanceKey := ⟨⟨"www-data", "prod", "web"⟩, 0⟩
  [.task server webTask urgentTask, .task server webTask urgentTask,
    .task server urgentTask webTask]

theorem rewrites_sequential_urgentAndBack :
    let key := Credential.apiKey "root"
    let batch := oneWebServer.dispatch rootOnly (rewrites key urgentAndBack)
    let each := answers rootOnly oneWebServer (alone key urgentAndBack)
    rootOnly.recognise oneWebServer.nowMs key
        = .ok ⟨"root", setOf ["www-data"], setOf [.root]⟩
      ∧ Capability.root ∈ (setOf [.root] : Capabilities) ∧ urgentAndBack ≠ []
      ∧ each.map Response.code = [.ok, .warning, .ok]
      ∧ (∃ log, batch.1
        = { oneWebServer.run rootOnly (alone key urgentAndBack) with events := log })
      ∧ batch.2.code = .warning
      ∧ batch.2.message = some "CAS compare failed for www-data/prod/web/0" := by
  intro key batch each
  have hcodes : each.map Response.code = [.ok, .warning, .ok] := by decide +kernel
  have hfailures : failures each = ["CAS compare failed for www-data/prod/web/0"] := by
    decide +kernel
  have hroot : Capability.root ∈ (setOf [.root] : Capabilities) := by decide +kernel
  have hne : urgentAndBack ≠ [] := List.cons_ne_nil _ _
  have hsound : ∀ command ∈ urgentAndBack, command.fault? = none := by
    have hall : urgentAndBack.all (·.fault?.isNone) = true := by decide +kernel
    exact fun command hmem => Option.isNone_iff_eq_none.mp (List.all_eq_true.mp hall command hmem)
  have hmissed : ∃ r ∈ each, r.code ≠ .ok := by
    have hmem : ResponseCode.warning ∈ each.map Response.code := hcodes ▸ by decide
    obtain ⟨r, hr, hcode⟩ := List.mem_map.mp hmem
    exact ⟨r, hr, hcode ▸ nofun⟩
  have hshown : rootOnly.recognise oneWebServer.nowMs key
      = .ok ⟨"root", setOf ["www-data"], setOf [.root]⟩ := rfl
  obtain ⟨hafter, -, hwarning⟩ := (rewrites_sequential hshown hroot hne).2 hsound
  obtain ⟨hcode, hmessage⟩ := hwarning hmissed
  have hjoined : some (joined ", " (failures each))
      = some "CAS compare failed for www-data/prod/web/0" :=
    congrArg (fun texts => some (joined ", " texts)) hfailures
  exact ⟨hshown, hroot, hne, hcodes, hafter, hcode, hmessage.trans hjoined⟩

end World

end JobControl
