import JobControl.Proofs.RewriteBatches
import JobControl.Proofs.SingleActive

/-!
# Tasks that are rewritten

A batch of rewrites adds no task and takes none away, and of a task it can
change one thing only: what the task runs. Identifier, instance, state,
history, host and ports are not looked at and not written. What a task
runs after the batch is what it ran before, or what one of the commands
brings for its instance.

The job of a task is read off what it runs, so that it is as safe as the
commands are. A command says which instance it is about and what it
expects there; nobody compares the job in the replacement with either. A
batch of commands that do not lead to another job leaves every task in its
job, and a batch of others need not.
-/

namespace JobControl

/-- The command is about an instance, and this is what it brings. -/
def Rewrite.Brings (instanceId : Int32) (spec : TaskSpec) : Rewrite → Prop
  | .job _ _ => False
  | .task key _ replacement => key.instanceId = instanceId ∧ replacement.sanitize = .ok spec

/-- What commands leave of a task: all but what it runs, which one of them
has brought if it is new; and the job, if none of them leads to another. -/
structure Task.Rewritten (commands : List Rewrite) (t t' : Task) : Prop where
  rest : t' = { t with spec := t'.spec }
  spec : t'.spec = t.spec ∨ ∃ command ∈ commands, command.Brings t.instanceId t'.spec
  jobKey : (∀ command ∈ commands, command.KeepsJob) → t'.jobKey = t.jobKey

theorem Task.Rewritten.refl {commands : List Rewrite} {t : Task} : t.Rewritten commands t :=
  ⟨rfl, Or.inl rfl, fun _ => rfl⟩

namespace Store

variable {s s' : Store} {commands : List Rewrite} {command : Rewrite} {id : String} {t t' : Task}

/-- One command more of a batch leaves the same of a task. -/
theorem Applied.rewritten (h : Applied command s s') (hs : s.Filed) (hmem : command ∈ commands)
    (ht' : s.tasks[id]? = some t') (hbefore : t.Rewritten commands t') :
    ∃ u, s'.tasks[id]? = some u ∧ t.Rewritten commands u := by
  rcases h.tasks hs id with hsame | ⟨key, expected, replacement, spec, found, rfl, hsanitize,
    hfound, hjob, hinstance, -, hexpected, hafter⟩
  · exact ⟨t', hsame.trans ht', hbefore⟩
  · obtain rfl := Option.some.inj (hfound.symm.trans ht')
    have hid : found.instanceId = t.instanceId := by rw [hbefore.rest]
    refine ⟨_, hafter, ?_, Or.inr ⟨_, hmem, hinstance.symm.trans hid, hsanitize⟩, fun hkeep => ?_⟩
    · rw [hbefore.rest]
    · rw [← hbefore.jobKey hkeep]
      exact (hkeep _ hmem).jobKey_eq hsanitize hjob hexpected

theorem Batch.rewritten (h : Batch commands s s') (hs : s.Filed) (ht : s.tasks[id]? = some t) :
    ∃ t', s'.tasks[id]? = some t' ∧ t.Rewritten commands t' := by
  refine (h.keeps (I := fun s => s.Filed ∧ ∃ t', s.tasks[id]? = some t' ∧ t.Rewritten commands t')
    ?_ ⟨hs, t, ht, .refl⟩).2
  rintro command hmem a b happly ⟨hfiled, t', ht', hbefore⟩
  exact ⟨World.filed_of_applied happly hfiled, happly.rewritten hfiled hmem ht' hbefore⟩

theorem Batch.unfiled (h : Batch commands s s') (hs : s.Filed) (hid : s.tasks[id]? = none) :
    s'.tasks[id]? = none := by
  refine (h.keeps (I := fun s => s.Filed ∧ s.tasks[id]? = none) ?_ ⟨hs, hid⟩).2
  rintro command - a b happly ⟨hfiled, hnone⟩
  refine ⟨World.filed_of_applied happly hfiled, ?_⟩
  rcases happly.tasks hfiled id with hsame | ⟨_, _, _, _, _, _, _, hsome, _⟩
  · exact hsame.trans hnone
  · rw [hnone] at hsome
    cases hsome

end Store

namespace World

variable {env : Environment} {w w' : World} {commands : List Rewrite}
  {credential : Option Credential} {r : Response}

/-- A batch of commands has been gone through, or nothing has changed. -/
theorem Answered.batch {seen : Store}
    (h : Answered env seen w (.command (.rewriteConfigs commands) credential) w' r) :
    w'.live = w.live ∨ Store.Batch commands w.live w'.live := by
  cases h with
  | refused => exact Or.inl rfl
  | carried _ _ hdone =>
      obtain ⟨w₁, log, heffect, rfl, -⟩ := carried_of_perform hdone
      cases heffect with
      | changed hchange =>
          cases hchange with
          | launched _ _ hnamed | filed _ _ hnamed => cases hnamed
          | rewritten hbatch => exact Or.inr hbatch
      | rehosted | none => exact Or.inl rfl

/-- **A batch of rewrites changes what tasks run, and nothing else of
them**: there are the same tasks as before, each with its own identifier,
instance, state and history and where it was. What a task runs from then
on one of the commands has brought for its instance. As long as no command
leads to another job, every task stays in its job. -/
theorem rewritten_in_place (hw : w.Reachable env) :
    let after := (w.dispatch env (.command (.rewriteConfigs commands) credential)).1.live
    (∀ id : String, w.live.tasks[id]? = none → after.tasks[id]? = none)
      ∧ ∀ (id : String) (t : Task), w.live.tasks[id]? = some t →
        ∃ t', after.tasks[id]? = some t' ∧ t.Rewritten commands t' := by
  intro after
  have hfiled := hw.filed.live
  have hanswered : after = w.live ∨ Store.Batch commands w.live after := answered_dispatch.batch
  rcases hanswered with hsame | hbatch
  · rw [hsame]
    exact ⟨fun _ hid => hid, fun _ t ht => ⟨t, ht, .refl⟩⟩
  · exact ⟨fun _ => hbatch.unfiled hfiled, fun _ _ => hbatch.rewritten hfiled⟩

/-! ## A web server that becomes a shop -/

def webServer : InstanceKey := ⟨⟨"www-data", "prod", "web"⟩, 0⟩

def webServerId : String := Task.idOf webTask 0 0 (Text.freshToken 1)

/-- What the web server runs is replaced. -/
def serving (spec : TaskSpec) : List Rewrite := [.task webServer webTask spec]

/-- The world after root has submitted this. -/
def servedBy (spec : TaskSpec) : World :=
  (oneWebServer.dispatch rootOnly (rewrites (.apiKey "root") (serving spec))).1

theorem reachable_oneWebServer : oneWebServer.Reachable rootOnly :=
  ⟨0, 0, ∅, _, fun _ _ => trivial, rfl⟩

theorem rewritten_in_place_urgent : oneWebServer.Reachable rootOnly ∧ ∃ t t',
    oneWebServer.live.tasks[webServerId]? = some t
      ∧ (servedBy urgentTask).live.tasks[webServerId]? = some t'
      ∧ t.spec.priority = some 0 ∧ t'.spec.priority = some 1 ∧ t'.jobKey = t.jobKey
      ∧ t.Rewritten (serving urgentTask) t' := by
  have hbefore : oneWebServer.live.tasks[webServerId]?.map (·.spec.priority)
      = some (some 0) := by decide +kernel
  have hafter : (servedBy urgentTask).live.tasks[webServerId]?.map (·.spec.priority)
      = some (some 1) := by decide +kernel
  have hkeep : ∀ command ∈ serving urgentTask, command.KeepsJob := by
    rintro command hmem
    obtain rfl := List.mem_singleton.mp hmem
    exact fun _ => rfl
  obtain ⟨t, ht, hpriority⟩ := Option.map_eq_some_iff.mp hbefore
  obtain ⟨t', ht', hrewritten⟩ := (rewritten_in_place reachable_oneWebServer).2 webServerId t ht
  change (servedBy urgentTask).live.tasks[webServerId]? = some t' at ht'
  rw [ht', Option.map_some, Option.some.injEq] at hafter
  exact ⟨reachable_oneWebServer, t, t', ht, ht', hpriority, hafter, hrewritten.jobKey hkeep,
    hrewritten⟩

/-- **A task can be taken to another job**: the web server is a shop from
then on. -/
theorem not_always_in_its_job : ¬ ∀ (env : Environment) (w : World) (commands : List Rewrite)
    (credential : Option Credential) (id : String) (t t' : Task), w.Reachable env →
    w.live.tasks[id]? = some t →
    (w.dispatch env (.command (.rewriteConfigs commands) credential)).1.live.tasks[id]? = some t' →
    t'.jobKey = t.jobKey := by
  intro hall
  have hbefore : oneWebServer.live.tasks[webServerId]?.map Task.jobKey
      = some ⟨"www-data", "prod", "web"⟩ := by decide +kernel
  have hafter : (servedBy { webTask with jobName := "shop" }).live.tasks[webServerId]?.map
      Task.jobKey = some ⟨"www-data", "prod", "shop"⟩ := by decide +kernel
  obtain ⟨t, ht, hkey⟩ := Option.map_eq_some_iff.mp hbefore
  obtain ⟨t', ht', hkey'⟩ := Option.map_eq_some_iff.mp hafter
  have hsame : t'.jobKey = t.jobKey :=
    hall rootOnly oneWebServer _ _ webServerId t t' reachable_oneWebServer ht ht'
  rw [hkey, hkey'] at hsame
  exact absurd hsame (by decide)

end World

end JobControl
