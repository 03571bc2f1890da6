import JobControl.Control.Setup
import JobControl.Proofs.Changes

/-!
# Runs of a scheduler

A scheduler meets with requests, and time passes between them. A world is
reached by requests of some kind if a scheduler that starts with an empty
store comes to it on such requests.

A store does not last only as the live one: it is committed, backed up,
staged, pruned and put back. `Lasting` says what has to be shown of a
property of stores once, of the cases of `Change` and of pruning, and
`Lasting.everywhere` gives it for every store in every reached world. A
property may depend on the number of tokens that have been handed out.
-/

namespace JobControl

/-- What a scheduler meets with: a request, or time that passes. -/
inductive Input
  | request (request : Request)
  | pause (ms : Int64)

namespace World

variable {env : Environment} {w w' : World} {inputs : List Input} {allowed : Request → Prop}

/-- The world after an input. -/
def meet (env : Environment) (w : World) : Input → World
  | .request request => (w.dispatch env request).1
  | .pause ms => w.advance ms

/-- The world after inputs in order. -/
def run (env : Environment) (w : World) (inputs : List Input) : World :=
  inputs.foldl (meet env) w

/-- The requests among the inputs, each with the world that answers it. -/
def exchanges (env : Environment) (w : World) : List Input → List (World × Request)
  | [] => []
  | .request request :: inputs =>
    (w, request) :: exchanges env (w.dispatch env request).1 inputs
  | .pause ms :: inputs => exchanges env (w.advance ms) inputs

/-- A scheduler that starts with an empty store comes to this world on
requests that are all allowed. -/
def ReachedBy (env : Environment) (allowed : Request → Prop) (w : World) : Prop :=
  ∃ nowMs issued files inputs, (∀ request, .request request ∈ inputs → allowed request)
    ∧ w = (start nowMs issued files .empty).run env inputs

/-- A scheduler that starts with an empty store comes to this world. -/
def Reachable (env : Environment) (w : World) : Prop :=
  ReachedBy env (fun _ => True) w

theorem run_append {more : List Input} :
    w.run env (inputs ++ more) = (w.run env inputs).run env more :=
  List.foldl_append

theorem exchanges_append {more : List Input} : ∀ {inputs : List Input} {w : World},
    w.exchanges env (inputs ++ more)
      = w.exchanges env inputs ++ (w.run env inputs).exchanges env more
  | [], _ => rfl
  | .request request :: inputs, w => by
      rw [List.cons_append, exchanges, exchanges, exchanges_append]
      rfl
  | .pause ms :: inputs, w => by
      rw [List.cons_append, exchanges, exchanges, exchanges_append]
      rfl

section Gather

variable {α : Type} {f : World → Request → Response → Option α}

/-- What is seen in the exchanges of a run, in order: in each the world
before it, the request and the answer. -/
def gather (f : World → Request → Response → Option α) (env : Environment) (w : World)
    (inputs : List Input) : List α :=
  (w.exchanges env inputs).filterMap fun exchange =>
    f exchange.1 exchange.2 (exchange.1.dispatch env exchange.2).2

theorem gather_nil : w.gather f env [] = [] := rfl

theorem gather_append {more : List Input} : w.gather f env (inputs ++ more)
    = w.gather f env inputs ++ (w.run env inputs).gather f env more := by
  rw [gather, exchanges_append, List.filterMap_append]
  rfl

theorem gather_request {request : Request} : w.gather f env (.request request :: inputs)
    = (f w request (w.dispatch env request).2).toList
      ++ (w.dispatch env request).1.gather f env inputs := by
  rw [gather, exchanges, List.filterMap_cons]
  cases f w request (w.dispatch env request).2 <;> rfl

end Gather

/-- What every exchange of a run keeps, and time, the run keeps. -/
theorem run_keeps {I : World → Prop} (hpause : ∀ v ms, I v → I (v.advance ms)) :
    ∀ {inputs : List Input} {w : World},
      (∀ v request, (v, request) ∈ w.exchanges env inputs → I v →
        I (v.dispatch env request).1) →
      I w → I (w.run env inputs)
  | [], _, _, hw => hw
  | .request request :: inputs, w, hstep, hw => by
      show I ((w.dispatch env request).1.run env inputs)
      exact run_keeps hpause (fun v r hmem => hstep v r (List.mem_cons_of_mem _ hmem))
        (hstep w request List.mem_cons_self hw)
  | .pause ms :: inputs, w, hstep, hw => by
      show I ((w.advance ms).run env inputs)
      exact run_keeps hpause hstep (hpause w ms hw)

theorem request_mem_of_mem_exchanges {v : World} {request : Request} :
    ∀ {inputs : List Input} {w : World}, (v, request) ∈ w.exchanges env inputs →
      .request request ∈ inputs
  | [], _, h => by cases h
  | .request first :: inputs, w, h => by
      rcases List.mem_cons.mp h with heq | h
      · cases heq
        exact List.mem_cons_self
      · exact List.mem_cons_of_mem _ (request_mem_of_mem_exchanges h)
  | .pause ms :: inputs, w, h => by
      change (v, request) ∈ (w.advance ms).exchanges env inputs at h
      exact List.mem_cons_of_mem _ (request_mem_of_mem_exchanges h)

/-- What holds at the start and is kept by every allowed request, and by
time, holds in every reached world. -/
theorem ReachedBy.invariant {I : World → Prop} (h : ReachedBy env allowed w)
    (hstart : ∀ nowMs issued files, I (start nowMs issued files .empty))
    (hrequest : ∀ v request, allowed request → I v → I (v.dispatch env request).1)
    (hpause : ∀ v ms, I v → I (v.advance ms)) : I w := by
  obtain ⟨nowMs, issued, files, inputs, hallowed, rfl⟩ := h
  exact run_keeps hpause
    (fun v request hmem => hrequest v request
      (hallowed request (request_mem_of_mem_exchanges hmem)))
    (hstart nowMs issued files)

theorem ReachedBy.run {more : List Input} (h : ReachedBy env allowed w)
    (hmore : ∀ request, .request request ∈ more → allowed request) :
    ReachedBy env allowed (w.run env more) := by
  obtain ⟨nowMs, issued, files, inputs, hallowed, rfl⟩ := h
  refine ⟨nowMs, issued, files, inputs ++ more, fun request hmem => ?_, run_append.symm⟩
  exact (List.mem_append.mp hmem).elim (hallowed request) (hmore request)

theorem Reachable.dispatch {request : Request} (h : w.Reachable env) :
    (w.dispatch env request).1.Reachable env := by
  have hrun : (w.run env [.request request]).Reachable env := h.run fun _ _ => trivial
  exact hrun

theorem Answered.committed_eq_live {seen : Store} {request : Request} {r : Response}
    (h : Answered env seen w request w' r) (hw : w.committed = w.live) :
    w'.committed = w'.live := by
  cases h with
  | refused => exact hw
  | viewed => exact hw
  | carried _ _ hdone =>
      obtain ⟨w₁, log, heffect, rfl, -⟩ := carried_of_perform hdone
      cases heffect with
      | changed | restored => rfl
      | rehosted | backedUp | staged | trimmed | unloaded | written | none => exact hw

/-- Between requests the live store is the committed one. -/
theorem committed_eq_live_of_run (hw : w.committed = w.live) :
    (w.run env inputs).committed = (w.run env inputs).live :=
  run_keeps (I := fun w => w.committed = w.live) (fun _ _ hv => hv)
    (fun _ _ _ hv => answered_dispatch.committed_eq_live hv) hw

theorem Reachable.committed_eq_live (h : w.Reachable env) : w.committed = w.live := by
  obtain ⟨nowMs, issued, files, inputs, -, rfl⟩ := h
  exact committed_eq_live_of_run rfl

/-! ## Properties of stores -/

/-- Every store in the world has a property: the live one, the committed
one, those of the backups and the staged one. -/
structure Everywhere (I : Store → Prop) (w : World) : Prop where
  live : I w.live
  committed : I w.committed
  kept : ∀ b ∈ w.vault.kept, I b.store
  staged : ∀ s ∈ w.vault.staged, I s

theorem Everywhere.imp {I J : Store → Prop} (h : w.Everywhere I) (hIJ : ∀ s, I s → J s) :
    w.Everywhere J :=
  ⟨hIJ _ h.live, hIJ _ h.committed, fun b hb => hIJ _ (h.kept b hb),
    fun s hs => hIJ _ (h.staged s hs)⟩

/-- A property of stores, and of the number of tokens handed out, that is
never lost while all requests are allowed. -/
structure Lasting (env : Environment) (allowed : Request → Prop) (I : Nat → Store → Prop) :
    Prop where
  empty : ∀ n, I n .empty
  mono : ∀ {n m s}, n ≤ m → I n s → I m s
  change : ∀ {w p c credential store issued}, allowed (.command c credential) →
    Change env w p c store issued → I w.issued w.live → I issued store
  deleteTasks : ∀ {n s} ids, I n s → I n (s.deleteTasks ids)

theorem Change.le_issued {p : Principal} {c : Command} {store : Store} {issued : Nat}
    (h : Change env w p c store issued) : w.issued ≤ issued := by
  cases h <;> omega

variable {I : Nat → Store → Prop}

theorem Lasting.effect (hI : Lasting env allowed I) {p : Principal} {c : Command}
    {credential : Option Credential} (hc : allowed (.command c credential))
    (h : Effect env w p c w') (hw : w.Everywhere (I w.issued)) :
    w'.Everywhere (I w'.issued) := by
  cases h with
  | changed h =>
      have hnew := hI.change hc h hw.live
      have hle := Change.le_issued h
      exact ⟨hnew, hnew, fun b hb => hI.mono hle (hw.kept b hb),
        fun s hs => hI.mono hle (hw.staged s hs)⟩
  | rehosted | written | none => exact ⟨hw.live, hw.committed, hw.kept, hw.staged⟩
  | backedUp =>
      refine ⟨hw.live, hw.committed, fun b hb => ?_, hw.staged⟩
      rcases List.mem_append.mp (List.mem_of_mem_drop hb) with hb | hb
      · exact hw.kept b hb
      · rw [List.mem_singleton.mp hb]
        exact hw.committed
  | staged h =>
      obtain ⟨b, hb, rfl⟩ := Vault.stage_eq_ok.mp h
      refine ⟨hw.live, hw.committed, hw.kept, fun s hs => ?_⟩
      cases hs
      exact hw.kept b (List.mem_of_find?_eq_some hb)
  | trimmed h =>
      obtain ⟨copy, hcopy, rfl⟩ := Vault.deleteTasks_eq_ok.mp h
      refine ⟨hw.live, hw.committed, hw.kept, fun s hs => ?_⟩
      cases hs
      exact hI.deleteTasks _ (hw.staged copy hcopy)
  | restored h =>
      obtain ⟨hcopy, rfl⟩ := Vault.take_eq_ok.mp h
      have hnew := hw.staged _ hcopy
      exact ⟨hnew, hnew, hw.kept, fun s hs => by cases hs⟩
  | unloaded => exact ⟨hw.live, hw.committed, hw.kept, fun s hs => by cases hs⟩

theorem Lasting.answered (hI : Lasting env allowed I) {seen : Store} {request : Request}
    {r : Response} (hallowed : allowed request) (h : Answered env seen w request w' r)
    (hw : w.Everywhere (I w.issued)) : w'.Everywhere (I w'.issued) := by
  cases h with
  | refused => exact ⟨hw.live, hw.committed, hw.kept, hw.staged⟩
  | viewed => exact hw
  | carried _ _ hdone =>
      obtain ⟨w₁, log, heffect, rfl, -⟩ := carried_of_perform hdone
      have hw₁ := hI.effect hallowed heffect hw
      exact ⟨hw₁.live, hw₁.committed, hw₁.kept, hw₁.staged⟩

/-- **A lasting property holds of every store in every reached world.** -/
theorem Lasting.everywhere (hI : Lasting env allowed I) (h : ReachedBy env allowed w) :
    w.Everywhere (I w.issued) := by
  refine h.invariant (I := fun w => w.Everywhere (I w.issued)) ?_ ?_ ?_
  · intro nowMs issued files
    exact ⟨hI.empty _, hI.empty _, (fun _ hb => by cases hb), fun _ hs => by cases hs⟩
  · exact fun v request hallowed hv => hI.answered hallowed answered_dispatch hv
  · exact fun v ms hv => ⟨hv.live, hv.committed, hv.kept, hv.staged⟩

end World

/-! ## A plain setting -/

/-- The plainest surroundings: keys belong to the same principals at all
times, tokens have the usual form, and nothing is written to files. -/
def Environment.plain (owner : String → Principal) : Environment where
  recognise _ credential :=
    match credential with
    | .apiKey key => .ok (owner key)
    | .bearer _ => .error .invalidToken
  token := Text.freshToken
  retention := 1
  eventCapacity := 1
  snapshotPath := none

/-- Whoever shows a key is root, and runs the web servers. -/
def rootOnly : Environment := .plain fun _ => ⟨"root", setOf ["www-data"], setOf [.root]⟩

/-- A job of a few instances that need little. -/
def Job.plain (key : JobKey) (user : String) (instanceCount : Int32) : Job where
  key := key
  owner := ⟨key.role, user⟩
  cronSchedule := none
  task := {
    owner := ⟨key.role, user⟩
    environment := key.environment
    jobName := key.name
    isService := none
    numCpus := 1.0
    ramMb := 64
    diskMb := 64
    priority := none
    maxTaskFailures := none
    production := none
    contactEmail := none
    requestedPorts := ∅
    executor := some ⟨"executor", ""⟩ }
  instanceCount := instanceCount

namespace World

/-- What root asks for. -/
def byRoot (c : Command) : Request := .command c (some (.apiKey "root"))

def nightlyJob : Job :=
  { Job.plain ⟨"www-data", "prod", "nightly"⟩ "alice" 1 with cronSchedule := some "0 2 * * *" }

/-- A world with something of everything: there are tasks, a template, a
lock and an allotment, in the store as in the copy that is staged. -/
def furnished : World :=
  (start 0 0 ∅ .empty).run rootOnly
    ([.createJob (.plain ⟨"www-data", "prod", "shop"⟩ "alice" 2) none,
      .scheduleCronJob nightlyJob none, .acquireLock nightlyJob.key,
      .setQuota "www-data" ⟨8, 1024, 4096⟩, .performBackup, .stageRecovery "backup-0-0"].map
        fun c => .request (byRoot c))

end World

end JobControl
