import JobControl.Proofs.FreshTokens

/-!
# The histories of tasks

A task is never taken out of the store, save when a backup is put in its
place, and its history only grows: a request leaves it as it was or adds
one step to it, and the state of the task changes by such a step only. So
the last step in a history always says in which state the task is.

What can go wrong is a launch, which files new tasks by writing them into
the table. It would end the life of a task that has the same identifier;
fresh tokens keep that from happening. Everything else writes to tasks
where they are: moves add their step, and rewrites leave everything but
the description alone.

Requests for which there is a rule move tasks along `Status.Passes` only.
No state from which it leads on has ended, so that a task which has ended
stays so, unless it is forced into another state.
-/

namespace JobControl

/-! ## Moves between states -/

/-- The moves of tasks that are killed or restarted. -/
inductive Status.Passes : Status → Status → Prop
  | ended {s : Status} : s ∈ [init, throttled, pending] → Passes s killed
  | stopped {s : Status} :
      s.isActive = true → s ∉ [init, throttled, pending, killing] → Passes s killing
  | restarted {s : Status} : s ∈ [assigned, starting, running] → Passes s restarting

theorem Status.passes_of_resolve {source target status : Status}
    (htarget : target = .killing ∨ target = .restarting)
    (h : source.resolve target = some status) : source.Passes status := by
  rcases htarget with rfl | rfl <;> cases source <;> cases h
  case inl.init | inl.throttled | inl.pending => exact .ended (by decide)
  case inr.assigned | inr.starting | inr.running => exact .restarted (by decide)
  all_goals exact .stopped rfl (by decide)

theorem Status.Passes.isActive {source status : Status} (h : source.Passes status) :
    source.isActive = true := by
  cases h with
  | ended hsource | restarted hsource =>
      simp only [List.mem_cons, List.not_mem_nil, or_false] at hsource
      rcases hsource with rfl | rfl | rfl <;> rfl
  | stopped hactive => exact hactive

/-- The moves that a command can make a task take. -/
def Command.Leads : Command → Status → Status → Prop
  | .forceTaskState _ target, source, status => source ≠ target ∧ status = target
  | _, source, status => source.Passes status

def Request.Leads : Request → Status → Status → Prop
  | .view _, _, _ => False
  | .command c _, source, status => c.Leads source status

/-! ## A task and what becomes of it -/

namespace Task

variable {t t' : Task} {leads : Status → Status → Prop}

/-- The last step in the history of a task is the one to its state. -/
def Recorded (t : Task) : Prop :=
  ∃ change, t.history.getLast? = some change ∧ change.status = t.status

/-- The same task later on: nothing was added to its history and it is in
the same state, or one step was added, to the state that it is in now. -/
structure Continues (leads : Status → Status → Prop) (t t' : Task) : Prop where
  id : t'.id = t.id
  instanceId : t'.instanceId = t.instanceId
  history : t'.history = t.history ∧ t'.status = t.status
    ∨ ∃ change, t'.history = t.history ++ [change] ∧ t'.status = change.status
      ∧ leads t.status t'.status

theorem Continues.refl : t.Continues leads t :=
  ⟨rfl, rfl, Or.inl ⟨rfl, rfl⟩⟩

theorem Continues.withSpec (spec : TaskSpec) : t.Continues leads { t with spec := spec } :=
  ⟨rfl, rfl, Or.inl ⟨rfl, rfl⟩⟩

theorem Continues.enter {change : StatusChange} (h : leads t.status change.status) :
    t.Continues leads (t.enter change) :=
  ⟨rfl, rfl, Or.inr ⟨change, rfl, rfl, h⟩⟩

theorem Recorded.continues (ht : t.Recorded) (h : t.Continues leads t') : t'.Recorded := by
  rcases h.history with ⟨hhistory, hstatus⟩ | ⟨change, hhistory, hstatus, -⟩
  · obtain ⟨last, hlast, hsame⟩ := ht
    exact ⟨last, by rw [hhistory, hlast], by rw [hsame, hstatus]⟩
  · exact ⟨change, by rw [hhistory, List.getLast?_concat], hstatus.symm⟩

/-- Where no rule leads on from a state, a task in it stays there. -/
theorem Continues.status_eq (h : t.Continues leads t') (hend : ∀ s, ¬leads t.status s) :
    t'.status = t.status := by
  rcases h.history with ⟨-, hstatus⟩ | ⟨-, -, -, hleads⟩
  · exact hstatus
  · exact absurd hleads (hend _)

theorem recorded_waiting {spec : TaskSpec} {instanceId : Int32} {nowMs : Int64}
    {token : String} {scheduler : Option String} :
    (waiting spec instanceId nowMs token scheduler).Recorded :=
  ⟨⟨nowMs, .pending, none, scheduler⟩, rfl, rfl⟩

end Task

/-! ## Operations of the store -/

namespace Store

variable {s s' : Store} {id : String} {t : Task}

theorem continues_moveTasks {stamp : Stamp} {q : TaskQuery} {message : Option String}
    {next : Status → Option Status} {leads : Status → Status → Prop}
    (hnext : ∀ source status, next source = some status → leads source status)
    (ht : s.tasks[id]? = some t) : ∃ t',
      (s.moveTasks stamp q message next).1.tasks[id]? = some t' ∧ t.Continues leads t' := by
  have hentry : (s.moveTasks stamp q message next).1.tasks[id]? = some
      (if q.isMetBy t then (Task.move stamp message next t).getD t else t) := by
    show (s.changeTasks q (Task.move stamp message next)).tasks[id]? = _
    rw [getElem?_changeTasks, ht]
    rfl
  refine ⟨_, hentry, ?_⟩
  split
  · rw [Task.move]
    cases hstatus : next t.status with
    | none => exact .refl
    | some status => exact .enter (hnext _ _ hstatus)
  · exact .refl

/-- A batch of rewrites lets tasks run something else, and nothing more. -/
theorem Batch.tasks {commands : List Rewrite} (h : Batch commands s s')
    (ht : s.tasks[id]? = some t) : ∃ spec, s'.tasks[id]? = some { t with spec := spec } := by
  refine h.keeps (I := fun s => ∃ spec, s.tasks[id]? = some { t with spec := spec }) ?_
    ⟨t.spec, ht⟩
  rintro command - a b happly ⟨spec, hspec⟩
  cases happly with
  | job => exact ⟨spec, hspec⟩
  | @task _ _ key expected replacement new found hsanitize honly hsame hreplaced =>
      obtain ⟨filed, hfiled, rfl⟩ := replaceSpec_eq_some.mp hreplaced
      by_cases hid : found.id = id
      · subst hid
        obtain rfl := Option.some.inj (hspec.symm.trans hfiled)
        exact ⟨new, by rw [Table.getElem?_insert, if_pos rfl]⟩
      · exact ⟨spec, by rw [Table.getElem?_insert, if_neg hid, hspec]⟩

/-- Every task tells in its history in which state it is. -/
def Recorded (s : Store) : Prop :=
  ∀ (id : String) (t : Task), s.tasks[id]? = some t → t.Recorded

theorem Recorded.saveTasks {stamp : Stamp} {token : Nat → String}
    {specs : List (Int32 × TaskSpec)} (hs : s.Recorded) :
    (s.saveTasks (waitingTasks stamp token specs)).Recorded := by
  intro id t ht
  rcases of_getElem?_saveTasks ht with ⟨hnew, -⟩ | hold
  · obtain ⟨i, x, -, rfl⟩ := mem_waitingTasks.mp hnew
    exact Task.recorded_waiting
  · exact hs id t hold

theorem Recorded.moveTasks {stamp : Stamp} {q : TaskQuery} {message : Option String}
    {next : Status → Option Status} (hs : s.Recorded) :
    (s.moveTasks stamp q message next).1.Recorded := by
  intro id t' ht'
  obtain ⟨t, ht, rfl | ⟨-, status, -, rfl⟩⟩ := of_getElem?_moveTasks ht'
  · exact hs id _ ht
  · have hstep : t.Continues (fun _ _ => True)
        (t.enter ⟨stamp.nowMs, status, message, stamp.scheduler⟩) := .enter trivial
    exact (hs id t ht).continues hstep

theorem Recorded.applied {command : Rewrite} (hs : s.Recorded) (h : Applied command s s') :
    s'.Recorded := by
  cases h with
  | job => exact hs
  | @task _ _ key expected replacement spec found hsanitize honly hsame hreplaced =>
      obtain ⟨filed, hfiled, rfl⟩ := replaceSpec_eq_some.mp hreplaced
      intro id t ht
      rw [Table.getElem?_insert] at ht
      split at ht
      · cases ht
        have hkept : filed.Continues (fun _ _ => True) { filed with spec := spec } := .withSpec spec
        exact (hs _ _ hfiled).continues hkept
      · exact hs id t ht

theorem Recorded.deleteTasks {ids : List String} (hs : s.Recorded) :
    (s.deleteTasks ids).Recorded := by
  intro id t ht
  rw [getElem?_deleteTasks] at ht
  split at ht
  · cases ht
  · exact hs id t ht

end Store

/-! ## What a request leaves of a task -/

namespace World

variable {env : Environment} {w w' : World} {p : Principal} {c : Command} {store : Store}
  {issued : Nat} {id : String} {t : Task}

theorem recorded_of_change (h : Change env w p c store issued) (hs : w.live.Recorded) :
    store.Recorded := by
  cases h with
  | launched => exact hs.saveTasks
  | killed | restarted | forced => exact hs.moveTasks
  | released =>
      rw [Store.Recorded, Store.tasks_releaseLock]
      exact hs
  | rewritten hbatch => exact hbatch.keeps (fun _ _ _ _ happly h => h.applied happly) hs
  | filed | removed | locked | unlocked | allotted => exact hs

theorem lasting_recorded : Lasting env (fun _ => True) fun _ => Store.Recorded where
  empty _ _ _ h := by simp at h
  mono _ h := h
  change _ h hs := recorded_of_change h hs
  deleteTasks _ hs := hs.deleteTasks

/-- No change takes a task out of the store or rewrites its history. -/
theorem continues_of_change (h : Change env w p c store issued) (hw : w.Reachable env)
    (hfresh : env.Fresh issued) (ht : w.live.tasks[id]? = some t) :
    ∃ t', store.tasks[id]? = some t' ∧ t.Continues c.Leads t' := by
  cases h with
  | launched =>
      refine ⟨t, Store.getElem?_saveTasks_of_new (fun u hu => ?_) ht, .refl⟩
      exact hw.unfiled_of_mem_waitingTasks hfresh hu
  | killed =>
      exact Store.continues_moveTasks (fun _ _ => Status.passes_of_resolve (Or.inl rfl)) ht
  | restarted =>
      exact Store.continues_moveTasks (fun _ _ => Status.passes_of_resolve (Or.inr rfl)) ht
  | @forced forcedId target =>
      refine Store.continues_moveTasks (fun source status hforce => ?_) ht
      rw [Status.force] at hforce
      split at hforce
      · rename_i hne
        exact ⟨by simpa using hne, (Option.some.inj hforce).symm⟩
      · cases hforce
  | released => exact ⟨t, by rw [Store.tasks_releaseLock, ht], .refl⟩
  | rewritten hbatch =>
      obtain ⟨spec, hspec⟩ := hbatch.tasks ht
      exact ⟨_, hspec, .withSpec spec⟩
  | filed | removed | locked | unlocked | allotted => exact ⟨t, ht, .refl⟩

theorem Answered.continues {request : Request} {r : Response}
    (h : Answered env w.live w request w' r) (hw : w.Reachable env)
    (hrequest : request.operation ≠ .commitRecovery) (hfresh : env.Fresh w'.issued)
    (ht : w.live.tasks[id]? = some t) :
    ∃ t', w'.live.tasks[id]? = some t' ∧ t.Continues request.Leads t' := by
  cases h with
  | refused | viewed => exact ⟨t, ht, .refl⟩
  | carried _ _ hdone =>
      obtain ⟨w₁, log, heffect, rfl, -⟩ := carried_of_perform hdone
      cases heffect with
      | changed hchange => exact continues_of_change hchange hw hfresh ht
      | restored => exact absurd rfl hrequest
      | rehosted | backedUp | staged | trimmed | unloaded | written | none =>
          exact ⟨t, ht, .refl⟩

theorem not_leads_of_isTerminal {request : Request}
    (hrequest : request.operation ≠ .forceTaskState) {source status : Status}
    (hsource : source.isTerminal = true) : ¬request.Leads source status := by
  intro hleads
  have hactive : source.isActive = true := by
    cases request with
    | view v => exact hleads.elim
    | command c shown =>
        cases c with
        | forceTaskState => exact absurd rfl hrequest
        | _ => exact Status.Passes.isActive hleads
  rw [Status.isActive, hsource] at hactive
  cases hactive

/-- **Tasks live on and tell in which state they are.** In a reached world
the last step of every history is the one to the state of the task. A
request that does not put a backup back leaves every task in the store; it
adds at most one step to its history, and only then the state may be
another one, by a move that the request can make. A task that has ended
is not revived unless it is forced. -/
theorem tasks_continue {request : Request} (hw : w.Reachable env)
    (hfresh : env.Fresh (w.dispatch env request).1.issued) :
    w.Everywhere Store.Recorded ∧ (request.operation ≠ .commitRecovery →
      ∀ (id : String) (t : Task), w.live.tasks[id]? = some t →
        ∃ t', (w.dispatch env request).1.live.tasks[id]? = some t'
          ∧ t.Continues request.Leads t'
          ∧ (request.operation ≠ .forceTaskState → t.status.isTerminal = true →
            t'.status = t.status)) := by
  refine ⟨lasting_recorded.everywhere hw, fun hrequest id t ht => ?_⟩
  obtain ⟨t', ht', hcontinues⟩ := answered_dispatch.continues hw hrequest hfresh ht
  exact ⟨t', ht', hcontinues, fun hforce hended =>
    hcontinues.status_eq fun _ => not_leads_of_isTerminal hforce hended⟩

/-! ## A task that is restarted -/

def shopJob : Job := .plain ⟨"www-data", "prod", "shop"⟩ "alice" 2

def shopTaskId : String := Task.idOf shopJob.task 1 0 (Text.freshToken 2)

/-- The second task of a job runs. -/
def oneRuns : World :=
  (start 0 0 ∅ .empty).run rootOnly
    ([.createJob shopJob none, .forceTaskState shopTaskId .running].map fun c =>
      .request (.command c (some (.apiKey "root"))))

def restartSecond : Request :=
  .command (.restartShards shopJob.key (setOf [1]) none) (some (.apiKey "root"))

theorem tasks_continue_restartSecond : ∃ t t',
    oneRuns.live.tasks[shopTaskId]? = some t ∧ t.status = .running ∧ t.Recorded
      ∧ (oneRuns.dispatch rootOnly restartSecond).1.live.tasks[shopTaskId]? = some t'
      ∧ t'.status = .restarting ∧ t.Continues restartSecond.Leads t' := by
  have hreached : oneRuns.Reachable rootOnly := ⟨0, 0, ∅, _, fun _ _ => trivial, rfl⟩
  have hfresh : rootOnly.Fresh (oneRuns.dispatch rootOnly restartSecond).1.issued :=
    Environment.fresh_of_freshToken rfl (by decide +kernel)
  have hbefore : oneRuns.live.tasks[shopTaskId]?.map Task.status = some .running := by
    decide +kernel
  have hafter : (oneRuns.dispatch rootOnly restartSecond).1.live.tasks[shopTaskId]?.map
      Task.status = some .restarting := by
    decide +kernel
  obtain ⟨hrecorded, hkept⟩ := tasks_continue hreached hfresh
  obtain ⟨t, ht, hstatus⟩ := Option.map_eq_some_iff.mp hbefore
  obtain ⟨t', ht', hcontinues, -⟩ := hkept (by decide) shopTaskId t ht
  rw [ht', Option.map_some, Option.some.injEq] at hafter
  exact ⟨t, t', ht, hstatus, hrecorded.live _ _ ht, ht', hafter, hcontinues⟩

end World

end JobControl
