import JobControl.Proofs.Atomicity
import JobControl.Proofs.RewriteBatches
import JobControl.Proofs.RoleIsolation

/-!
# What requests leave in the log

Whoever reads the log can tell from it how every request went. `Trail`
lists what is recorded, by the operation and the code of the answer: of a
view that was answered nothing, of a command that was carried out that it
was applied, and what else a lock asks for; of a refusal one event whose
kind says why; of a batch of rewrites that was carried out in part one
event for each command that missed.

The log forgets. What a request records is therefore said of the log at
every capacity: it is the one list of events that, added to the log in
order, gives the log afterwards, however many events are kept. That there
is one such list is not clear of itself, as the log is a part of the world
that commands act on; but no command looks at it.

One request is silent. A batch of no commands fails, and is answered as a
failure by the handler itself; neither the record of refusals nor that of
successes is made then.
-/

namespace JobControl

/-- The same surroundings, with room for so many events. -/
def Environment.keeping (env : Environment) (capacity : Nat) : Environment :=
  { env with eventCapacity := capacity }

namespace EventKind

/-- Events that commands record while they are carried out. -/
def isOwn : EventKind → Bool
  | lockAcquired | lockReleased | rewriteFailed => true
  | _ => false

end EventKind

/-- An event tells that an operation was asked for at a time. -/
structure Event.TellsOf (nowMs : Int64) (operation : Operation) (e : Event) : Prop where
  timestampMs : e.timestampMs = nowMs
  category : e.category = e.kind.category
  severity : e.severity = e.kind.severity
  source : e.source = operation.name

/-- What is recorded of a request, by its operation and the code of its
answer. -/
inductive Trail : Operation → ResponseCode → List EventKind → Prop
  | viewed {o : Operation} : o.access = .everyone → Trail o .ok []
  | locked : Trail .acquireLock .ok [.lockAcquired, .mutationApplied]
  | unlocked : Trail .releaseLock .ok [.lockReleased, .mutationApplied]
  | applied {o : Operation} : o.access ≠ .everyone → o ≠ .acquireLock → o ≠ .releaseLock →
      Trail o .ok [.mutationApplied]
  | denied {o : Operation} : Trail o .authFailed [.authFailed]
  | lockedOut {o : Operation} : Trail o .lockError [.lockConflict]
  | overAllotted {o : Operation} : Trail o .invalidRequest [.quotaRejected]
  | invalid {o : Operation} : Trail o .invalidRequest [.invalidRequest]
  | failed {o : Operation} : Trail o .error [.backendFailure]
  | missed {n : Nat} : Trail .rewriteConfigs .warning (List.replicate (n + 1) .rewriteFailed)

namespace World

variable {env : Environment} {w w' : World} {p : Principal} {roles : Names} {c : Command}
  {request : Request} {r : Response} {o : Operation} {nowMs : Int64}

/-! ## Refusals and successes -/

theorem trail_of_refusal (refusal : Refusal) : Trail o refusal.code [refusalKind refusal] := by
  cases refusal with
  | denied denial => exact .denied
  | malformed malformed => exact .invalid
  | fault f =>
      rw [refusalKind.eq_def, Refusal.code]
      cases hkind : f.kind with
      | authFailed => exact .denied
      | lock => exact .lockedOut
      | quota => simpa [FaultKind.code, hkind] using Trail.overAllotted
      | taskDescription | schedule | cron => simpa [FaultKind.code, hkind] using Trail.invalid
      | recovery | storage | configuration | serialization | internal => exact .failed

theorem successEvent_eq_none (h : o.access = .everyone ∨ r.code ≠ .ok) :
    successEvent nowMs o r = none := by
  rcases h with h | h <;> simp [successEvent, Operation.isMutating, h]

theorem successEvent_eq_some (ho : o.access ≠ .everyone) (hr : r.code = .ok) :
    ∃ e, successEvent nowMs o r = some e ∧ e.kind = .mutationApplied ∧ e.TellsOf nowMs o
      ∧ e.message = r.message.getD "" := by
  have hmade : (o.isMutating && r.code == .ok) = true := by
    simp [Operation.isMutating, ho, hr]
  refine ⟨_, if_pos hmade, ?_⟩
  split <;> exact ⟨rfl, ⟨rfl, rfl, rfl, rfl⟩, rfl⟩

/-! ## What commands record themselves -/

/-- The world after events were recorded in a log with room for so many. -/
def recording (capacity : Nat) (log : EventLog) (recorded : List Event) (w : World) : World :=
  { w with events := recorded.foldl (EventLog.record capacity) log }

theorem foldl_record_eq : ∀ (events : List Event) (w : World),
    events.foldl (World.record env) w = w.recording env.eventCapacity w.events events
  | [], w => rfl
  | e :: events, w => by
      rw [List.foldl_cons, foldl_record_eq events]
      rfl

/-- Commands that record nothing themselves. -/
def Quiet : Command → Prop
  | .acquireLock _ | .releaseLock _ _ | .rewriteConfigs _ => False
  | _ => True

theorem quiet_perform (hc : Quiet c) (h : w.perform env p roles c = .ok (w', r)) :
    w'.events = w.events ∧ r.code = .ok := by
  cases c with
  | acquireLock | releaseLock | rewriteConfigs => exact hc.elim
  | createJob job held =>
      obtain ⟨s, -, -, -, -, -, rfl, rfl⟩ := createJob_eq_ok.mp h
      exact ⟨rfl, rfl⟩
  | addInstances addition held =>
      obtain ⟨-, -, task, -, -, -, -, -, -, rfl, rfl⟩ := addInstances_eq_ok.mp h
      exact ⟨rfl, rfl⟩
  | scheduleCronJob job held =>
      obtain ⟨s, -, -, -, store, -, rfl, rfl⟩ := scheduleCronJob_eq_ok.mp h
      exact ⟨rfl, rfl⟩
  | replaceCronTemplate job held =>
      obtain ⟨-, s, -, store, -, rfl, rfl⟩ := replaceCronTemplate_eq_ok.mp h
      exact ⟨rfl, rfl⟩
  | descheduleCronJob key held =>
      obtain ⟨-, store, -, rfl, rfl⟩ := descheduleCronJob_eq_ok.mp h
      exact ⟨rfl, rfl⟩
  | startCronJob key =>
      obtain ⟨-, specs, -, rfl, rfl⟩ := startCronJob_eq_ok.mp h
      exact ⟨rfl, rfl⟩
  | killTasks q held =>
      obtain ⟨-, -, rfl, rfl⟩ := killTasks_eq_ok.mp h
      exact ⟨rfl, rfl⟩
  | restartShards key shards held =>
      obtain ⟨-, -, -, -, rfl, rfl⟩ := restartShards_eq_ok.mp h
      exact ⟨rfl, rfl⟩
  | snapshot =>
      simp only [perform, bind_eq_ok, checked_eq_ok, pure_eq_ok, Prod.mk.injEq] at h
      obtain ⟨w₁, hw₁, rfl, rfl⟩ := h
      obtain ⟨files, rfl⟩ := files_of_writeSnapshot hw₁
      exact ⟨rfl, rfl⟩
  | commitRecovery =>
      simp only [perform, bind_eq_ok, checked_eq_ok, pure_eq_ok, Prod.exists,
        Prod.mk.injEq] at h
      obtain ⟨vault, store, -, rfl, rfl⟩ := h
      exact ⟨rfl, rfl⟩
  | setQuota | stageRecovery | queryRecovery | deleteRecoveryTasks =>
      simp only [perform, bind_eq_ok, checked_eq_ok, pure_eq_ok, Prod.mk.injEq] at h
      obtain ⟨_, -, rfl, rfl⟩ := h
      exact ⟨rfl, rfl⟩
  | forceTaskState | startMaintenance | drainHosts | maintenanceStatus | endMaintenance
  | performBackup | listBackups | unloadRecovery =>
      cases h
      exact ⟨rfl, rfl⟩

theorem quiet_perform_keeping (hc : Quiet c) (capacity : Nat) :
    w.perform (env.keeping capacity) p roles c = w.perform env p roles c := by
  cases c with
  | acquireLock | releaseLock | rewriteConfigs => exact hc.elim
  | _ => rfl

theorem nowMs_of_perform (h : w.perform env p roles c = .ok (w', r)) : w'.nowMs = w.nowMs := by
  obtain ⟨w₁, log, heffect, rfl, -⟩ := carried_of_perform h
  cases heffect <;> rfl

/-- The records that a command makes while it is carried out, by its answer. -/
inductive OwnRecords (env : Environment) (w : World) :
    Command → Response → List Event → Prop
  | quiet {c : Command} {r : Response} : Quiet c → r.code = .ok → OwnRecords env w c r []
  | locked {key : JobKey} {r : Response} {text : String} : r.code = .ok →
      OwnRecords env w (.acquireLock key) r
        [.of .lockAcquired w.nowMs Operation.acquireLock.name text]
  | unlocked {lock : Lock} {mode : ReleaseMode} {r : Response} : r.code = .ok →
      OwnRecords env w (.releaseLock lock mode) r
        [.of .lockReleased w.nowMs Operation.releaseLock.name lock.text]
  | silent : OwnRecords env w (.rewriteConfigs [])
      (.failed .error "No rewrite commands provided.") []
  | rewritten {commands : List Rewrite} {store : Store} {misses : List RewriteMiss} :
      commands ≠ [] → w.live.rewriteAll commands = .ok (store, misses) →
      OwnRecords env w (.rewriteConfigs commands) (rewriteAnswer misses) (missEvents w.nowMs misses)

/-- A command comes to the same end whatever room the log has; only its
records are kept or not. -/
theorem ownRecords_of_perform (h : w.perform env p roles c = .ok (w', r)) :
    ∃ own, OwnRecords env w c r own ∧ ∀ capacity,
      w.perform (env.keeping capacity) p roles c = .ok (w'.recording capacity w.events own, r) := by
  have hquiet : Quiet c → ∃ own, OwnRecords env w c r own ∧ ∀ capacity,
      w.perform (env.keeping capacity) p roles c
        = .ok (w'.recording capacity w.events own, r) := by
    intro hc
    obtain ⟨hevents, hr⟩ := quiet_perform hc h
    refine ⟨[], .quiet hc hr, fun capacity => ?_⟩
    have hsame : w'.recording capacity w.events [] = w' :=
      congrArg (fun log => { w' with events := log }) hevents.symm
    rw [quiet_perform_keeping hc, h, hsame]
  cases c with
  | acquireLock key =>
      obtain ⟨hnone, lock, hlock, rfl, rfl⟩ := acquireLock_eq_ok.mp h
      refine ⟨_, @OwnRecords.locked _ _ key _ lock.text rfl, fun capacity => ?_⟩
      exact acquireLock_eq_ok.mpr ⟨hnone, lock, hlock, rfl, rfl⟩
  | releaseLock lock mode =>
      cases mode with
      | checked =>
          obtain ⟨hlock, rfl, rfl⟩ := releaseLock_checked_eq_ok.mp h
          refine ⟨_, .unlocked rfl, fun capacity => ?_⟩
          exact releaseLock_checked_eq_ok.mpr ⟨hlock, rfl, rfl⟩
      | unchecked =>
          obtain ⟨rfl, rfl⟩ := releaseLock_unchecked_eq_ok.mp h
          refine ⟨_, .unlocked rfl, fun capacity => ?_⟩
          exact releaseLock_unchecked_eq_ok.mpr ⟨rfl, rfl⟩
  | rewriteConfigs commands =>
      by_cases hne : commands = []
      · subst hne
        cases rewriteConfigs_nil.symm.trans h
        exact ⟨_, .silent, fun _ => rfl⟩
      · obtain ⟨store, misses, hall, rfl, rfl⟩ := (rewriteConfigs_eq_ok hne).mp h
        refine ⟨_, .rewritten hne hall, fun capacity => ?_⟩
        refine (rewriteConfigs_eq_ok hne).mpr ⟨store, misses, hall, ?_, rfl⟩
        rw [foldl_record_eq, foldl_record_eq]
        rfl
  | _ => exact hquiet trivial

theorem rewriteConfigs_eq_error {commands : List Rewrite} {refusal : Refusal} :
    w.rewriteConfigs env commands = .error refusal ↔
      commands ≠ [] ∧ ∃ f, w.live.rewriteAll commands = .error f ∧ refusal = .fault f := by
  by_cases hne : commands = []
  · simp [hne, rewriteConfigs_nil]
  · cases hall : w.live.rewriteAll commands with
    | error f =>
        have hempty : commands.isEmpty = false := by simpa using hne
        simp [rewriteConfigs, hempty, hall, hne]
    | ok done =>
        have hdone : ∃ after, w.rewriteConfigs env commands = .ok after :=
          ⟨(_, _), (rewriteConfigs_eq_ok hne).mpr ⟨done.1, done.2, hall, rfl, rfl⟩⟩
        obtain ⟨after, hafter⟩ := hdone
        simp [hafter]

/-- Nor does a command fail because of the log. -/
theorem perform_keeping_of_error {refusal : Refusal} (h : w.perform env p roles c = .error refusal)
    (capacity : Nat) : w.perform (env.keeping capacity) p roles c = .error refusal := by
  cases c with
  | acquireLock key =>
      rw [perform, acquireLock, bind_eq_error] at h ⊢
      refine h.imp_right ?_
      rintro ⟨done, -, hpure⟩
      exact (pure_ne_error.mp hpure).elim
  | releaseLock lock mode =>
      cases mode with
      | checked =>
          rw [perform, releaseLock, bind_eq_error] at h ⊢
          refine h.imp_right ?_
          rintro ⟨store, -, hpure⟩
          exact (pure_ne_error.mp hpure).elim
      | unchecked => cases h
  | rewriteConfigs commands => exact rewriteConfigs_eq_error.mpr (rewriteConfigs_eq_error.mp h)
  | _ => exact h

theorem attempt_keeping_of_error {refusal : Refusal}
    (h : w.attempt env w.live request = .error refusal) (capacity : Nat) :
    w.attempt (env.keeping capacity) w.live request = .error refusal := by
  cases request with
  | view v => exact h
  | command c credential =>
      cases hpre : c.precheck with
      | error malformed =>
          cases credential with
          | none => exact h
          | some shown =>
              simp only [attempt, hpre] at h ⊢
              exact h
      | ok =>
          cases hp : authorize env w.nowMs w.live c credential with
          | error denial =>
              rw [attempt_of_denied hpre hp] at h
              rw [← h]
              exact attempt_of_denied hpre hp
          | ok p =>
              rw [attempt_of_authorized hpre hp] at h
              have hattempt : w.attempt (env.keeping capacity) w.live (.command c credential)
                  = w.perform (env.keeping capacity) p (c.targetRoles w.live) c :=
                attempt_of_authorized hpre hp
              rw [hattempt]
              exact perform_keeping_of_error h capacity

theorem OwnRecords.tells {own : List Event} (h : OwnRecords env w c r own) :
    ∀ e ∈ own, e.TellsOf w.nowMs c.operation ∧ e.kind.isOwn = true := by
  cases h with
  | quiet | silent => simp
  | locked | unlocked =>
      rintro e he
      obtain rfl := List.mem_singleton.mp he
      exact ⟨⟨rfl, rfl, rfl, rfl⟩, rfl⟩
  | rewritten =>
      rintro e he
      obtain ⟨miss, -, rfl⟩ := List.mem_map.mp he
      exact ⟨⟨rfl, rfl, rfl, rfl⟩, rfl⟩

theorem trail_of_quiet (hc : Quiet c) : Trail c.operation .ok [.mutationApplied] := by
  refine .applied c.operation_access_ne_everyone ?_ ?_ <;> cases c <;> first | exact hc.elim | nofun

theorem map_kind_missEvents (misses : List RewriteMiss) :
    (missEvents nowMs misses).map Event.kind
      = List.replicate misses.length EventKind.rewriteFailed := by
  rw [List.eq_replicate_iff]
  simp [missEvents, Event.of]

/-- With the record of the success, if it is one, the trail is complete. -/
theorem OwnRecords.trail {own : List Event} (h : OwnRecords env w c r own) :
    (r.code = .ok ∧ Trail c.operation r.code (own.map Event.kind ++ [.mutationApplied]))
      ∨ r.code ≠ .ok ∧ (Trail c.operation r.code (own.map Event.kind)
        ∨ c = .rewriteConfigs [] ∧ r.code = .error ∧ own = []) := by
  cases h with
  | quiet hc hr => exact Or.inl ⟨hr, hr ▸ trail_of_quiet hc⟩
  | locked hr => exact Or.inl ⟨hr, hr ▸ .locked⟩
  | unlocked hr => exact Or.inl ⟨hr, hr ▸ .unlocked⟩
  | silent => exact Or.inr ⟨nofun, Or.inr ⟨rfl, rfl, rfl⟩⟩
  | @rewritten commands store misses =>
      rw [code_rewriteAnswer, map_kind_missEvents]
      cases misses with
      | nil => exact Or.inl ⟨rfl, .applied (Command.operation_access_ne_everyone _) nofun nofun⟩
      | cons miss misses => exact Or.inr ⟨nofun, Or.inl .missed⟩

/-! ## What a request records -/

/-- Events are the records of a request that was answered: they tell of it,
by the rules of `Trail`, with the message of the answer; and of a batch
that was carried out in part with the messages of those commands that fail
when they are submitted alone one after the other. The only request without
records that it ought to have is a batch of no commands. -/
structure RecordsOf (env : Environment) (w : World) (request : Request) (r : Response)
    (recorded : List Event) : Prop where
  tells : ∀ e ∈ recorded, e.TellsOf w.nowMs request.operation
  answer : ∀ e ∈ recorded, e.kind.isOwn = false → e.message = r.message.getD ""
  missed : r.code = .warning → r.message = some (joined ", " (recorded.map Event.message))
    ∧ ∃ shown commands, request = rewrites shown commands
      ∧ recorded.map Event.message = failures (answers env w (alone shown commands))
  trail : Trail request.operation r.code (recorded.map Event.kind)
    ∨ (∃ shown, request = rewrites shown []) ∧ r.code = .error ∧ recorded = []

theorem recordsOf_refusal (refusal : Refusal) : RecordsOf env w request refusal.response
    [refusalEvent w.nowMs request.operation refusal] where
  tells e he := by
    obtain rfl := List.mem_singleton.mp he
    exact ⟨rfl, rfl, rfl, rfl⟩
  answer e he _ := by
    obtain rfl := List.mem_singleton.mp he
    rfl
  missed hr := by
    have htrail := trail_of_refusal (o := .getVersion) refusal
    rw [show refusal.code = .warning from hr] at htrail
    cases htrail
  trail := Or.inl (trail_of_refusal refusal)

theorem recordsOf_view {v : View} (hr : r.code = .ok) : RecordsOf env w (.view v) r [] where
  tells _ he := by cases he
  answer _ he := by cases he
  missed h := by
    rw [hr] at h
    cases h
  trail := by
    refine Or.inl (hr ▸ .viewed ?_)
    cases v <;> rfl

theorem code_of_answer {v : View} (h : w.answer v = .ok r) : r.code = .ok := by
  cases v with
  | populateJobConfig job =>
      unfold answer at h
      dsimp only at h
      split at h <;> cases h
      rfl
  | getQuota role =>
      unfold answer at h
      dsimp only at h
      split at h <;> cases h
      rfl
  | _ =>
      cases h
      rfl

/-- What an authorized batch missed is what its commands miss alone. -/
theorem messages_missEvents {commands : List Rewrite} {store : Store}
    {misses : List RewriteMiss} {shown : Credential} (hshown : env.recognise w.nowMs shown = .ok p)
    (hroot : Capability.root ∈ p.capabilities) (hne : commands ≠ [])
    (hall : w.live.rewriteAll commands = .ok (store, misses)) :
    (missEvents w.nowMs misses).map Event.message
      = failures (answers env w (alone shown commands)) := by
  obtain ⟨-, hfailures, -⟩ := run_alone hroot hshown (fun h => absurd h hne) hall
  rw [hfailures, missEvents, List.map_map]
  rfl

theorem OwnRecords.missed {own : List Event} {credential : Option Credential}
    (h : OwnRecords env w c r own) (hp : authorize env w.nowMs w.live c credential = .ok p)
    (hr : r.code = .warning) : r.message = some (joined ", " (own.map Event.message))
      ∧ ∃ shown commands, Request.command c credential = rewrites shown commands
        ∧ own.map Event.message = failures (answers env w (alone shown commands)) := by
  cases h with
  | quiet _ hok | locked hok | unlocked hok =>
      rw [hok] at hr
      cases hr
  | silent => cases hr
  | @rewritten commands store misses hne hall =>
      have hroot := root_mem_of_authorize hp rfl
      obtain ⟨shown, rfl, hshown, -⟩ := authorize_eq_ok.mp hp
      refine ⟨?_, shown, commands, rfl, messages_missEvents hshown hroot hne hall⟩
      rw [code_rewriteAnswer] at hr
      have hmissed : misses ≠ [] := by
        rintro rfl
        cases hr
      rw [rewriteAnswer, if_neg hmissed, missEvents, List.map_map]
      rfl

/-- A command that was carried out leaves its own records, and then that of
its success if it is one. -/
theorem recordsOf_command {own : List Event} {credential : Option Credential}
    (h : OwnRecords env w c r own) (hp : authorize env w.nowMs w.live c credential = .ok p) :
    RecordsOf env w (.command c credential) r
      (own ++ (successEvent w.nowMs c.operation r).toList) := by
  have htells := h.tells
  rcases h.trail with ⟨hok, htrail⟩ | ⟨hok, htrail⟩
  · obtain ⟨e, hmade, hkind, he, hmessage⟩ :=
      @successEvent_eq_some _ _ w.nowMs c.operation_access_ne_everyone hok
    rw [hmade]
    refine ⟨fun x hx => ?_, fun x hx hnot => ?_, fun hr => ?_, Or.inl ?_⟩
    · rcases List.mem_append.mp hx with hx | hx
      · exact (htells x hx).1
      · obtain rfl := List.mem_singleton.mp hx
        exact he
    · rcases List.mem_append.mp hx with hx | hx
      · rw [(htells x hx).2] at hnot
        cases hnot
      · obtain rfl := List.mem_singleton.mp hx
        exact hmessage
    · rw [hok] at hr
      cases hr
    · rw [List.map_append, Option.toList_some, List.map_singleton, hkind]
      exact htrail
  · rw [successEvent_eq_none (Or.inr hok), Option.toList_none, List.append_nil]
    refine ⟨fun x hx => (htells x hx).1, fun x hx hnot => ?_, h.missed hp, ?_⟩
    · rw [(htells x hx).2] at hnot
      cases hnot
    · refine htrail.imp_right ?_
      rintro ⟨rfl, hr, hown⟩
      obtain ⟨shown, rfl, -⟩ := authorize_eq_ok.mp hp
      exact ⟨⟨shown, rfl⟩, hr, hown⟩

theorem recordsOf_attempt (h : w.attempt env w.live request = .ok (w', r)) : ∃ own,
    RecordsOf env w request r (own ++ (successEvent w'.nowMs request.operation r).toList)
      ∧ ∀ capacity, w.attempt (env.keeping capacity) w.live request
        = .ok (w'.recording capacity w.events own, r) := by
  cases request with
  | view v =>
      have hanswer : w.answer v = .ok r ∧ w' = w := by
        rw [attempt] at h
        cases hv : w.answer v with
        | error refusal => rw [hv] at h; cases h
        | ok answer =>
            rw [hv] at h
            cases h
            exact ⟨rfl, rfl⟩
      obtain ⟨hv, rfl⟩ := hanswer
      have hnone : successEvent w'.nowMs v.operation r = none :=
        successEvent_eq_none (Or.inl (by cases v <;> rfl))
      refine ⟨[], ?_, fun _ => h⟩
      rw [Request.operation, hnone]
      exact recordsOf_view (code_of_answer hv)
  | command c credential =>
      obtain ⟨hpre, p, hp, hdone⟩ := attempt_command_eq_ok.mp h
      obtain ⟨own, hown, hkeeping⟩ := ownRecords_of_perform hdone
      rw [nowMs_of_perform hdone]
      exact ⟨own, recordsOf_command hown hp, fun capacity =>
        attempt_command_eq_ok.mpr ⟨hpre, p, hp, hkeeping capacity⟩⟩

theorem dispatch_of_attempt (h : w.attempt env w.live request = .ok (w', r)) :
    w.dispatch env request
      = ((successEvent w'.nowMs request.operation r).toList.foldl (World.record env) w', r) := by
  rw [dispatch, dispatchSeeing, h]
  dsimp only
  cases successEvent w'.nowMs request.operation r <;> rfl

/-- **Every outcome leaves its record.** Of every request certain events
are recorded, and they are those that its operation and its answer ask for;
a request does to the log, whatever room that has, what recording them in
order does, and to the rest of the world the same as ever. -/
theorem outcome_recorded : ∃ recorded, RecordsOf env w request (w.dispatch env request).2 recorded
    ∧ ∀ capacity, w.dispatch (env.keeping capacity) request
      = ((w.dispatch env request).1.recording capacity w.events recorded,
        (w.dispatch env request).2) := by
  cases h : w.attempt env w.live request with
  | error refusal =>
      rw [dispatch_of_refused h]
      refine ⟨_, recordsOf_refusal refusal, fun capacity => ?_⟩
      rw [dispatch_of_refused (attempt_keeping_of_error h capacity)]
      rfl
  | ok done =>
      obtain ⟨w', r⟩ := done
      obtain ⟨own, hrecords, hkeeping⟩ := recordsOf_attempt h
      rw [dispatch_of_attempt h]
      refine ⟨_, hrecords, fun capacity => ?_⟩
      rw [dispatch_of_attempt (hkeeping capacity), foldl_record_eq, foldl_record_eq, recording,
        recording, recording, List.foldl_append]
      rfl

/-- The batch that misses once, behind the job that was created before it. -/
example : ((oneWebServer.dispatch (rootOnly.keeping 5)
      (rewrites (.apiKey "root") urgentAndBack)).1.events.map fun e => (e.kind, e.message))
    = [(.mutationApplied, "1 new tasks pending for job www-data/prod/web"),
      (.rewriteFailed, "CAS compare failed for www-data/prod/web/0")] := by decide +kernel

/-- A batch of no commands fails, and the log stays empty. -/
theorem not_always_recorded : ¬ ∀ (env : Environment) (w : World) (request : Request),
    w.Reachable env → ∃ recorded : List Event,
      (∀ capacity, (w.dispatch (env.keeping capacity) request).1.events
        = recorded.foldl (EventLog.record capacity) w.events)
      ∧ Trail request.operation (w.dispatch env request).2.code (recorded.map Event.kind) := by
  intro hall
  obtain ⟨recorded, hlog, htrail⟩ := hall rootOnly (start 0 0 ∅ .empty)
    (rewrites (.apiKey "root") []) ⟨0, 0, ∅, [], fun _ _ => trivial, rfl⟩
  have hcode : ((start 0 0 ∅ .empty).dispatch rootOnly (rewrites (.apiKey "root") [])).2.code
      = .error := by decide +kernel
  rw [hcode] at htrail
  generalize hkinds : recorded.map Event.kind = kinds at htrail
  cases htrail with
  | failed =>
      obtain ⟨e, rfl, -⟩ := List.map_eq_singleton_iff.mp hkinds
      have hsilent : ((start 0 0 ∅ .empty).dispatch (rootOnly.keeping 1)
          (rewrites (.apiKey "root") [])).1.events.length = 0 := by decide +kernel
      rw [hlog 1] at hsilent
      exact Nat.one_ne_zero hsilent

end World

end JobControl
