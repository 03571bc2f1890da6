import JobControl.Proofs.Histories
import JobControl.Proofs.LateWrites
import JobControl.Proofs.RoleIsolation

/-!
# Kills and restarts, once and again

A restart moves those of the named instances that run or are about to run,
a kill everything that it finds and that has neither ended nor been told
to. Both report how many tasks they have moved, and leave the rest of the
store alone.

Whoever has not seen the answer sends the request again. The tasks have
moved on by then, and it is their states that queries and checks look at.
Two things make the repetition harmless. Where a task is sent it is not
sent on from, so that nothing is left to move (`settled_moveTasks`). And
what is found the second time was found the first time, with the same jobs
and owners (`of_mem_findTasks_moveTasks`), so that the checks of locks and
owners that were passed are passed again. One of them need not be: who acts
for one owner of what is found, and not for all, may have moved the tasks
of that one out of sight. A principal other than root is therefore asked to
act for all owners.
-/

namespace JobControl

/-! ## Where tasks are sent -/

/-- A task in this state runs or is about to. -/
def Status.isRestartable (s : Status) : Bool :=
  s == .assigned || s == .starting || s == .running

theorem Status.resolve_restarting (s : Status) : s.resolve .restarting =
    if s.isRestartable then some .restarting else none := by
  cases s <;> rfl

/-- From where a task is sent it is not sent on. -/
theorem Status.resolve_of_resolve {source target status : Status}
    (htarget : target = .killing ∨ target = .restarting)
    (h : source.resolve target = some status) : status.resolve target = none := by
  rcases htarget with rfl | rfl <;> cases source <;> cases h <;> rfl

/-- The task is one of certain instances of a job, and can be restarted. -/
def Task.restarts (key : JobKey) (shards : Std.ExtTreeSet Int32) (t : Task) : Bool :=
  t.jobKey == key && shards.contains t.instanceId && t.status.isRestartable

namespace Store

variable {s s' : Store} {q : TaskQuery} {stamp : Stamp} {message : Option String}
  {next : Status → Option Status} {key : JobKey} {shards : Std.ExtTreeSet Int32} {t : Task}

/-- Certain tasks have taken a step, each to its target. All others, the
templates, the locks and the allotments are those from before. -/
structure Moved (stamp : Stamp) (message : String) (moves : Task → Bool)
    (target : Status → Status) (s s' : Store) : Prop where
  tasks : ∀ id : String, s'.tasks[id]? = s.tasks[id]?.map fun t =>
    if moves t then t.enter ⟨stamp.nowMs, target t.status, some message, stamp.scheduler⟩ else t
  rest : s' = { s with tasks := s'.tasks }

/-- What meets the query has nowhere to go. -/
def Settled (s : Store) (q : TaskQuery) (next : Status → Option Status) : Prop :=
  ∀ (id : String) (t : Task), s.tasks[id]? = some t → q.isMetBy t = true → next t.status = none

theorem settled_moveTasks
    (hnext : ∀ source status, next source = some status → next status = none) :
    (s.moveTasks stamp q message next).1.Settled q next := by
  intro id t' ht' hmet
  change (s.changeTasks q (Task.move stamp message next)).tasks[id]? = some t' at ht'
  rw [getElem?_changeTasks, Option.map_eq_some_iff] at ht'
  obtain ⟨t, -, rfl⟩ := ht'
  by_cases ht : q.isMetBy t = true
  · rw [if_pos ht, Task.move]
    cases hstatus : next t.status with
    | none => exact hstatus
    | some status => exact hnext _ _ hstatus
  · rw [if_neg ht] at hmet
    exact absurd hmet ht

theorem Settled.moveTasks (h : s.Settled q next) : s.moveTasks stamp q message next = (s, 0) := by
  have hstays : ∀ t ∈ s.tasks.values.filter q.isMetBy, Task.move stamp message next t = none := by
    intro t ht
    obtain ⟨hmem, hmet⟩ := List.mem_filter.mp ht
    obtain ⟨id, hid⟩ := Table.mem_values.mp hmem
    rw [Task.move, h id t hid hmet]
    rfl
  have hnone : s.changedTasks q (Task.move stamp message next) = [] :=
    List.filterMap_eq_nil_iff.mpr hstays
  have htasks : (s.changeTasks q (Task.move stamp message next)).tasks = s.tasks := by
    refine Std.ExtTreeMap.ext_getElem? fun id => ?_
    rw [getElem?_changeTasks]
    cases ht : s.tasks[id]? with
    | none => rfl
    | some t =>
        rw [Option.map_some]
        split
        · rename_i hmet
          rw [Task.move, h id t ht hmet]
          rfl
        · rfl
  have hstore : s.changeTasks q (Task.move stamp message next) = s :=
    congrArg (fun tasks => { s with tasks := tasks }) htasks
  show (s.changeTasks q _, (s.changedTasks q _).length) = (s, 0)
  rw [hstore, hnone]
  rfl

/-- What was killed or restarted has nowhere to go. -/
theorem settled_changeState {target : Status} (htarget : target = .killing ∨ target = .restarting) :
    (s.changeState stamp q target message).1.Settled q (·.resolve target) :=
  settled_moveTasks fun _ _ => Status.resolve_of_resolve htarget

/-- What is found after a move was found before, and runs the same. -/
theorem of_mem_findTasks_moveTasks (hs : s.Filed)
    (h : t ∈ (s.moveTasks stamp q message next).1.findTasks q) :
    ∃ u ∈ s.findTasks q, t.spec = u.spec := by
  obtain ⟨ht, hmet⟩ := hs.moveTasks.tasks.mem_findTasks.mp h
  obtain ⟨u, hu, rfl | ⟨humet, status, -, rfl⟩⟩ := of_getElem?_moveTasks ht
  · exact ⟨_, hs.tasks.mem_findTasks_of_getElem? hu hmet, rfl⟩
  · exact ⟨u, hs.tasks.mem_findTasks_of_getElem? hu humet, rfl⟩

/-! ## Restarts -/

theorem mem_activeInstances {i : Int32} (hne : shards ≠ ∅) : i ∈ s.activeInstances key shards ↔
    ∃ (id : String) (t : Task), s.tasks[id]? = some t ∧ t.jobKey = key ∧ t.instanceId = i
      ∧ i ∈ shards ∧ t.status.isActive = true := by
  have hfound : ∀ t, t ∈ s.findTasks ((TaskQuery.ofJob key).instances shards).active ↔
      (∃ id : String, s.tasks[id]? = some t) ∧ t.jobKey = key ∧ t.instanceId ∈ shards
        ∧ t.status.isActive = true := by
    intro t
    rw [mem_findTasks rfl, TaskQuery.ofJob_instances_active_isMetBy, or_iff_right hne]
  simp only [activeInstances, mem_setOf, List.mem_map, hfound]
  constructor
  · rintro ⟨t, ⟨⟨id, ht⟩, hkey, hmem, hactive⟩, rfl⟩
    exact ⟨id, t, ht, hkey, rfl, hmem, hactive⟩
  · rintro ⟨id, t, ht, hkey, rfl, hmem, hactive⟩
    exact ⟨t, ⟨⟨id, ht⟩, hkey, hmem, hactive⟩, rfl⟩

theorem restarts_eq (hne : shards ≠ ∅) (t : Task) : t.restarts key shards
    = (((TaskQuery.ofJob key).instances shards).active.isMetBy t && t.status.isRestartable) := by
  have hactive : t.status.isRestartable = true → t.status.isActive = true := by
    cases t.status <;> decide
  rw [Bool.eq_iff_iff, Bool.and_eq_true, TaskQuery.ofJob_instances_active_isMetBy, Task.restarts]
  simp only [Bool.and_eq_true, beq_iff_eq, Std.ExtTreeSet.contains_iff_mem, hne, false_or]
  exact ⟨fun ⟨⟨hkey, hmem⟩, hgoes⟩ => ⟨⟨hkey, hmem, hactive hgoes⟩, hgoes⟩,
    fun ⟨⟨hkey, hmem, _⟩, hgoes⟩ => ⟨⟨hkey, hmem⟩, hgoes⟩⟩

theorem activeInstances_changeState_restarting (hne : shards ≠ ∅) {i : Int32}
    (h : i ∈ s.activeInstances key shards) :
    i ∈ (s.changeState stamp q .restarting message).1.activeInstances key shards := by
  obtain ⟨id, t, ht, hkey, hid, hmem, hactive⟩ := (mem_activeInstances hne).mp h
  have hafter : (s.changeState stamp q .restarting message).1.tasks[id]? = _ :=
    getElem?_moveTasks_of_rule Status.resolve_restarting
  rw [ht, Option.map_some] at hafter
  refine (mem_activeInstances hne).mpr ⟨id, _, hafter, ?_⟩
  split
  · exact ⟨hkey, hid, hmem, rfl⟩
  · exact ⟨hkey, hid, hmem, hactive⟩

theorem moved_restarting (hne : shards ≠ ∅) {message : String} :
    s.Moved stamp message (Task.restarts key shards) (fun _ => .restarting)
      (s.changeState stamp ((TaskQuery.ofJob key).instances shards).active .restarting
        (some message)).1 where
  tasks id := by
    simp only [restarts_eq hne]
    exact getElem?_moveTasks_of_rule Status.resolve_restarting
  rest := rfl

theorem count_restarting (hne : shards ≠ ∅) :
    (s.changeState stamp ((TaskQuery.ofJob key).instances shards).active .restarting message).2
      = (s.tasks.values.filter (Task.restarts key shards)).length := by
  simp only [funext (restarts_eq hne)]
  exact count_moveTasks_of_rule Status.resolve_restarting

/-! ## Kills -/

theorem moved_killing {message : String} :
    s.Moved stamp message q.kills Status.whenKilled
      (s.changeState stamp q .killing (some message)).1 where
  tasks _ := getElem?_changeState_killing
  rest := rfl

/-- What a kill finds has ended afterwards, or has been told to; everything
else is as it was. -/
theorem Moved.killed {message : String} {id : String}
    (h : s.Moved stamp message q.kills Status.whenKilled s') (ht : s.tasks[id]? = some t) :
    (q.isMetBy t = true → ∃ t', s'.tasks[id]? = some t'
        ∧ (t'.status.isTerminal = true ∨ t'.status = .killing))
      ∧ (q.isMetBy t = false → s'.tasks[id]? = some t) := by
  have hafter := h.tasks id
  rw [ht, Option.map_some] at hafter
  constructor
  · intro hmet
    refine ⟨_, hafter, ?_⟩
    rw [TaskQuery.kills, hmet, Bool.true_and]
    cases hstatus : t.status <;> simp [hstatus, Task.enter, Status.whenKilled,
      Status.isTerminal, Status.isUnassigned]
  · intro hmet
    rw [hafter, TaskQuery.kills, hmet, Bool.false_and]
    rfl

end Store

namespace World

variable {env : Environment} {w : World} {p : Principal} {c : Command} {request : Request}
  {answer : Response} {nowMs : Int64} {credential : Option Credential} {q : TaskQuery}
  {key : JobKey} {shards : Std.ExtTreeSet Int32} {held : Option Lock}

/-! ## The same request again -/

/-- Whoever sends the request again some time later, and is recognised as
the same principal, gets this answer; nothing changes but the log. -/
def Repeats (env : Environment) (w : World) (request : Request) (p : Principal)
    (answer : Response) : Prop :=
  ∀ ms, request.sender? env (w.nowMs + ms) = some p →
    ((w.advance ms).dispatch env request).2 = answer
      ∧ ∃ log, ((w.advance ms).dispatch env request).1 = { w.advance ms with events := log }

theorem sender?_eq_some : (Request.command c credential).sender? env nowMs = some p ↔
    ∃ shown, credential = some shown ∧ env.recognise nowMs shown = .ok p := by
  cases credential with
  | none => simp [Request.sender?]
  | some shown =>
      rw [Request.sender?]
      cases h : env.recognise nowMs shown <;> simp [Except.toOption, h]

/-- What is carried out on a committed store, and leaves it, leaves
everything. -/
theorem repeats_of_perform {store : Store} {log : EventLog} (hpre : c.precheck = .ok ())
    (hcheck : p.check (c.targetRoles store) c.operation.access = .ok p)
    (hperform : ∀ v : World, v.live = store →
      v.perform env p (c.targetRoles store) c = .ok (v.commit store, answer)) :
    Repeats env { w.commit store with events := log } (.command c credential) p answer := by
  intro ms hsender
  obtain ⟨shown, rfl, hshown⟩ := sender?_eq_some.mp hsender
  have hp : authorize env (w.nowMs + ms) store c (some shown) = .ok p :=
    authorize_eq_ok.mpr ⟨shown, rfl, hshown, hcheck⟩
  exact dispatch_of_done ((attempt_of_authorized hpre hp).trans (hperform _ rfl))

/-! ## Restarts -/

/-- The answer to a restart of instances, a number of which were moved. -/
def restartedAnswer (moved : Nat) (shards : Std.ExtTreeSet Int32) : Response :=
  .done ("Shards are restarting. " ++ toString moved ++ " of " ++ toString shards.size
    ++ " shards restarted.") []

theorem restartShards_of_settled (hvalid : key.isValid = true) (hne : shards.isEmpty = false)
    (hlock : w.live.checkLock key held = .ok ())
    (hactive : ∀ i ∈ shards, i ∈ w.live.activeInstances key shards)
    (hsettled : w.live.Settled ((TaskQuery.ofJob key).instances shards).active
      (·.resolve .restarting)) :
    w.restartShards p key shards held = .ok (w.commit w.live, restartedAnswer 0 shards) := by
  refine restartShards_eq_ok.mpr ⟨hvalid, hne, hlock, hactive, ?_⟩
  have hmoved : w.live.changeState w.stamp ((TaskQuery.ofJob key).instances shards).active
      .restarting (some ("Restarted by " ++ p.name)) = (w.live, 0) := hsettled.moveTasks
  rw [hmoved]
  exact ⟨rfl, rfl⟩

theorem restarted_once {w' : World} {r : Response} {log : EventLog} {roles : Names}
    (hcheck : p.check (setOf [key.role]) .jobOwner = .ok p)
    (h : w.perform env p roles (.restartShards key shards held) = .ok (w', r)) :
    ∃ store, w' = w.commit store
      ∧ w.live.Moved w.stamp ("Restarted by " ++ p.name) (Task.restarts key shards)
        (fun _ => .restarting) store
      ∧ r = restartedAnswer (w.live.tasks.values.filter (Task.restarts key shards)).length shards
      ∧ (∀ i ∈ shards, ∃ (id : String) (t : Task), w.live.tasks[id]? = some t ∧ t.jobKey = key
        ∧ t.instanceId = i ∧ t.status.isActive = true)
      ∧ Repeats env { w.commit store with events := log }
        (.command (.restartShards key shards held) credential) p (restartedAnswer 0 shards) := by
  obtain ⟨hvalid, hne, hlock, hactive, rfl, rfl⟩ := restartShards_eq_ok.mp h
  have hshards : shards ≠ ∅ := fun hempty => by simp [hempty] at hne
  refine ⟨_, rfl, Store.moved_restarting hshards, ?_, fun i hi => ?_, ?_⟩
  · rw [Store.count_restarting hshards]
    rfl
  · obtain ⟨id, t, ht, hkey, hid, -, hstatus⟩ :=
      (Store.mem_activeInstances hshards).mp (hactive i hi)
    exact ⟨id, t, ht, hkey, hid, hstatus⟩
  · refine repeats_of_perform rfl hcheck fun v hv => ?_
    rw [← hv]
    refine restartShards_of_settled hvalid hne ?_ (fun i hi => ?_) ?_ <;> rw [hv]
    · exact hlock
    · exact Store.activeInstances_changeState_restarting hshards (hactive i hi)
    · exact Store.settled_changeState (Or.inr rfl)

/-! ## Kills -/

/-- The answer to a kill of a number of tasks. -/
def killedAnswer (moved : Nat) : Response :=
  .done ("Killed " ++ toString moved ++ " tasks.") []

/-- Who acts for all owners of what was found may kill what is found of it
later on. -/
theorem actsFor_ownersOf {s s' : Store} (h : p.actsFor (s.ownersOf q) = true)
    (hown : ∀ t ∈ s.findTasks q, t.role ∈ p.roles)
    (hfound : ∀ t ∈ s'.findTasks q, ∃ u ∈ s.findTasks q, t.spec = u.spec) :
    p.actsFor (s'.ownersOf q) = true := by
  rw [Principal.actsFor_iff]
  by_cases hnone : s'.ownersOf q = ∅
  · exact Or.inl hnone
  · have hsome : ∃ role, role ∈ s'.ownersOf q := Classical.byContradiction fun h =>
      hnone (Std.ExtTreeSet.eq_empty_iff_forall_not_mem.mpr (not_exists.mp h))
    obtain ⟨role, hrole⟩ := hsome
    refine Or.inr ⟨role, hrole, ?_⟩
    rcases Store.mem_ownersOf.mp hrole with ⟨t, ht, rfl⟩ | hnamed
    · obtain ⟨u, hu, hspec⟩ := hfound t ht
      rw [Task.role, hspec]
      exact hown u hu
    · -- the query names the role, so that it is the only owner
      have howner : role ∈ s.ownersOf q := Store.mem_ownersOf.mpr (Or.inr hnamed)
      rcases Principal.actsFor_iff.mp h with hempty | ⟨first, hfirst, hacts⟩
      · rw [hempty] at howner
        exact absurd howner Std.ExtTreeSet.not_mem_empty
      · rcases Store.mem_ownersOf.mp hfirst with ⟨u, hu, rfl⟩ | hsame
        · rwa [← TaskQuery.role_of_isMetBy (Store.isMetBy_of_mem_findTasks hu) hnamed]
        · rw [hnamed] at hsame
          cases hsame
          exact hacts

theorem killTasks_of_settled
    (hlocks : ∀ t ∈ w.live.findTasks q, w.live.checkLock t.jobKey held = .ok ())
    (hsettled : w.live.Settled q (·.resolve .killing)) :
    w.killTasks p (w.live.ownersOf q) q held = .ok (w.commit w.live, killedAnswer 0) := by
  refine killTasks_eq_ok.mpr ⟨Or.inr fun t ht => ?_, checkLocks_findTasks_eq_ok.mpr hlocks, ?_⟩
  · exact Store.mem_ownersOf.mpr (Or.inl ⟨t, ht, rfl⟩)
  · have hmoved : w.live.changeState w.stamp q .killing (some ("Killed by " ++ p.name))
        = (w.live, 0) := hsettled.moveTasks
    rw [hmoved]
    exact ⟨rfl, rfl⟩

theorem killed_once {w' : World} {r : Response} {log : EventLog} (hfiled : w.live.Filed)
    (hpre : (Command.killTasks q held).precheck = .ok ())
    (hcheck : p.check (w.live.ownersOf q) .taskOwnersOrRoot = .ok p)
    (h : w.perform env p (w.live.ownersOf q) (.killTasks q held) = .ok (w', r)) :
    ∃ store, w' = w.commit store
      ∧ w.live.Moved w.stamp ("Killed by " ++ p.name) q.kills Status.whenKilled store
      ∧ r = killedAnswer (w.live.tasks.values.filter q.kills).length
      ∧ ((p.holds .root = true ∨ ∀ t ∈ w.live.findTasks q, t.role ∈ p.roles) →
        Repeats env { w.commit store with events := log }
          (.command (.killTasks q held) credential) p (killedAnswer 0)) := by
  obtain ⟨-, hlocks, rfl, rfl⟩ := killTasks_eq_ok.mp h
  refine ⟨_, rfl, Store.moved_killing, ?_, fun hown => ?_⟩
  · rw [Store.count_changeState_killing]
    rfl
  · have hfound : ∀ t ∈ (w.live.changeState w.stamp q .killing
        (some ("Killed by " ++ p.name))).1.findTasks q, ∃ u ∈ w.live.findTasks q, t.spec = u.spec :=
      fun _ => Store.of_mem_findTasks_moveTasks hfiled
    have hmay : p.holds .root = true ∨ p.actsFor ((w.live.changeState w.stamp q .killing
        (some ("Killed by " ++ p.name))).1.ownersOf q) = true := by
      rcases hown with hroot | hown
      · exact Or.inl hroot
      · exact (Principal.check_taskOwnersOrRoot_eq_ok.mp hcheck).imp_right fun hacts =>
          actsFor_ownersOf hacts hown hfound
    refine repeats_of_perform hpre (Principal.check_taskOwnersOrRoot_eq_ok.mpr hmay)
      fun v hv => ?_
    rw [← hv]
    refine killTasks_of_settled (fun t ht => ?_) ?_
    · rw [hv] at ht ⊢
      obtain ⟨u, hu, hspec⟩ := hfound t ht
      have hkey : t.jobKey = u.jobKey := congrArg TaskSpec.jobKey hspec
      rw [hkey]
      exact checkLocks_findTasks_eq_ok.mp hlocks u hu
    · rw [hv]
      exact Store.settled_changeState (Or.inl rfl)

/-- **Kills and restarts move just the tasks that they are about, and a
second time none.** A restart that is answered as a success moves those of
the named instances that can be restarted, and every instance that it names
had an active task. After such a kill everything that was found has ended
or has been told to, and nothing else has changed. Both report how many
tasks they have moved. The same request once more, by the same principal,
is a success again, moves nothing and reports this; to repeat a kill the
principal has to be root or to act for all owners of what was found. -/
theorem moved_exactly_once (hw : w.Reachable env) :
    (∀ key shards held credential,
      let request := Request.command (.restartShards key shards held) credential
      let done := w.dispatch env request
      done.2.code = .ok → ∃ p store log, request.sender? env w.nowMs = some p
        ∧ done.1 = { w.commit store with events := log }
        ∧ w.live.Moved w.stamp ("Restarted by " ++ p.name) (Task.restarts key shards)
          (fun _ => .restarting) store
        ∧ done.2
          = restartedAnswer (w.live.tasks.values.filter (Task.restarts key shards)).length shards
        ∧ (∀ i ∈ shards, ∃ (id : String) (t : Task), w.live.tasks[id]? = some t
          ∧ t.jobKey = key ∧ t.instanceId = i ∧ t.status.isActive = true)
        ∧ done.1.Repeats env request p (restartedAnswer 0 shards))
      ∧ ∀ q held credential,
        let request := Request.command (.killTasks q held) credential
        let done := w.dispatch env request
        done.2.code = .ok → ∃ p store log, request.sender? env w.nowMs = some p
          ∧ done.1 = { w.commit store with events := log }
          ∧ w.live.Moved w.stamp ("Killed by " ++ p.name) q.kills Status.whenKilled store
          ∧ done.2 = killedAnswer (w.live.tasks.values.filter q.kills).length
          ∧ (∀ (id : String) (t : Task), w.live.tasks[id]? = some t →
            (q.isMetBy t = true → ∃ t', store.tasks[id]? = some t'
                ∧ (t'.status.isTerminal = true ∨ t'.status = .killing))
              ∧ (q.isMetBy t = false → store.tasks[id]? = some t))
          ∧ ((p.holds .root = true ∨ ∀ (id : String) (t : Task), w.live.tasks[id]? = some t →
              q.isMetBy t = true → t.role ∈ p.roles) →
            done.1.Repeats env request p (killedAnswer 0)) := by
  have hfiled := hw.filed.live
  constructor
  · intro key shards held credential request done hok
    obtain ⟨w', log, hdone, hafter⟩ := attempt_of_ok hok
    obtain ⟨-, p, hp, hperform⟩ := attempt_command_eq_ok.mp hdone
    obtain ⟨shown, -, -, hcheck⟩ := authorize_eq_ok.mp hp
    obtain ⟨store, rfl, hmoved, hanswer, hactive, hagain⟩ := restarted_once hcheck hperform
    change done.1 = _ at hafter
    refine ⟨p, store, log, sender?_of_authorize hp, hafter, hmoved, hanswer, hactive, ?_⟩
    rw [hafter]
    exact hagain
  · intro q held credential request done hok
    obtain ⟨w', log, hdone, hafter⟩ := attempt_of_ok hok
    obtain ⟨hpre, p, hp, hperform⟩ := attempt_command_eq_ok.mp hdone
    obtain ⟨shown, -, -, hcheck⟩ := authorize_eq_ok.mp hp
    obtain ⟨store, rfl, hmoved, hanswer, hagain⟩ := killed_once hfiled hpre hcheck hperform
    change done.1 = _ at hafter
    refine ⟨p, store, log, sender?_of_authorize hp, hafter, hmoved, hanswer,
      fun id t => hmoved.killed, fun hown => ?_⟩
    rw [hafter]
    refine hagain (hown.imp_right fun hown t ht => ?_)
    obtain ⟨hat, hmet⟩ := hfiled.tasks.mem_findTasks.mp ht
    exact hown t.id t hat hmet

/-- Root kills everything. -/
def killAll : Request := .command (.killTasks .everything none) (some (.apiKey "root"))

/-- One task of the shop runs and one waits. The one that runs is restarted
once, and both are killed once. -/
theorem moved_exactly_once_in_shop :
    let restarted := oneRuns.dispatch rootOnly restartSecond
    let killed := oneRuns.dispatch rootOnly killAll
    oneRuns.Reachable rootOnly
      ∧ restarted.2.message = some "Shards are restarting. 1 of 1 shards restarted."
      ∧ ((restarted.1.advance 1000).dispatch rootOnly restartSecond).2.message
        = some "Shards are restarting. 0 of 1 shards restarted."
      ∧ killed.2.message = some "Killed 2 tasks."
      ∧ ((killed.1.advance 1000).dispatch rootOnly killAll).2.message
        = some "Killed 0 tasks." := by
  dsimp only
  have hreached : oneRuns.Reachable rootOnly := ⟨0, 0, ∅, _, fun _ _ => trivial, rfl⟩
  obtain ⟨hrestarts, hkills⟩ := moved_exactly_once hreached
  have hrestarted : (oneRuns.dispatch rootOnly restartSecond).2.message
      = some "Shards are restarting. 1 of 1 shards restarted." := by decide +kernel
  have hkilled : (oneRuns.dispatch rootOnly killAll).2.message = some "Killed 2 tasks." := by
    decide +kernel
  obtain ⟨p, -, -, hp, -, -, -, -, hagain⟩ :=
    hrestarts shopJob.key (setOf [1]) none (some (.apiKey "root")) (by decide +kernel)
  obtain ⟨r, -, -, hr, -, -, -, -, hagain'⟩ :=
    hkills .everything none (some (.apiKey "root")) (by decide +kernel)
  cases hp
  cases hr
  have hfirst := (hagain 1000 rfl).1
  have hsecond := (hagain' (Or.inl (by decide +kernel)) 1000 rfl).1
  rw [← restartSecond] at hfirst
  rw [← killAll] at hsecond
  exact ⟨hreached, hrestarted, congrArg Response.message hfirst, hkilled,
    congrArg Response.message hsecond⟩

end World

end JobControl
