import JobControl.Proofs.Mediation

/-!
# The last word on a host

Three operations give modes to hosts, each to the hosts that it names, and
a fourth reports them. The mode of a host is therefore that which the last
of the three gave it that named it and was let through; `lastMode` says so
in terms of the run, without the table in which the modes are kept. What a
drain gives depends on the tasks of that moment: a host that was draining
is not looked at again when the last of its tasks has ended.

The carrying lemma is that of one request, `modeOf_of_answered`. It rests on
`Effect`: no command but the three has anything to do with hosts.
-/

namespace JobControl

namespace TaskQuery

/-- The active tasks on a host. -/
theorem ofHost_active_isMetBy {host : String} {t : Task} :
    (ofHost host).active.isMetBy t = true ↔ t.host = some host ∧ t.status.isActive = true := by
  rw [isMetBy_iff]
  simp only [ofHost, everything, active, Option.mem_def, Option.some.injEq, forall_eq',
    mem_setOf, Status.mem_active, setOf_active_ne_empty, false_or, true_or, true_and,
    reduceCtorEq, false_implies, implies_true, and_comm]

end TaskQuery

namespace HostModes

variable {modes : HostModes} {hosts : Names} {host : String} {mode : String → HostMode}

theorem getElem?_report :
    (modes.report hosts)[host]? = if host ∈ hosts then some (modes.modeOf host) else none := by
  rw [report, Table.ofEntries, List.foldl_map, Table.getElem?_foldl_insert,
    Std.ExtTreeMap.getElem?_empty]
  simp only [Std.ExtTreeSet.mem_toList]

theorem modeOf_eq : modes.modeOf host = (modes[host]?).getD .normal :=
  Std.ExtTreeMap.getD_eq_getD_getElem?

theorem modeOf_assign : (modes.assign hosts mode).modeOf host =
    if host ∈ hosts then mode host else modes.modeOf host := by
  rw [modeOf_eq, assign, Table.getElem?_foldl_insert, modeOf_eq]
  simp only [Std.ExtTreeSet.mem_toList]
  split <;> rfl

theorem modeOf_release : (modes.release hosts).modeOf host =
    if host ∈ hosts then .normal else modes.modeOf host := by
  rw [modeOf_eq, release, Table.getElem?_foldl_erase, modeOf_eq]
  simp only [Std.ExtTreeSet.mem_toList]
  split <;> rfl

end HostModes

/-- An active task is on the host. -/
def Store.isBusy (s : Store) (host : String) : Bool :=
  s.tasks.values.any fun t => t.status.isActive && t.host == some host

theorem Store.drainMode_eq {s : Store} {host : String} :
    s.drainMode host = if s.isBusy host then .draining else .drained := by
  have hidle : (s.findTasks (TaskQuery.ofHost host).active).isEmpty = !s.isBusy host := by
    rw [findTasks_eq_filter rfl, Bool.eq_iff_iff, List.isEmpty_iff, List.filter_eq_nil_iff,
      Bool.not_eq_true', isBusy, List.any_eq_false]
    refine forall₂_congr fun t _ => not_congr ?_
    rw [TaskQuery.ofHost_active_isMetBy, Bool.and_eq_true, beq_iff_eq, and_comm]
  rw [drainMode, hidle]
  cases s.isBusy host <;> rfl

namespace Command

/-- The hosts that a command on hosts is about. -/
def hosts? : Command → Option Names
  | .startMaintenance hosts | .drainHosts hosts | .maintenanceStatus hosts
  | .endMaintenance hosts => some hosts
  | _ => none

/-- The mode that a command gives to a host in a world, if it gives it one. -/
def givenMode? (w : World) (host : String) : Command → Option HostMode
  | .startMaintenance hosts => if host ∈ hosts then some .scheduled else none
  | .drainHosts hosts =>
    if host ∈ hosts then some (if w.live.isBusy host then .draining else .drained) else none
  | .endMaintenance hosts => if host ∈ hosts then some .normal else none
  | _ => none

end Command

/-- The mode that a request gives to a host in a world, if it is answered
like this. -/
def Request.givenMode? (host : String) (w : World) (request : Request) (r : Response) :
    Option HostMode :=
  match request with
  | .command c _ => if r.code = .ok then c.givenMode? w host else none
  | .view _ => none

/-- The answer lists certain hosts, and no others, with these modes. -/
def Response.Reports (r : Response) (hosts : Names) (mode : String → HostMode) : Prop :=
  ∃ modes : HostModes, r = .found (.hosts modes)
    ∧ ∀ host : String, modes[host]? = if host ∈ hosts then some (mode host) else none

namespace World

variable {env : Environment} {w w' : World} {p : Principal} {roles hosts : Names} {c : Command}
  {r : Response} {seen : Store} {request : Request} {host : String}
  {credential : Option Credential}

/-! ## One request -/

theorem reports_hostResponse {modes : HostModes} :
    (hostResponse modes hosts).Reports hosts modes.modeOf :=
  ⟨_, rfl, fun _ => HostModes.getElem?_report⟩

theorem modeOf_rehosted : ((w.rehosted? c).getD w.hosts).modeOf host
    = (c.givenMode? w host).getD (w.hosts.modeOf host) := by
  cases c with
  | startMaintenance hosts =>
      refine HostModes.modeOf_assign.trans ?_
      rw [Command.givenMode?]
      split <;> rfl
  | drainHosts hosts =>
      refine HostModes.modeOf_assign.trans ?_
      rw [Command.givenMode?, Store.drainMode_eq]
      split <;> rfl
  | endMaintenance hosts =>
      refine HostModes.modeOf_release.trans ?_
      rw [Command.givenMode?]
      split <;> rfl
  | _ => rfl

theorem hosts_of_perform (h : w.perform env p roles c = .ok (w', r)) :
    w'.hosts = (w.rehosted? c).getD w.hosts := by
  cases c with
  | startMaintenance | drainHosts | endMaintenance | maintenanceStatus =>
      cases h
      rfl
  | _ =>
      obtain ⟨w₁, log, heffect, rfl, -⟩ := carried_of_perform h
      cases heffect with
      | rehosted hmodes => cases hmodes
      | _ => rfl

/-- What is carried out on hosts is a success and reports them. -/
theorem reports_of_perform (hc : c.hosts? = some hosts)
    (h : w.perform env p roles c = .ok (w', r)) :
    r.code = .ok ∧ r.Reports hosts w'.hosts.modeOf ∧ w'.live = w.live
      ∧ w'.committed = w.committed := by
  cases c with
  | startMaintenance | drainHosts | endMaintenance | maintenanceStatus =>
      cases hc
      cases h
      exact ⟨rfl, reports_hostResponse, rfl, rfl⟩
  | _ => cases hc

/-- **A request leaves a host in the mode that it gives it**, and without
one in the mode that it was in. -/
theorem modeOf_of_answered (h : Answered env seen w request w' r) :
    w'.hosts.modeOf host = (request.givenMode? host w r).getD (w.hosts.modeOf host) := by
  cases h with
  | @refused request refusal =>
      cases request with
      | view => rfl
      | command c credential =>
          have hcode : refusal.response.code ≠ .ok := Refusal.code_ne_ok refusal
          rw [Request.givenMode?, if_neg hcode]
          rfl
  | viewed => rfl
  | @carried c credential p w₁ _ log hpre hp hdone =>
      change w₁.hosts.modeOf host = _
      rw [hosts_of_perform hdone, modeOf_rehosted, Request.givenMode?]
      split
      · rfl
      · rename_i hcode
        cases hc : c.hosts? with
        | some hosts => exact absurd (reports_of_perform hc hdone).1 hcode
        | none =>
            cases c with
            | startMaintenance | drainHosts | endMaintenance => cases hc
            | _ => rfl

theorem access_of_hosts? (hc : c.hosts? = some hosts) :
    c.operation.access = .holder .machineMaintainer := by
  cases c <;> cases hc <;> rfl

/-- An operation on hosts that comes from somebody who maintains machines
is carried out, and reports the modes in which it leaves the hosts. -/
theorem reports_of_grants (hc : c.hosts? = some hosts)
    (hgrants : env.Grants w.nowMs .machineMaintainer credential) :
    (w.dispatch env (.command c credential)).2.code = .ok
      ∧ (w.dispatch env (.command c credential)).2.Reports hosts
        (w.dispatch env (.command c credential)).1.hosts.modeOf := by
  have hpre : c.precheck = .ok () := by cases c <;> cases hc <;> rfl
  obtain ⟨p, hattempt⟩ := attempt_of_grants hpre (access_of_hosts? hc) hgrants
  obtain ⟨w', r, hdone⟩ : ∃ w' r, w.perform env p (c.targetRoles w.live) c = .ok (w', r) := by
    cases c <;> cases hc <;> exact ⟨_, _, rfl⟩
  obtain ⟨hanswer, log, hafter⟩ := dispatch_of_done (hattempt.trans hdone)
  obtain ⟨hcode, hreports, -⟩ := reports_of_perform hc hdone
  rw [hanswer, hafter]
  exact ⟨hcode, hreports⟩

theorem Answered.stores_of_hosts? (hc : c.hosts? = some hosts)
    (h : Answered env seen w (.command c credential) w' r) :
    w'.live = w.live ∧ w'.committed = w.committed := by
  cases h with
  | refused => exact ⟨rfl, rfl⟩
  | carried _ _ hdone => exact (reports_of_perform hc hdone).2.2

/-- To ask for the modes of hosts changes none. -/
theorem modeOf_of_status :
    (w.dispatch env (.command (.maintenanceStatus hosts) credential)).1.hosts.modeOf
      = w.hosts.modeOf := by
  funext host
  rw [modeOf_of_answered answered_dispatch, Request.givenMode?]
  split <;> rfl

/-! ## Runs -/

/-- The mode that was given to a host last in a run; without one it is in
normal use. -/
def lastMode (env : Environment) (w : World) (inputs : List Input) (host : String) : HostMode :=
  (w.gather (Request.givenMode? host) env inputs).getLast?.getD .normal

theorem modeOf_run : ∀ {inputs : List Input} {w : World}, (w.run env inputs).hosts.modeOf host
    = (w.gather (Request.givenMode? host) env inputs).getLast?.getD (w.hosts.modeOf host)
  | [], _ => rfl
  | .request request :: inputs, w => by
      have hrest := @modeOf_run inputs (w.dispatch env request).1
      rw [modeOf_of_answered answered_dispatch] at hrest
      rw [gather_request, List.getLast?_append]
      refine hrest.trans ?_
      cases ((w.dispatch env request).1.gather (Request.givenMode? host) env inputs).getLast? with
      | some mode => rfl
      | none => cases request.givenMode? host w (w.dispatch env request).2 <;> rfl
  | .pause ms :: inputs, w => @modeOf_run inputs (w.advance ms)

theorem modeOf_run_start {nowMs : Int64} {issued : Nat} {files : Files} {s : Store}
    {inputs : List Input} : ((start nowMs issued files s).run env inputs).hosts.modeOf host
      = (start nowMs issued files s).lastMode env inputs host := by
  rw [modeOf_run, lastMode]
  rfl

/-- A request that does not name a host is not the last word on it. -/
theorem lastMode_of_not_named {inputs : List Input} (hc : c.hosts? = some hosts)
    (hhost : host ∉ hosts) : w.lastMode env (inputs ++ [.request (.command c credential)]) host
      = w.lastMode env inputs host := by
  have hnone : ∀ v : World, c.givenMode? v host = none := by
    intro v
    cases c <;> cases hc <;> first | exact if_neg hhost | rfl
  rw [lastMode, gather_append, gather_request, gather_nil, Request.givenMode?, hnone, ite_self,
    Option.toList_none, List.append_nil, List.append_nil, lastMode]

/-- **The mode of a host is what the last operation on it made it.** After
any run from any store, the status of some hosts tells of each the mode
that it was given last, or that it is in normal use; an operation on hosts
is a success if it comes from somebody who may maintain machines, and then
tells the modes in which it leaves the hosts that it names, and of no
others; it leaves all other hosts, and the store, as they were. -/
theorem hosts_in_last_mode (nowMs : Int64) (issued : Nat) (files : Files) (s : Store)
    (inputs : List Input) (c : Command) (hosts : Names) (hc : c.hosts? = some hosts)
    (credential : Option Credential) :
    let first := start nowMs issued files s
    let w := first.run env inputs
    let request := Request.command c credential
    (env.Grants w.nowMs .machineMaintainer credential →
        (w.dispatch env (.command (.maintenanceStatus hosts) credential)).2.Reports hosts
          (first.lastMode env inputs)
        ∧ (w.dispatch env request).2.Reports hosts
          (first.lastMode env (inputs ++ [.request request])))
      ∧ ((w.dispatch env request).2.code = .ok ↔ env.Grants w.nowMs .machineMaintainer credential)
      ∧ (∀ host ∉ hosts, first.lastMode env (inputs ++ [.request request]) host
          = first.lastMode env inputs host)
      ∧ (w.dispatch env request).1.live = w.live
      ∧ (w.dispatch env request).1.committed = w.committed := by
  intro first w request
  have hbefore : w.hosts.modeOf = first.lastMode env inputs := funext fun _ => modeOf_run_start
  have hrun : (w.dispatch env request).1 = first.run env (inputs ++ [.request request]) := by
    rw [run_append]
    rfl
  have hafter : (w.dispatch env request).1.hosts.modeOf
      = first.lastMode env (inputs ++ [.request request]) := by
    rw [hrun]
    exact funext fun _ => modeOf_run_start
  refine ⟨fun hgrants => ⟨?_, ?_⟩,
    ⟨grants_of_ok (access_of_hosts? hc), fun hgrants => (reports_of_grants hc hgrants).1⟩,
    fun host hhost => lastMode_of_not_named hc hhost, answered_dispatch.stores_of_hosts? hc⟩
  · have hstatus := (reports_of_grants (w := w) (c := .maintenanceStatus hosts) rfl hgrants).2
    rwa [modeOf_of_status, hbefore] at hstatus
  · exact hafter ▸ (reports_of_grants hc hgrants).2

/-! ## A host that is drained twice -/

/-- A web server runs on the first host. -/
def servingOnA : Store :=
  Store.empty.saveTasks [{ Task.waiting (Job.plain ⟨"www-data", "prod", "web"⟩ "root" 1).task
    0 0 "token" none with host := some "a", status := .running }]

/-- Three hosts are to be maintained, and two of them are drained; then the
server ends, and the third host is given back. -/
def maintainedInputs : List Input :=
  let byRoot (c : Command) : Input := .request (.command c (some (.apiKey "root")))
  [byRoot (.startMaintenance (setOf ["a", "b", "c"])), byRoot (.drainHosts (setOf ["a", "b"])),
    byRoot (.forceTaskState "0-www-data-prod-web-0-token" .finished), .pause 1000,
    byRoot (.endMaintenance (setOf ["c"]))]

/-- The first host is still draining after its server has ended, and is
drained when it is drained again. -/
theorem hosts_in_last_mode_drained_again :
    let root := some (Credential.apiKey "root")
    let c := Command.drainHosts (setOf ["a", "c"])
    let first := start 0 0 ∅ servingOnA
    let w := first.run rootOnly maintainedInputs
    let status := w.dispatch rootOnly (.command (.maintenanceStatus (setOf ["a", "c"])) root)
    let drained := w.dispatch rootOnly (.command c root)
    let inputs := maintainedInputs ++ [.request (.command c root)]
    c.hosts? = some (setOf ["a", "c"]) ∧ rootOnly.Grants w.nowMs .machineMaintainer root
      ∧ status.2.Reports (setOf ["a", "c"]) (first.lastMode rootOnly maintainedInputs)
      ∧ drained.2.Reports (setOf ["a", "c"]) (first.lastMode rootOnly inputs)
      ∧ ["a", "b", "c"].map (first.lastMode rootOnly maintainedInputs)
        = [.draining, .drained, .normal]
      ∧ ["a", "b", "c"].map (first.lastMode rootOnly inputs) = [.drained, .drained, .drained] := by
  intro root c first w status drained inputs
  have hgrants : rootOnly.Grants w.nowMs .machineMaintainer root :=
    ⟨_, _, rfl, rfl, Or.inl (by decide +kernel)⟩
  obtain ⟨hstatus, hdrained⟩ := (hosts_in_last_mode 0 0 ∅ servingOnA maintainedInputs c
    (setOf ["a", "c"]) rfl root).1 hgrants
  exact ⟨rfl, hgrants, hstatus, hdrained, by decide +kernel, by decide +kernel⟩

end World

end JobControl
