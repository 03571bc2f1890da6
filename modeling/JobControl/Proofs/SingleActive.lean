import JobControl.Proofs.Identifiers

/-!
# At most one active task per instance

Tasks are launched in three ways, and each way has its own check that no
active task is there already. As all three checks come down to `Ready`, a
launch never leads to two active tasks of one instance. No other request
makes an ended task active again, or changes what instance a task is,
except two: a task can be forced into any state, and a rewrite can take it
to another job. Without these there is at most one active task of an
instance, in the store and in every copy that is ever made of it.
-/

namespace JobControl

/-- The instance that a task is. -/
def Task.instanceKey (t : Task) : InstanceKey := ⟨t.jobKey, t.instanceId⟩

/-- A rewrite that finds the job it names does not lead to another job. -/
def Rewrite.KeepsJob : Rewrite → Prop
  | .job _ _ => True
  | .task key expected replacement =>
    expected.jobKey = key.job → replacement.jobKey = key.job

/-- What such a rewrite finds and what it leads to are of the same job. -/
theorem Rewrite.KeepsJob.jobKey_eq {key : InstanceKey} {expected replacement spec : TaskSpec}
    {t : Task} (h : (Rewrite.task key expected replacement).KeepsJob)
    (hspec : replacement.sanitize = .ok spec) (ht : t.jobKey = key.job)
    (hexpected : (t.spec == expected) = true) : spec.jobKey = t.jobKey := by
  have hfound : expected.jobKey = key.job := (TaskSpec.jobKey_eq_of_beq hexpected).symm.trans ht
  rw [TaskSpec.jobKey_of_sanitize hspec, h hfound, ht]

/-- The request does not force a task into a state, and does not take one
to another job. -/
def Request.Orderly : Request → Prop
  | .command (.forceTaskState _ _) _ => False
  | .command (.rewriteConfigs commands) _ => ∀ command ∈ commands, command.KeepsJob
  | _ => True

/-- Only active tasks are killed or restarted. -/
theorem Status.isActive_of_resolve {source target status : Status}
    (htarget : target = .killing ∨ target = .restarting)
    (h : source.resolve target = some status) : source.isActive = true := by
  rcases htarget with rfl | rfl <;> cases source <;> first | rfl | cases h

namespace Store

variable {s s' : Store}

/-- Different active tasks are different instances. -/
def OneActive (s : Store) : Prop :=
  ∀ (id id' : String) (t t' : Task), s.tasks[id]? = some t → s.tasks[id']? = some t' →
    t.status.isActive = true → t'.status.isActive = true →
    t.instanceKey = t'.instanceKey → id = id'

/-- Where every active task was active before, as the same instance, there
is still at most one of each. -/
theorem OneActive.of_active_before (hs : s.OneActive)
    (h : ∀ (id : String) (t' : Task), s'.tasks[id]? = some t' → t'.status.isActive = true →
      ∃ t, s.tasks[id]? = some t ∧ t.status.isActive = true ∧ t.instanceKey = t'.instanceKey) :
    s'.OneActive := by
  intro id id' t t' ht ht' hactive hactive' hsame
  obtain ⟨u, hu, huactive, hukey⟩ := h id t ht hactive
  obtain ⟨u', hu', huactive', hukey'⟩ := h id' t' ht' hactive'
  exact hs id id' u u' hu hu' huactive huactive' (by rw [hukey, hukey', hsame])

theorem OneActive.empty : OneActive .empty := by
  intro _ _ _ _ ht
  simp at ht

theorem OneActive.deleteTasks {ids : List String} (hs : s.OneActive) :
    (s.deleteTasks ids).OneActive := by
  refine hs.of_active_before fun id t ht hactive => ?_
  rw [getElem?_deleteTasks] at ht
  split at ht
  · cases ht
  · exact ⟨t, ht, hactive, rfl⟩

/-- Moves that start from active tasks keep at most one of each. -/
theorem OneActive.moveTasks {stamp : Stamp} {q : TaskQuery} {message : Option String}
    {next : Status → Option Status} (hs : s.OneActive)
    (hnext : ∀ source status, next source = some status → source.isActive = true) :
    (s.moveTasks stamp q message next).1.OneActive := by
  refine hs.of_active_before fun id t' ht' hactive => ?_
  obtain ⟨t, ht, rfl | ⟨-, status, hstatus, rfl⟩⟩ := of_getElem?_moveTasks ht'
  · exact ⟨_, ht, hactive, rfl⟩
  · exact ⟨t, ht, hnext _ _ hstatus, rfl⟩

section Launch

variable {key : JobKey} {specs : List (Int32 × TaskSpec)} {stamp : Stamp}
  {token : Nat → String} {t t' : Task}

/-- New tasks for instances that are all different differ in these. -/
theorem eq_of_mem_waitingTasks (honce : (specs.map Prod.fst).Nodup)
    (ht : t ∈ waitingTasks stamp token specs) (ht' : t' ∈ waitingTasks stamp token specs)
    (hsame : t.instanceId = t'.instanceId) : t = t' := by
  obtain ⟨i, x, hx, rfl⟩ := mem_waitingTasks.mp ht
  obtain ⟨j, y, hy, rfl⟩ := mem_waitingTasks.mp ht'
  have hfst : x.1 = y.1 := hsame
  have hi : (specs.map Prod.fst)[i]? = some x.1 := by rw [List.getElem?_map, hx]; rfl
  have hj : (specs.map Prod.fst)[j]? = some x.1 := by rw [List.getElem?_map, hy, hfst]; rfl
  obtain ⟨hlt, -⟩ := List.getElem?_eq_some_iff.mp hi
  obtain rfl := (List.getElem?_inj hlt honce).mp (hi.trans hj.symm)
  rw [hx] at hy
  cases hy
  rfl

theorem Ready.instanceKey_ne {id : String} (hready : s.Ready key specs)
    (ht : t ∈ waitingTasks stamp token specs) (ht' : s.tasks[id]? = some t')
    (hactive : t'.status.isActive = true) : t.instanceKey ≠ t'.instanceKey := by
  obtain ⟨i, x, hx, rfl⟩ := mem_waitingTasks.mp ht
  have hmem := List.mem_of_getElem? hx
  intro hsame
  obtain ⟨hjob, hinstance⟩ := InstanceKey.mk.inj hsame
  have hkey : t'.jobKey = key := hjob.symm.trans (hready.ofJob x hmem)
  refine hready.idle id t' ht' hkey hactive ?_
  rw [← hinstance]
  exact List.mem_map_of_mem hmem

/-- **A launch of what is ready keeps at most one active task of each
instance.** Two new tasks are different instances because their numbers
differ, a new task and an old one because none was active. -/
theorem OneActive.launch (hs : s.OneActive) (hready : s.Ready key specs) :
    (s.saveTasks (waitingTasks stamp token specs)).OneActive := by
  intro id id' t t' ht ht' hactive hactive' hsame
  rcases of_getElem?_saveTasks ht with ⟨hnew, rfl⟩ | hold
  · rcases of_getElem?_saveTasks ht' with ⟨hnew', rfl⟩ | hold'
    · rw [eq_of_mem_waitingTasks hready.once hnew hnew' (InstanceKey.mk.inj hsame).2]
    · exact absurd hsame (hready.instanceKey_ne hnew hold' hactive')
  · rcases of_getElem?_saveTasks ht' with ⟨hnew', rfl⟩ | hold'
    · exact absurd hsame.symm (hready.instanceKey_ne hnew' hold hactive)
    · exact hs id id' t t' hold hold' hactive hactive' hsame

end Launch

/-- A rewrite that keeps to the job lets the task be the same instance. -/
theorem OneActive.applied {command : Rewrite} (hs : s.OneActive) (hfiled : s.Filed)
    (hkeeps : command.KeepsJob) (h : Applied command s s') : s'.OneActive := by
  refine hs.of_active_before fun id t' ht' hactive' => ?_
  rcases h.tasks hfiled id with hsame | ⟨key, expected, replacement, spec, t, rfl, hsanitize, ht,
    hjob, -, hactive, hexpected, hafter⟩
  · exact ⟨t', hsame ▸ ht', hactive', rfl⟩
  · obtain rfl := Option.some.inj (ht'.symm.trans hafter)
    have hkey := hkeeps.jobKey_eq hsanitize hjob hexpected
    exact ⟨t, ht, hactive, by rw [Task.instanceKey, ← hkey]; rfl⟩

end Store

namespace World

variable {env : Environment} {w : World} {p : Principal} {c : Command}
  {credential : Option Credential} {store : Store} {issued : Nat}

theorem oneActive_of_change (h : Change env w p c store issued)
    (hc : (Request.command c credential).Orderly) (hfiled : w.live.Filed)
    (hs : w.live.OneActive) : store.OneActive := by
  cases h with
  | launched _ hready => exact hs.launch hready
  | killed => exact hs.moveTasks fun _ _ => Status.isActive_of_resolve (Or.inl rfl)
  | restarted => exact hs.moveTasks fun _ _ => Status.isActive_of_resolve (Or.inr rfl)
  | forced => exact hc.elim
  | released =>
      rw [Store.OneActive, Store.tasks_releaseLock]
      exact hs
  | rewritten hbatch =>
      refine (hbatch.keeps (I := fun s => s.Filed ∧ s.OneActive) ?_ ⟨hfiled, hs⟩).2
      intro command hmem a b happly ⟨hfiled, hs⟩
      exact ⟨filed_of_applied happly hfiled, hs.applied hfiled (hc command hmem) happly⟩
  | filed | removed | locked | unlocked | allotted => exact hs

theorem lasting_oneActive :
    Lasting env Request.Orderly fun _ s => s.Filed ∧ s.OneActive where
  empty _ := ⟨.empty, .empty⟩
  mono _ h := h
  change hc h hs := ⟨filed_of_change h hs.1, oneActive_of_change h hc hs.1 hs.2⟩
  deleteTasks _ hs := ⟨hs.1.deleteTasks, hs.2.deleteTasks⟩

/-- **As long as no task is forced into a state or taken to another job,
different active tasks are different instances**, in the store, in the
committed copy, in every backup that is kept and in the staged copy. -/
theorem oneActive_everywhere (h : w.ReachedBy env Request.Orderly) :
    w.Everywhere Store.OneActive :=
  (lasting_oneActive.everywhere h).imp fun _ => And.right

/-- A job is backed up, killed and created again; then the backup is put
back, in which its tasks are active. -/
def recoveryInputs : List Input :=
  [.createJob (.plain ⟨"www-data", "prod", "web"⟩ "alice" 2) none, .performBackup,
    .killTasks .everything none,
    .createJob (.plain ⟨"www-data", "prod", "web"⟩ "alice" 3) none,
    .stageRecovery "backup-0-0", .commitRecovery].map fun c =>
      .request (.command c (some (.apiKey "root")))

theorem oneActive_everywhere_after_recovery :
    let env := Environment.plain fun _ => ⟨"root", setOf ["www-data"], setOf [.root]⟩
    let w := (start 0 0 ∅ .empty).run env recoveryInputs
    (w.live.findTasks TaskQuery.everything.active).length = 2 ∧ w.Everywhere Store.OneActive := by
  refine ⟨by decide +kernel, oneActive_everywhere ⟨0, 0, ∅, recoveryInputs, ?_, rfl⟩⟩
  intro request hmem
  obtain ⟨c, hc, heq⟩ := List.mem_map.mp hmem
  cases heq
  simp only [List.mem_cons, List.not_mem_nil, or_false] at hc
  rcases hc with rfl | rfl | rfl | rfl | rfl | rfl <;> trivial

end World

end JobControl
