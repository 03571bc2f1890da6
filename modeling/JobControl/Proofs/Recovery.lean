import JobControl.Proofs.Identifiers
import JobControl.Proofs.Mediation

/-!
# Recovery restores what was backed up

Three kinds of copies live side by side: the store itself, the copies that
are kept, and the one that is staged. A kept copy is never changed, and
since copies are numbered, none that is made later is ever taken for it.
What is staged changes when tasks are taken out of it, or when another
copy is put in its place; nothing that happens to the store reaches it.

Tasks are taken out by looking up the identifiers of those that meet a
query. As each task is filed under its own identifier, this is the same as
to keep the tasks that do not meet the query, so that any number of
queries come down to one filter.
-/

namespace JobControl

/-! ## Tasks that were taken out -/

namespace Store

variable {s : Store} {q : TaskQuery} {qs more : List TaskQuery}

/-- The store without the tasks that meet one of the queries. -/
def without (s : Store) (qs : List TaskQuery) : Store :=
  { s with tasks := s.tasks.filter fun _ t => !qs.any (·.isMetBy t) }

theorem getElem?_without {id : String} :
    (s.without qs).tasks[id]? = s.tasks[id]?.filter fun t => !qs.any (·.isMetBy t) :=
  Std.ExtTreeMap.getElem?_filter'

theorem ext_tasks {s' : Store} (htasks : ∀ id : String, s'.tasks[id]? = s.tasks[id]?)
    (hrest : s' = { s with tasks := s'.tasks }) : s' = s := by
  rw [hrest, Std.ExtTreeMap.ext_getElem? htasks]

theorem without_nil : s.without [] = s := by
  refine ext_tasks (fun id => ?_) rfl
  rw [getElem?_without]
  cases s.tasks[id]? <;> rfl

theorem without_without : (s.without qs).without more = s.without (qs ++ more) := by
  refine ext_tasks (fun id => ?_) rfl
  simp only [getElem?_without, Option.filter_filter, List.any_append, Bool.not_or]

theorem TasksFiled.without (hs : s.TasksFiled) : (s.without qs).TasksFiled := by
  intro id t ht
  rw [getElem?_without, Option.filter_eq_some_iff] at ht
  exact hs id t ht.1

/-- To take out what a query finds is to keep what does not meet it. -/
theorem TasksFiled.deleteTasks_findTasks (hs : s.TasksFiled) :
    s.deleteTasks ((s.findTasks q).map Task.id) = s.without [q] := by
  refine ext_tasks (fun id => ?_) rfl
  rw [getElem?_deleteTasks, getElem?_without]
  cases ht : s.tasks[id]? with
  | none => exact ite_self none
  | some t =>
      have hfound : id ∈ (s.findTasks q).map Task.id ↔ q.isMetBy t = true := by
        rw [List.mem_map]
        constructor
        · rintro ⟨u, hu, rfl⟩
          obtain ⟨hfiled, hmet⟩ := hs.mem_findTasks.mp hu
          rwa [Option.some.inj (ht.symm.trans hfiled)]
        · intro hmet
          refine ⟨t, hs.mem_findTasks.mpr ⟨?_, hmet⟩, hs id t ht⟩
          rw [hs id t ht, ht]
      cases hmet : q.isMetBy t <;> simp [hfound, hmet, Option.filter]

theorem values_without :
    (s.without qs).tasks.values = s.tasks.values.filter fun t => !qs.any (·.isMetBy t) := by
  rw [Table.values_eq_map_toList, Table.values_eq_map_toList, without,
    Std.ExtTreeMap.toList_filter, List.filter_map]
  rfl

end Store

/-! ## The numbers of copies -/

namespace Vault

theorem toList_idOf {nowMs : Int64} {n : Nat} : (idOf nowMs n).toList =
    ("backup-" ++ toString nowMs).toList ++ '-' :: Nat.toDigits 10 n := by
  simp [idOf]

theorem dash_notMem_toDigits {n : Nat} : '-' ∉ Nat.toDigits 10 n :=
  fun h => absurd (Nat.isDigit_of_mem_toDigits (by decide) (by decide) h) (by decide)

/-- The number stands behind the last dash, so that it can be read off. -/
theorem idOf_inj {nowMs nowMs' : Int64} {n n' : Nat} (h : idOf nowMs n = idOf nowMs' n') :
    n = n' := by
  have htext := congrArg (List.reverse ∘ String.toList) h
  simp only [Function.comp, toList_idOf, List.reverse_append, List.reverse_cons,
    List.append_assoc, List.singleton_append] at htext
  -- the time may bring a dash of its own, so that only the last one separates
  have hdigits : (Nat.toDigits 10 n).reverse = (Nat.toDigits 10 n').reverse :=
    (JobKey.split_at_first (by simpa using dash_notMem_toDigits)
      (by simpa using dash_notMem_toDigits) htext).1
  calc
    n = Nat.ofDigitChars 10 (Nat.toDigits 10 n) 0 := Nat.ofDigitChars_ten_toDigits.symm
    _ = Nat.ofDigitChars 10 (Nat.toDigits 10 n') 0 := by rw [List.reverse_inj.mp hdigits]
    _ = n' := Nat.ofDigitChars_ten_toDigits

/-! ## The copies that are kept -/

variable {v : Vault} {s copy : Store} {b : Backup} {id : String} {n retention : Nat}
  {nowMs : Int64}

theorem mem_kept_backup (h : b ∈ (v.backup retention nowMs s).1.kept) :
    b ∈ v.kept ∨ b = ⟨idOf nowMs v.made, s⟩ :=
  (List.mem_append.mp (List.mem_of_mem_drop h)).imp_right List.mem_singleton.mp

/-- The copies that are kept have numbers of copies that were made. -/
def Numbered (v : Vault) : Prop :=
  ∀ b ∈ v.kept, ∃ nowMs n, b.id = idOf nowMs n ∧ n < v.made

theorem Numbered.backup (h : v.Numbered) : (v.backup retention nowMs s).1.Numbered := by
  intro b hb
  rcases mem_kept_backup hb with hb | rfl
  · obtain ⟨t, n, hid, hlt⟩ := h b hb
    exact ⟨t, n, hid, Nat.lt_succ_of_lt hlt⟩
  · exact ⟨nowMs, v.made, rfl, Nat.lt_succ_self _⟩

/-- What is kept under the identifier of a copy that was made is a copy of
this store. -/
structure Keeps (nowMs : Int64) (n : Nat) (copy : Store) (v : Vault) : Prop where
  made : n < v.made
  kept : ∀ b ∈ v.kept, b.id = idOf nowMs n → b.store = copy

theorem Numbered.keeps_backup (h : v.Numbered) :
    (v.backup retention nowMs s).1.Keeps nowMs v.made s where
  made := Nat.lt_succ_self _
  kept b hb hid := by
    rcases mem_kept_backup hb with hb | rfl
    · obtain ⟨t, n, hother, hlt⟩ := h b hb
      have hsame := idOf_inj (hother.symm.trans hid)
      omega
    · rfl

theorem Keeps.backup (h : v.Keeps nowMs n copy) {later : Int64} :
    (v.backup retention later s).1.Keeps nowMs n copy where
  made := Nat.lt_succ_of_lt h.made
  kept b hb hid := by
    rcases mem_kept_backup hb with hb | rfl
    · exact h.kept b hb hid
    · have hsame := idOf_inj hid
      have hlt := h.made
      omega

end Vault

namespace Request

/-- The request puts another copy in the place of the staged one, or
nothing, if it is a success. -/
def restages : Request → Bool
  | .command (.stageRecovery _) _ | .command .commitRecovery _
  | .command .unloadRecovery _ => true
  | _ => false

/-- The query for the tasks that a request takes out of the staged copy if
it is answered like this. -/
def trims (r : Response) : Request → List TaskQuery
  | .command (.deleteRecoveryTasks q) _ => if r.code = .ok then [q] else []
  | _ => []

theorem trims_of_not_ok {r : Response} {request : Request} (h : r.code ≠ .ok) :
    request.trims r = [] := by
  rw [trims.eq_def]
  split
  · exact if_neg h
  · rfl

end Request

namespace World

variable {env : Environment} {w w' : World} {p : Principal} {c : Command} {r : Response}
  {roles : Names} {copy : Store} {id : String} {q : TaskQuery} {seen : Store}
  {request : Request}

/-- A request leaves the copies that are kept, or it is a success in making
another one and tells its identifier. -/
theorem Answered.kept (h : Answered env seen w request w' r) :
    (w'.vault.made = w.vault.made ∧ w'.vault.kept = w.vault.kept
        ∧ ∀ credential, request = .command .performBackup credential → r.code ≠ .ok)
      ∨ (w'.vault = (w.vault.backup env.retention w.nowMs w.committed).1
        ∧ (∃ credential, request = .command .performBackup credential)
        ∧ r = .done ("Backup " ++ Vault.idOf w.nowMs w.vault.made ++ " created.") []) := by
  cases h with
  | @refused _ refusal => exact Or.inl ⟨rfl, rfl, fun _ _ => Refusal.code_ne_ok refusal⟩
  | viewed => exact Or.inl ⟨rfl, rfl, nofun⟩
  | @carried c credential p w₁ _ log hpre hp hdone =>
      by_cases hc : c = .performBackup
      · subst hc
        cases hdone
        exact Or.inr ⟨rfl, ⟨credential, rfl⟩, rfl⟩
      · have hother : ∀ credential', Request.command c credential
            = .command .performBackup credential' → r.code ≠ .ok :=
          fun _ hsame => absurd (Request.command.inj hsame).1 hc
        refine Or.inl ?_
        obtain ⟨w₁, log, heffect, rfl, -⟩ := carried_of_perform hdone
        cases heffect with
        | backedUp => exact absurd rfl hc
        | staged h =>
            obtain ⟨b, -, rfl⟩ := Vault.stage_eq_ok.mp h
            exact ⟨rfl, rfl, hother⟩
        | trimmed h =>
            obtain ⟨s, -, rfl⟩ := Vault.deleteTasks_eq_ok.mp h
            exact ⟨rfl, rfl, hother⟩
        | restored h =>
            obtain ⟨-, rfl⟩ := Vault.take_eq_ok.mp h
            exact ⟨rfl, rfl, hother⟩
        | changed | rehosted | unloaded | written | none => exact ⟨rfl, rfl, hother⟩

theorem Reachable.numbered (h : w.Reachable env) : w.vault.Numbered := by
  refine h.invariant (I := fun w => w.vault.Numbered) ?_ ?_ fun _ _ hv => hv
  · intro _ _ _ b hb
    cases hb
  · intro v request _ hv
    rcases (@answered_dispatch env v request).kept with
      ⟨hmade, hkept, -⟩ | ⟨hbackup, -⟩
    · rwa [Vault.Numbered, hmade, hkept]
    · rw [hbackup]
      exact hv.backup

theorem keeps_of_run {nowMs : Int64} {n : Nat} {inputs : List Input}
    (h : w.vault.Keeps nowMs n copy) : (w.run env inputs).vault.Keeps nowMs n copy := by
  refine run_keeps (I := fun w => w.vault.Keeps nowMs n copy) (fun _ _ hv => hv) ?_ h
  intro v request _ hv
  rcases (@answered_dispatch env v request).kept with
    ⟨hmade, hkept, -⟩ | ⟨hbackup, -⟩
  · exact ⟨hmade ▸ hv.made, hkept ▸ hv.kept⟩
  · rw [hbackup]
    exact hv.backup

/-! ## Commands on the staged copy -/

theorem perform_performBackup_eq_ok :
    w.perform env p roles .performBackup = .ok (w', r) ↔
      w' = { w with vault := (w.vault.backup env.retention w.nowMs w.committed).1 }
      ∧ r = .done ("Backup " ++ Vault.idOf w.nowMs w.vault.made ++ " created.") [] := by
  rw [perform, Except.ok.injEq, Prod.mk.injEq, eq_comm, @eq_comm _ r]
  rfl

theorem perform_stageRecovery_eq_ok :
    w.perform env p roles (.stageRecovery id) = .ok (w', r) ↔ ∃ b,
      w.vault.kept.find? (fun b => b.id == id) = some b
      ∧ w' = { w with vault := { w.vault with staged := some b.store } }
      ∧ r = .done ("Backup " ++ id ++ " staged.") [] := by
  simp only [perform, bind_eq_ok, checked_eq_ok, pure_eq_ok, Vault.stage_eq_ok, Prod.mk.injEq]
  constructor
  · rintro ⟨_, ⟨b, hb, rfl⟩, rfl, rfl⟩
    exact ⟨b, hb, rfl, rfl⟩
  · rintro ⟨b, hb, rfl, rfl⟩
    exact ⟨_, ⟨b, hb, rfl⟩, rfl, rfl⟩

theorem perform_deleteRecoveryTasks_eq_ok :
    w.perform env p roles (.deleteRecoveryTasks q) = .ok (w', r) ↔ ∃ copy,
      w.vault.staged = some copy
      ∧ w' = { w with vault := { w.vault with
          staged := some (copy.deleteTasks ((copy.findTasks q).map Task.id)) } }
      ∧ r = .done "Tasks deleted from staged recovery." [] := by
  simp only [perform, bind_eq_ok, checked_eq_ok, pure_eq_ok, Vault.deleteTasks_eq_ok,
    Prod.mk.injEq]
  constructor
  · rintro ⟨_, ⟨copy, hcopy, rfl⟩, rfl, rfl⟩
    exact ⟨copy, hcopy, rfl, rfl⟩
  · rintro ⟨copy, hcopy, rfl, rfl⟩
    exact ⟨_, ⟨copy, hcopy, rfl⟩, rfl, rfl⟩

theorem perform_queryRecovery_eq_ok :
    w.perform env p roles (.queryRecovery q) = .ok (w', r) ↔ ∃ copy,
      w.vault.staged = some copy ∧ w' = w
      ∧ r = .found (.stagedTasks (copy.findTasks q)) := by
  simp only [perform, bind_eq_ok, checked_eq_ok, pure_eq_ok, Vault.query, Prod.mk.injEq]
  cases w.vault.staged <;> simp [eq_comm]

theorem perform_commitRecovery_eq_ok :
    w.perform env p roles .commitRecovery = .ok (w', r) ↔ ∃ copy,
      w.vault.staged = some copy
      ∧ w' = { w.commit copy with vault := { w.vault with staged := none } }
      ∧ r = .done "Recovery committed." [] := by
  simp only [perform, bind_eq_ok, checked_eq_ok, pure_eq_ok, Prod.exists, Vault.take_eq_ok,
    Prod.mk.injEq]
  constructor
  · rintro ⟨_, copy, ⟨hcopy, rfl⟩, rfl, rfl⟩
    exact ⟨copy, hcopy, rfl, rfl⟩
  · rintro ⟨copy, hcopy, rfl, rfl⟩
    exact ⟨_, copy, ⟨hcopy, rfl⟩, rfl, rfl⟩

/-- **What is staged changes by what is taken out of it only**, as long as
it stays. -/
theorem Answered.staged (h : Answered env seen w request w' r) (hcopy : w.vault.staged = some copy)
    (hfiled : copy.TasksFiled) (hkeep : request.restages = true → r.code ≠ .ok) :
    w'.vault.staged = some (copy.without (request.trims r)) := by
  cases h with
  | refused =>
      rw [Request.trims_of_not_ok (Refusal.code_ne_ok _), Store.without_nil]
      exact hcopy
  | viewed =>
      rw [Request.trims.eq_def, Store.without_nil]
      exact hcopy
  | @carried c credential p w₁ _ log hpre hp hdone =>
      cases c with
      | stageRecovery id =>
          obtain ⟨b, -, -, rfl⟩ := perform_stageRecovery_eq_ok.mp hdone
          exact absurd rfl (hkeep rfl)
      | commitRecovery =>
          obtain ⟨s, -, -, rfl⟩ := perform_commitRecovery_eq_ok.mp hdone
          exact absurd rfl (hkeep rfl)
      | unloadRecovery =>
          cases hdone
          exact absurd rfl (hkeep rfl)
      | deleteRecoveryTasks q =>
          obtain ⟨s, hs, rfl, rfl⟩ := perform_deleteRecoveryTasks_eq_ok.mp hdone
          obtain rfl := Option.some.inj (hs.symm.trans hcopy)
          exact congrArg some hfiled.deleteTasks_findTasks
      | _ =>
          -- no other command has an effect on the staged copy
          obtain ⟨w₁, log, heffect, rfl, -⟩ := carried_of_perform hdone
          rw [Request.trims.eq_def, Store.without_nil, ← hcopy]
          cases heffect <;> rfl

/-- What was taken out of the staged copy in a run. -/
def trimmed (env : Environment) (w : World) (inputs : List Input) : List TaskQuery :=
  (w.exchanges env inputs).flatMap fun exchange =>
    exchange.2.trims (exchange.1.dispatch env exchange.2).2

theorem staged_of_run : ∀ {inputs : List Input} {w : World} {copy : Store},
    w.vault.staged = some copy → copy.TasksFiled →
    (∀ v request, (v, request) ∈ w.exchanges env inputs → request.restages = true →
      (v.dispatch env request).2.code ≠ .ok) →
    (w.run env inputs).vault.staged = some (copy.without (trimmed env w inputs))
  | [], w, copy, hcopy, _, _ => by
      rw [trimmed, exchanges, List.flatMap_nil, Store.without_nil]
      exact hcopy
  | .request request :: inputs, w, copy, hcopy, hfiled, hkeep => by
      have hstep := (@answered_dispatch env w request).staged hcopy hfiled
        (hkeep w request List.mem_cons_self)
      have hrun := staged_of_run hstep hfiled.without
        fun v later hmem => hkeep v later (List.mem_cons_of_mem _ hmem)
      rw [Store.without_without] at hrun
      exact hrun
  | .pause ms :: inputs, w, copy, hcopy, hfiled, hkeep =>
      staged_of_run (w := w.advance ms) hcopy hfiled hkeep

/-! ## From a backup to its recovery -/

variable {maker stager : Option Credential} {made staged : World} {earlier later : List Input}

theorem perform_of_dispatch {credential : Option Credential}
    (h : w.dispatch env (.command c credential) = (w', r)) (hr : r.code = .ok) :
    ∃ p w₁ log, w.perform env p (c.targetRoles w.live) c = .ok (w₁, r)
      ∧ w' = { w₁ with events := log } := by
  have hok : (w.dispatch env (.command c credential)).2.code = .ok := by rw [h]; exact hr
  obtain ⟨w₁, log, hattempt, hafter⟩ := attempt_of_ok hok
  obtain ⟨-, p, -, hdone⟩ := attempt_command_eq_ok.mp hattempt
  rw [h] at hdone hafter
  exact ⟨p, w₁, log, hdone, hafter⟩

/-- What is staged under the identifier of a backup is the store that was
backed up. -/
theorem staged_of_backup (hw : w.Reachable env)
    (hmade : w.dispatch env (.command .performBackup maker)
      = (made, .done ("Backup " ++ id ++ " created.") []))
    (hstaged : (made.run env earlier).dispatch env (.command (.stageRecovery id) stager)
      = (staged, r)) (hr : r.code = .ok) : staged.vault.staged = some w.live := by
  obtain ⟨p, w₁, log, hbackup, hafter⟩ := perform_of_dispatch hmade rfl
  obtain ⟨rfl, hanswer⟩ := perform_performBackup_eq_ok.mp hbackup
  have hid : id = Vault.idOf w.nowMs w.vault.made := by simpa [Response.done] using hanswer
  have hkeeps : made.vault.Keeps w.nowMs w.vault.made w.committed := by
    rw [hafter]
    exact hw.numbered.keeps_backup
  obtain ⟨q, w₂, log', hstage, hafter'⟩ := perform_of_dispatch hstaged hr
  obtain ⟨b, hb, rfl, -⟩ := perform_stageRecovery_eq_ok.mp hstage
  have hbid : b.id = id := by simpa using List.find?_some hb
  have hcopy : b.store = w.committed :=
    (keeps_of_run hkeeps).kept b (List.mem_of_find?_eq_some hb) (hbid.trans hid)
  rw [hafter', ← hw.committed_eq_live, ← hcopy]

/-- Looking for a copy, looking at the staged one and taking tasks out of
it leave the store and the copies that are kept. -/
theorem Answered.left_alone {credential : Option Credential}
    (h : Answered env seen w (.command c credential) w' r)
    (hc : (∃ id, c = .stageRecovery id) ∨ (∃ q, c = .queryRecovery q)
      ∨ ∃ q, c = .deleteRecoveryTasks q) :
    w'.live = w.live ∧ w'.vault.kept = w.vault.kept := by
  cases h with
  | refused => exact ⟨rfl, rfl⟩
  | carried _ _ hdone =>
      rcases hc with ⟨id, rfl⟩ | ⟨q, rfl⟩ | ⟨q, rfl⟩
      · obtain ⟨b, -, rfl, -⟩ := perform_stageRecovery_eq_ok.mp hdone
        exact ⟨rfl, rfl⟩
      · obtain ⟨copy, -, rfl, -⟩ := perform_queryRecovery_eq_ok.mp hdone
        exact ⟨rfl, rfl⟩
      · obtain ⟨copy, -, rfl, -⟩ := perform_deleteRecoveryTasks_eq_ok.mp hdone
        exact ⟨rfl, rfl⟩

/-- **Recovery restores what was backed up.** Of a store that was backed
up, and staged under the identifier of that backup, exactly the tasks are
found that have not been taken out since; and when it is put in place, the
store is the one that was backed up without these tasks, whatever has
happened to it in between. -/
theorem recovered_of_backup (hw : w.Reachable env)
    (hmade : w.dispatch env (.command .performBackup maker)
      = (made, .done ("Backup " ++ id ++ " created.") []))
    (hstaged : (made.run env earlier).dispatch env (.command (.stageRecovery id) stager)
      = (staged, r)) (hr : r.code = .ok)
    (hkeep : ∀ v request, (v, request) ∈ staged.exchanges env later → request.restages = true →
      (v.dispatch env request).2.code ≠ .ok)
    {shown : Credential} (hshown : env.recognise (staged.run env later).nowMs shown = .ok p)
    (hroot : Capability.root ∈ p.capabilities) :
    let v := staged.run env later
    let removed := trimmed env staged later
    let committed := v.dispatch env (.command .commitRecovery (some shown))
    (∀ q, (v.dispatch env (.command (.queryRecovery q) (some shown))).2
      = .found (.stagedTasks (w.live.tasks.values.filter fun t =>
          q.isMetBy t && !removed.any (·.isMetBy t))))
    ∧ (committed.2.code = .ok ∧ committed.1.live = w.live.without removed
      ∧ committed.1.vault.staged = none)
    ∧ ∀ u c credential, ((∃ id, c = .stageRecovery id) ∨ (∃ q, c = .queryRecovery q)
        ∨ ∃ q, c = .deleteRecoveryTasks q) →
      (World.dispatch env u (.command c credential)).1.live = u.live
        ∧ (World.dispatch env u (.command c credential)).1.vault.kept = u.vault.kept := by
  intro v removed committed
  have hfiled := hw.filed.live.tasks
  have hcopy : v.vault.staged = some (w.live.without removed) :=
    staged_of_run (staged_of_backup hw hmade hstaged hr) hfiled hkeep
  refine ⟨fun q => ?_, ?_, fun u c credential hc => answered_dispatch.left_alone hc⟩
  · have hdone : v.attempt env v.live (.command (.queryRecovery q) (some shown)) = .ok _ :=
      (attempt_of_root hshown hroot rfl rfl).trans
        (perform_queryRecovery_eq_ok.mpr ⟨_, hcopy, rfl, rfl⟩)
    rw [(dispatch_of_done hdone).1, hfiled.without.findTasks_eq_filter, Store.values_without,
      List.filter_filter]
  · have hdone : v.attempt env v.live (.command .commitRecovery (some shown)) = .ok _ :=
      (attempt_of_root hshown hroot rfl rfl).trans
        (perform_commitRecovery_eq_ok.mpr ⟨_, hcopy, rfl, rfl⟩)
    obtain ⟨hanswer, log, hafter⟩ := dispatch_of_done hdone
    change committed.2 = _ at hanswer
    change committed.1 = _ at hafter
    rw [hanswer, hafter]
    exact ⟨rfl, rfl, rfl⟩

/-! ## Two web servers, of which one comes back -/

/-- There are two web servers. -/
def twoWebServers : World :=
  (start 0 0 ∅ .empty).run rootOnly
    [.request (byRoot (.createJob (.plain ⟨"www-data", "prod", "web"⟩ "root" 2) none))]

/-- A backup has been made. -/
def webServersBackedUp : World :=
  (twoWebServers.dispatch rootOnly (byRoot .performBackup)).1

/-- Both are killed. -/
def bothKilled : List Input :=
  [.request (byRoot (.killTasks .everything none)), .pause 1000]

def webServersKilled : World := webServersBackedUp.run rootOnly bothKilled

/-- The backup is staged. -/
def webServersStaged : World :=
  (webServersKilled.dispatch rootOnly (byRoot (.stageRecovery "backup-0-0"))).1

/-- The first server is taken out of it. -/
def secondOnly : List Input :=
  [.request (byRoot (.deleteRecoveryTasks
    ((TaskQuery.ofJob ⟨"www-data", "prod", "web"⟩).instances (setOf [0]))))]

theorem restages_secondOnly {w v : World} {request : Request}
    (hmem : (v, request) ∈ w.exchanges rootOnly secondOnly) : request.restages = false := by
  have hinput := request_mem_of_mem_exchanges hmem
  rw [secondOnly, List.mem_singleton, Input.request.injEq] at hinput
  rw [hinput]
  rfl

/-- The second server waits again, as it did when the backup was made. -/
theorem recovered_of_backup_secondOnly :
    let v := webServersStaged.run rootOnly secondOnly
    let committed := v.dispatch rootOnly (byRoot .commitRecovery)
    twoWebServers.Reachable rootOnly
      ∧ (twoWebServers.dispatch rootOnly (byRoot .performBackup)).2
        = .done ("Backup " ++ "backup-0-0" ++ " created.") []
      ∧ (webServersKilled.dispatch rootOnly (byRoot (.stageRecovery "backup-0-0"))).2.code = .ok
      ∧ (∀ v request, (v, request) ∈ webServersStaged.exchanges rootOnly secondOnly →
        request.restages = true → (v.dispatch rootOnly request).2.code ≠ .ok)
      ∧ v.live.tasks.values.map Task.status = [.killed, .killed]
      ∧ committed.2.code = .ok
      ∧ committed.1.live
        = twoWebServers.live.without (trimmed rootOnly webServersStaged secondOnly)
      ∧ committed.1.live.tasks.values.map (fun t => (t.instanceId, t.status))
        = [(1, .pending)] := by
  intro v committed
  have hreached : twoWebServers.Reachable rootOnly := ⟨0, 0, ∅, _, fun _ _ => trivial, rfl⟩
  have hanswer : (twoWebServers.dispatch rootOnly (byRoot .performBackup)).2
      = .done ("Backup " ++ "backup-0-0" ++ " created.") [] := rfl
  have hmade : twoWebServers.dispatch rootOnly (byRoot .performBackup)
      = (webServersBackedUp, .done ("Backup " ++ "backup-0-0" ++ " created.") []) :=
    Prod.ext rfl hanswer
  have hok : (webServersKilled.dispatch rootOnly (byRoot (.stageRecovery "backup-0-0"))).2.code
      = .ok := by decide +kernel
  have hstaged : (webServersBackedUp.run rootOnly bothKilled).dispatch rootOnly
      (byRoot (.stageRecovery "backup-0-0")) = (webServersStaged,
        (webServersKilled.dispatch rootOnly (byRoot (.stageRecovery "backup-0-0"))).2) := rfl
  have hkeep : ∀ v request, (v, request) ∈ webServersStaged.exchanges rootOnly secondOnly →
      request.restages = true → (v.dispatch rootOnly request).2.code ≠ .ok := by
    intro v request hmem hrestages
    rw [restages_secondOnly hmem] at hrestages
    cases hrestages
  have hshown : rootOnly.recognise v.nowMs (.apiKey "root")
      = .ok ⟨"root", setOf ["www-data"], setOf [.root]⟩ := rfl
  have hroot : Capability.root ∈ (setOf [.root] : Capabilities) := by decide +kernel
  obtain ⟨-, ⟨hcode, hlive, -⟩, -⟩ :=
    recovered_of_backup hreached hmade hstaged hok hkeep hshown hroot
  exact ⟨hreached, hanswer, hok, hkeep, by decide +kernel, hcode, hlive, by decide +kernel⟩

end World

end JobControl
