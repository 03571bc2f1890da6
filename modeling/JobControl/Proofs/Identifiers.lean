import JobControl.Proofs.Runs

/-!
# Names and identifiers in reached stores

Two facts hold of every store that a scheduler comes to. Everything is
filed under its own name, whatever the requests were. And the identifier
of every task ends in a token that has been handed out; as long as fresh
tokens are of one length and no two of them are alike, the identifiers of
new tasks are therefore new. That tokens are fresh is the only thing that
is ever asked of them.
-/

namespace JobControl

/-- The first `n` tokens are of one length and no two of them are alike. -/
def Environment.Fresh (env : Environment) (n : Nat) : Prop :=
  ∀ i j, i < j → j ≤ n →
    (env.token i).length = (env.token j).length ∧ env.token i ≠ env.token j

theorem Task.idOf_ends {spec : TaskSpec} {instanceId : Int32} {nowMs : Int64}
    {token : String} : ∃ head : String, idOf spec instanceId nowMs token = head ++ token := by
  refine ⟨joined "-" [toString nowMs, spec.owner.role, spec.environment, spec.jobName,
    toString instanceId] ++ "-", ?_⟩
  simp [idOf, joined, String.intercalate_cons_cons, String.append_assoc]

/-- Texts that end in different tokens of one length are different. -/
theorem Environment.Fresh.eq_of_ends {env : Environment} {n i j : Nat} (h : env.Fresh n)
    (hi : i ≤ n) (hj : j ≤ n) {a b : String} (hab : a ++ env.token i = b ++ env.token j) :
    i = j := by
  have hends : ∀ {i j : Nat} {a b : String}, i < j → j ≤ n →
      a ++ env.token i ≠ b ++ env.token j := by
    intro i j a b hij hj hab
    obtain ⟨hlength, hne⟩ := h i j hij hj
    have hlist := congrArg String.toList hab
    rw [String.toList_append, String.toList_append] at hlist
    have hlast := (List.append_inj' hlist (by rwa [String.length_toList, String.length_toList])).2
    exact hne (String.toList_inj.mp hlast)
  rcases Nat.lt_trichotomy i j with hij | rfl | hji
  · exact absurd hab (hends hij hj)
  · rfl
  · exact absurd hab.symm (hends hji hi)

/-- No task has an identifier that ends in the token. -/
def Store.Unspent (s : Store) (token : String) : Prop :=
  ∀ (id : String) (t : Task), s.tasks[id]? = some t → ∀ head : String, id ≠ head ++ token

namespace World

variable {env : Environment} {w : World} {p : Principal} {c : Command} {store : Store}
  {issued n : Nat}

/-! ## Everything under its own name -/

theorem filed_of_applied {command : Rewrite} {s s' : Store} (h : Store.Applied command s s')
    (hs : s.Filed) : s'.Filed := by
  cases h with
  | job => exact hs.saveJob
  | task _ _ _ hspec => exact hs.replaceSpec hspec

theorem filed_of_change (h : Change env w p c store issued) (hs : w.live.Filed) :
    store.Filed := by
  cases h with
  | launched => exact hs.saveTasks
  | filed => exact hs.saveJob
  | removed => exact hs.removeJob
  | killed | restarted | forced => exact hs.moveTasks
  | locked => exact hs.saveLock
  | released => exact hs.releaseLock
  | unlocked => exact hs.removeLock
  | rewritten hbatch => exact hbatch.keeps (fun _ _ _ _ => filed_of_applied) hs
  | allotted => exact ⟨hs.tasks, hs.jobs, hs.locks⟩

theorem lasting_filed : Lasting env (fun _ => True) fun _ => Store.Filed where
  empty _ := .empty
  mono _ h := h
  change _ h hs := filed_of_change h hs
  deleteTasks _ hs := hs.deleteTasks

/-- **In every reached world everything is filed under its own name.** -/
theorem Reachable.filed (h : w.Reachable env) : w.Everywhere Store.Filed :=
  lasting_filed.everywhere h

/-! ## Tokens in identifiers -/

/-- The identifier of every task ends in one of the first `n` tokens. -/
def Traced (env : Environment) (n : Nat) (s : Store) : Prop :=
  ∀ (id : String) (t : Task), s.tasks[id]? = some t →
    ∃ (head : String) (i : Nat), i ≤ n ∧ id = head ++ env.token i

theorem traced_mono {s : Store} {m : Nat} (hnm : n ≤ m) (hs : Traced env n s) :
    Traced env m s := by
  intro id t ht
  obtain ⟨head, i, hi, hid⟩ := hs id t ht
  exact ⟨head, i, by omega, hid⟩

theorem traced_of_subset {s s' : Store} (hs : Traced env n s)
    (h : ∀ (id : String) (t : Task), s'.tasks[id]? = some t → ∃ u, s.tasks[id]? = some u) :
    Traced env n s' := fun id t ht => hs id _ (h id t ht).choose_spec

/-- A new task has an identifier that ends in a token not handed out
before. -/
theorem ends_of_mem_waitingTasks {stamp : Stamp} {specs : List (Int32 × TaskSpec)} {t : Task}
    (ht : t ∈ waitingTasks stamp (w.freshToken env) specs) : ∃ (head : String) (i : Nat),
      w.issued < i ∧ i ≤ w.issued + specs.length ∧ t.id = head ++ env.token i := by
  obtain ⟨i, x, hx, rfl⟩ := Store.mem_waitingTasks.mp ht
  obtain ⟨hi, -⟩ := List.getElem?_eq_some_iff.mp hx
  obtain ⟨head, hhead⟩ := @Task.idOf_ends x.2 x.1 stamp.nowMs (w.freshToken env i)
  exact ⟨head, w.issued + i + 1, by omega, by omega, hhead⟩

theorem traced_of_applied {command : Rewrite} {s s' : Store}
    (h : Store.Applied command s s') (hs : Traced env n s) : Traced env n s' := by
  cases h with
  | job => exact hs
  | task _ _ _ hspec =>
      obtain ⟨filed, hfiled, rfl⟩ := Store.replaceSpec_eq_some.mp hspec
      refine traced_of_subset hs fun id t ht => ?_
      rw [Table.getElem?_insert] at ht
      split at ht
      · rename_i hid
        exact ⟨filed, hid ▸ hfiled⟩
      · exact ⟨t, ht⟩

theorem traced_of_change (h : Change env w p c store issued)
    (hs : Traced env w.issued w.live) : Traced env issued store := by
  cases h with
  | launched =>
      intro id t ht
      rcases Store.of_getElem?_saveTasks ht with ⟨hnew, hid⟩ | hold
      · obtain ⟨head, i, -, hi, hends⟩ := ends_of_mem_waitingTasks hnew
        exact ⟨head, i, hi, hid ▸ hends⟩
      · exact traced_mono (Nat.le_add_right _ _) hs id t hold
  | killed | restarted | forced =>
      refine traced_of_subset hs fun id t ht => ?_
      obtain ⟨u, hu, -⟩ := Store.of_getElem?_moveTasks ht
      exact ⟨u, hu⟩
  | locked => exact traced_mono (Nat.le_succ _) hs
  | released =>
      rw [Traced, Store.tasks_releaseLock]
      exact hs
  | rewritten hbatch => exact hbatch.keeps (fun _ _ _ _ => traced_of_applied) hs
  | filed | removed | unlocked | allotted => exact hs

theorem lasting_traced : Lasting env (fun _ => True) (Traced env) where
  empty _ _ _ h := by simp at h
  mono := traced_mono
  change _ h hs := traced_of_change h hs
  deleteTasks ids hs := traced_of_subset hs fun id t ht => by
    rw [Store.getElem?_deleteTasks] at ht
    split at ht
    · cases ht
    · exact ⟨t, ht⟩

/-- A token that has not been handed out is at the end of no identifier, as
long as tokens are fresh. -/
theorem Reachable.unspent (h : w.Reachable env) (hfresh : env.Fresh n) {i : Nat}
    (hlt : w.issued < i) (hle : i ≤ n) : w.live.Unspent (env.token i) := by
  intro id t ht head hid
  obtain ⟨head', j, hj, hid'⟩ := (lasting_traced.everywhere h).live id t ht
  have heq := hfresh.eq_of_ends hle (by omega) (hid.symm.trans hid')
  omega

theorem unfiled_of_unspent {stamp : Stamp} {specs : List (Int32 × TaskSpec)}
    (hunspent : ∀ i, w.issued < i → i ≤ w.issued + specs.length → w.live.Unspent (env.token i))
    {t : Task} (ht : t ∈ waitingTasks stamp (w.freshToken env) specs) :
    w.live.tasks[t.id]? = none := by
  obtain ⟨head, i, hlt, hle, hid⟩ := ends_of_mem_waitingTasks ht
  exact Option.eq_none_iff_forall_ne_some.mpr fun u hu => hunspent i hlt hle t.id u hu head hid

/-- **The identifiers of launched tasks are new**, as long as the tokens
are fresh that have been handed out by then. -/
theorem Reachable.unfiled_of_mem_waitingTasks (h : w.Reachable env) {stamp : Stamp}
    {specs : List (Int32 × TaskSpec)} (hfresh : env.Fresh (w.issued + specs.length)) {t : Task}
    (ht : t ∈ waitingTasks stamp (w.freshToken env) specs) : w.live.tasks[t.id]? = none :=
  unfiled_of_unspent (fun _ hlt hle => h.unspent hfresh hlt hle) ht

/-- No two of them have the same identifier. -/
theorem nodup_id_waitingTasks {stamp : Stamp} {specs : List (Int32 × TaskSpec)}
    (hfresh : env.Fresh (w.issued + specs.length)) :
    ((waitingTasks stamp (w.freshToken env) specs).map Task.id).Nodup := by
  rw [List.Nodup, List.pairwise_iff_getElem]
  intro i j hi hj hij heq
  simp only [waitingTasks, List.length_map, List.length_zipIdx] at hi hj
  simp only [waitingTasks, List.getElem_map, List.getElem_zipIdx, Task.waiting,
    Nat.zero_add] at heq
  obtain ⟨head, hhead⟩ := @Task.idOf_ends specs[i].2 specs[i].1 stamp.nowMs (w.freshToken env i)
  obtain ⟨tail, htail⟩ := @Task.idOf_ends specs[j].2 specs[j].1 stamp.nowMs (w.freshToken env j)
  rw [hhead, htail] at heq
  have hsame := hfresh.eq_of_ends (by omega) (by omega) heq
  omega

end World

end JobControl
