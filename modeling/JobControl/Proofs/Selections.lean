import JobControl.Proofs.Recovery

/-!
# Tasks that meet a query

The store answers a query in two ways. Tasks that are named are looked up;
to find any others, and to change tasks, it goes through all of them. Who
may kill tasks is decided by what is found in the one way, and the tasks
are killed in the other. The two agree if each task is filed under its own
identifier; otherwise a task could be looked up under one name and be met
under another.

To change tasks means to offer them to a mutator, one after the other. The
mutators of the commands look at the task and do nothing else, but one that
counts or keeps a list is as good, and tells which tasks it was offered.
`mutateTasks` is the walk through the tasks with a mutator that may have any
effects. That it offers the tasks that are found, each once and in their
order, is then an equation: its effects are those of handing these tasks to
the mutator, with no walk at all.
-/

namespace JobControl

namespace Store

variable {s : Store} {q : TaskQuery} {t : Task}

/-! ## The walk through the tasks -/

section Mutators

variable {m : Type → Type} [Monad m] {mutator : Task → m (Option Task)}

/-- Offers what is filed in an entry to a mutator. What is given back is
filed in its place and added to the list of changed tasks. -/
def offer (mutator : Task → m (Option Task)) (done : Store × List Task) (entry : String × Task) :
    m (Store × List Task) := do
  match ← mutator entry.2 with
  | some u =>
    return ({ done.1 with tasks := done.1.tasks.insert entry.1 u }, done.2 ++ [u])
  | none => return done

/-- Goes through all tasks and offers those that meet a query. -/
def mutateTasks (s : Store) (q : TaskQuery) (mutator : Task → m (Option Task)) :
    m (Store × List Task) :=
  s.tasks.toList.foldlM (fun done entry =>
    if q.isMetBy entry.2 then offer mutator done entry else return done) (s, [])

/-- The store with what was given back for some tasks. -/
def answered (s : Store) : List (Task × Option Task) → Store
  | [] => s
  | (_, none) :: answers => s.answered answers
  | (t, some u) :: answers => ({ s with tasks := s.tasks.insert t.id u } : Store).answered answers

variable [LawfulMonad m]

theorem foldlM_offer : ∀ {tasks : List Task} {s : Store} {mutated : List Task},
    (tasks.map fun t => (t.id, t)).foldlM (offer mutator) (s, mutated) = do
      let answers ← tasks.mapM mutator
      return (s.answered (tasks.zip answers), mutated ++ answers.filterMap id)
  | [], s, mutated => by simp [answered]
  | t :: tasks, s, mutated => by
      rw [List.map_cons, List.foldlM_cons, List.mapM_cons, offer]
      simp only [bind_assoc, pure_bind]
      refine bind_congr fun a => ?_
      cases a with
      | none =>
          simp only [pure_bind, foldlM_offer]
          rfl
      | some u =>
          simp only [pure_bind, foldlM_offer]
          refine bind_congr fun answers => ?_
          simp [answered]

theorem TasksFiled.filter_toList (hs : s.TasksFiled) :
    s.tasks.toList.filter (fun entry => q.isMetBy entry.2)
      = (s.findTasks q).map fun t => (t.id, t) := by
  have hown : ∀ entry ∈ s.tasks.toList.filter (fun entry => q.isMetBy entry.2),
      (entry.2.id, entry.2) = entry := by
    intro entry hentry
    have hfiled := Std.ExtTreeMap.mem_toList_iff_getElem?_eq_some.mp (List.mem_filter.mp hentry).1
    rw [hs _ _ hfiled]
  rw [hs.findTasks_eq_filter, Table.values_eq_map_toList, List.filter_map, List.map_map]
  exact ((List.map_congr_left hown).trans (List.map_id _)).symm

theorem TasksFiled.mutateTasks_eq (hs : s.TasksFiled) : s.mutateTasks q mutator = do
    let answers ← (s.findTasks q).mapM mutator
    return (s.answered ((s.findTasks q).zip answers), answers.filterMap id) := by
  rw [mutateTasks, ← List.foldlM_filter, hs.filter_toList, foldlM_offer]
  rfl

end Mutators

/-! ## What is given back -/

theorem getElem?_answered_of_ne {id : String} : ∀ {answers : List (Task × Option Task)} {s : Store},
    (∀ x ∈ answers, x.1.id ≠ id) → (s.answered answers).tasks[id]? = s.tasks[id]?
  | [], _, _ => rfl
  | (t, none) :: answers, s, h => by
      rw [answered, getElem?_answered_of_ne (List.forall_mem_cons.mp h).2]
  | (t, some u) :: answers, s, h => by
      obtain ⟨ht, hrest⟩ := List.forall_mem_cons.mp h
      rw [answered, getElem?_answered_of_ne hrest, Table.getElem?_insert, if_neg ht]

theorem getElem?_answered_of_mem {a : Option Task} : ∀ {answers : List (Task × Option Task)}
    {s : Store}, (answers.map (·.1.id)).Nodup → (t, a) ∈ answers →
      (s.answered answers).tasks[t.id]? = a.or s.tasks[t.id]?
  | (v, b) :: answers, s, h, hmem => by
      obtain ⟨hnot, honce⟩ := List.nodup_cons.mp h
      have hothers : ∀ y ∈ answers, y.1.id ≠ v.id := fun y hy heq =>
        hnot (List.mem_map.mpr ⟨y, hy, heq⟩)
      rcases List.mem_cons.mp hmem with heq | hlater
      · cases heq
        cases a with
        | none => rw [answered, getElem?_answered_of_ne hothers, Option.none_or]
        | some u =>
            rw [answered, getElem?_answered_of_ne hothers, Table.getElem?_insert, if_pos rfl,
              Option.some_or]
      · have hne : v.id ≠ t.id := fun heq => hothers _ hlater heq.symm
        cases b with
        | none => rw [answered, getElem?_answered_of_mem honce hlater]
        | some u =>
            rw [answered, getElem?_answered_of_mem honce hlater, Table.getElem?_insert,
              if_neg hne]

theorem answered_eq : ∀ (answers : List (Task × Option Task)) (s : Store),
    s.answered answers = { s with tasks := (s.answered answers).tasks }
  | [], _ => rfl
  | (t, none) :: answers, s => by
      rw [answered]
      exact answered_eq answers s
  | (t, some u) :: answers, s => by
      rw [answered]
      exact answered_eq answers _

/-- Each task stays under its own identifier if what is given back for it
has the same one. -/
theorem TasksFiled.answered : ∀ {answers : List (Task × Option Task)} {s : Store}, s.TasksFiled →
    (∀ t u, (t, some u) ∈ answers → u.id = t.id) → (s.answered answers).TasksFiled
  | [], _, hs, _ => hs
  | (t, none) :: answers, s, hs, h => by
      rw [Store.answered]
      exact hs.answered fun v u hmem => h v u (List.mem_cons_of_mem _ hmem)
  | (t, some u) :: answers, s, hs, h => by
      rw [Store.answered]
      refine TasksFiled.answered (fun id v hv => ?_)
        fun v u hmem => h v u (List.mem_cons_of_mem _ hmem)
      rw [Table.getElem?_insert] at hv
      split at hv
      · rename_i hid
        cases hv
        rw [h t u List.mem_cons_self, hid]
      · exact hs id v hv

namespace TasksFiled

variable (hs : s.TasksFiled) {answers : List (Option Task)}
include hs

/-! ## What becomes of the tasks -/

theorem of_mem_zip {a : Option Task} (h : (t, a) ∈ (s.findTasks q).zip answers) :
    s.tasks[t.id]? = some t ∧ q.isMetBy t = true :=
  hs.mem_findTasks.mp (List.of_mem_zip h).1

theorem nodup_id_zip : (((s.findTasks q).zip answers).map (·.1.id)).Nodup := by
  have hlength : ((s.findTasks q).zip answers).length ≤ (s.findTasks q).length := by
    rw [List.length_zip]
    exact Nat.min_le_left _ _
  rw [List.Nodup, List.pairwise_map, List.pairwise_iff_getElem]
  intro i j hi hj hij heq
  have hlt := List.pairwise_iff_getElem.mp (hs.pairwise_findTasks (q := q)) i j
    (Nat.lt_of_lt_of_le hi hlength) (Nat.lt_of_lt_of_le hj hlength) hij
  rw [List.getElem_zip, List.getElem_zip] at heq
  rw [heq, Std.compare_self] at hlt
  cases hlt

/-- A task that is offered becomes what is given back for it; if it is
declined, it stays as it was. -/
theorem getElem?_answered {a : Option Task} (h : (t, a) ∈ (s.findTasks q).zip answers) :
    (s.answered ((s.findTasks q).zip answers)).tasks[t.id]? = some (a.getD t) := by
  rw [getElem?_answered_of_mem hs.nodup_id_zip h, (hs.of_mem_zip h).1]
  cases a <;> rfl

/-- What does not meet the query stays as it was, and nothing is added. -/
theorem getElem?_answered_of_not {id : String}
    (hnot : ∀ t, s.tasks[id]? = some t → q.isMetBy t = false) :
    (s.answered ((s.findTasks q).zip answers)).tasks[id]? = s.tasks[id]? := by
  refine getElem?_answered_of_ne ?_
  rintro ⟨u, a⟩ hu rfl
  obtain ⟨hfiled, hmet⟩ := hs.of_mem_zip hu
  rw [hnot u hfiled] at hmet
  cases hmet

/-- The changes that commands make are walks with a mutator that does
nothing else. -/
theorem mutateTasks_pure (change : Task → Option Task) :
    (s.mutateTasks q fun t => (pure (change t) : Id (Option Task))).run
      = (s.changeTasks q change, s.changedTasks q change) := by
  have hstore : s.answered ((s.findTasks q).zip ((s.findTasks q).map change))
      = s.changeTasks q change := by
    refine ext_tasks (fun id => ?_) (answered_eq _ _)
    by_cases h : ∃ t, s.tasks[id]? = some t ∧ q.isMetBy t = true
    · obtain ⟨t, ht, hmet⟩ := h
      obtain rfl := hs id t ht
      have hmem : (t, change t) ∈ (s.findTasks q).zip ((s.findTasks q).map change) := by
        rw [← List.map_prod_left_eq_zip]
        exact List.mem_map_of_mem (hs.mem_findTasks.mpr ⟨ht, hmet⟩)
      rw [hs.getElem?_answered hmem, getElem?_changeTasks, ht, Option.map_some, if_pos hmet]
    · have hnot : ∀ t, s.tasks[id]? = some t → q.isMetBy t = false := fun t ht =>
        Bool.eq_false_iff.mpr fun hmet => h ⟨t, ht, hmet⟩
      rw [hs.getElem?_answered_of_not hnot, getElem?_changeTasks_of_not hnot]
  have hlist : ((s.findTasks q).map change).filterMap id = s.changedTasks q change := by
    rw [List.filterMap_map, changedTasks, ← hs.findTasks_eq_filter]
    rfl
  rw [hs.mutateTasks_eq, List.mapM_pure, ← hstore, ← hlist]
  rfl

end TasksFiled

/-- **Looking up and going through all tasks come to the same.** Whether a
query names tasks or not, it finds what is filed and meets it, each task
once and in the order of identifiers. A walk offers these tasks to its
mutator and no others; what is declined or does not meet the query stays as
it was, and each task stays under its own identifier if the mutator keeps
identifiers. Changes are such walks. To take out what is found is to take
out what meets the query, and a staged copy is pruned in this way. -/
theorem queries_agree (hs : s.TasksFiled) (q : TaskQuery) :
    (∀ t, t ∈ s.findTasks q ↔ (∃ id : String, s.tasks[id]? = some t) ∧ q.isMetBy t = true)
      ∧ (s.findTasks q).Pairwise (fun t u => compare t.id u.id = .lt)
      ∧ (∀ (m : Type → Type) [Monad m] [LawfulMonad m] (mutator : Task → m (Option Task)),
        s.mutateTasks q mutator = do
          let answers ← (s.findTasks q).mapM mutator
          return (s.answered ((s.findTasks q).zip answers), answers.filterMap id))
      ∧ (∀ answers : List (Option Task),
        let offered := (s.findTasks q).zip answers
        (∀ t a, (t, a) ∈ offered → (s.answered offered).tasks[t.id]? = some (a.getD t))
          ∧ (∀ id : String, (∀ t, s.tasks[id]? = some t → q.isMetBy t = false) →
            (s.answered offered).tasks[id]? = s.tasks[id]?)
          ∧ ((∀ t u, (t, some u) ∈ offered → u.id = t.id) → (s.answered offered).TasksFiled))
      ∧ (∀ change, (s.mutateTasks q fun t => (pure (change t) : Id (Option Task))).run
        = (s.changeTasks q change, s.changedTasks q change))
      ∧ s.deleteTasks ((s.findTasks q).map Task.id) = s.without [q]
      ∧ ∀ v : Vault, v.staged = some s →
        v.deleteTasks q = .ok { v with staged := some (s.without [q]) } := by
  refine ⟨fun t => ?_, hs.pairwise_findTasks, fun _ _ _ _ => hs.mutateTasks_eq,
    fun answers => ⟨fun _ _ => hs.getElem?_answered, fun _ => hs.getElem?_answered_of_not,
      hs.answered⟩, hs.mutateTasks_pure, hs.deleteTasks_findTasks, fun v hv => ?_⟩
  · rw [hs.mem_findTasks]
    exact and_congr_left fun _ => ⟨fun h => ⟨_, h⟩, fun ⟨_, h⟩ => hs _ _ h ▸ h⟩
  · exact Vault.deleteTasks_eq_ok.mpr ⟨s, hv, by rw [hs.deleteTasks_findTasks]⟩

/-! ## Three tasks -/

/-- What three web servers run. -/
def webSpec : TaskSpec := (Job.plain ⟨"www-data", "prod", "web"⟩ "alice" 3).task

/-- The three of them wait. -/
def threeWaiting : Store :=
  Store.empty.saveTasks (waitingTasks ⟨7, none⟩ Text.freshToken
    ((instanceIds 3).map fun id => (id, webSpec)))

/-- Two of them are named, and one that is not there; of the two, the last
is asked for. -/
def lastOfNamed : TaskQuery :=
  { TaskQuery.everything with
    taskIds := setOf ["nobody", Task.idOf webSpec 2 7 (Text.freshToken 2),
      Task.idOf webSpec 0 7 (Text.freshToken 0)]
    instanceIds := setOf [1, 2] }

/-- Declines every task, and remembers its number. -/
def remember (t : Task) : StateM (List Int32) (Option Task) := do
  modify (· ++ [t.instanceId])
  return none

/-- One is looked up, the same one is offered on a walk through all three,
and the other two are left in a copy that is pruned. -/
theorem queries_agree_on_three :
    threeWaiting.TasksFiled ∧ threeWaiting.tasks.size = 3
      ∧ (∃ t ∈ threeWaiting.findTasks lastOfNamed, t.instanceId = 2)
      ∧ ((threeWaiting.mutateTasks lastOfNamed remember).run []).2 = [2]
      ∧ ∃ v s', Vault.deleteTasks ⟨0, [], some threeWaiting⟩ lastOfNamed = .ok v
        ∧ v.staged = some s' ∧ s'.tasks.size = 2 := by
  have hs : threeWaiting.TasksFiled := Filed.empty.saveTasks.tasks
  obtain ⟨hfound, -, hwalk, -, -, -, hpruned⟩ := queries_agree hs lastOfNamed
  obtain ⟨hthere, hsize, hoffered, hleft⟩ :
      threeWaiting.tasks.values.any (fun t => lastOfNamed.isMetBy t && t.instanceId == 2) = true
        ∧ threeWaiting.tasks.size = 3
        ∧ (((threeWaiting.findTasks lastOfNamed).mapM remember).run []).2 = [2]
        ∧ (threeWaiting.without [lastOfNamed]).tasks.size = 2 := by decide +kernel
  obtain ⟨t, ht, hmet⟩ := List.any_eq_true.mp hthere
  rw [Bool.and_eq_true, beq_iff_eq] at hmet
  refine ⟨hs, hsize, ⟨t, (hfound t).mpr ⟨Table.mem_values.mp ht, hmet.1⟩, hmet.2⟩, ?_,
    _, _, hpruned _ rfl, rfl, hleft⟩
  rw [hwalk]
  generalize (threeWaiting.findTasks lastOfNamed).mapM remember = walk at hoffered ⊢
  exact hoffered

end Store

end JobControl
