import JobControl.Control.Rewriting
import JobControl.Proofs.Descriptions
import JobControl.Proofs.Filing

/-!
# What a batch of rewrites does

A rewrite command that is carried out does one of two things: it files a
template in place of the only one of its job, or it lets the only active
task of an instance run something else. A batch is a run of such steps;
commands that missed leave no trace in the store. `Batch.keeps` is the
induction over a batch: what every step keeps, the batch keeps.
-/

namespace JobControl

namespace Store

variable {s s' : Store} {commands : List Rewrite} {misses : List RewriteMiss}

/-- A rewrite command is carried out. -/
inductive Applied : Rewrite → Store → Store → Prop
  | job {s : Store} {expected replacement stored job : Job} {manager : String} :
      replacement.sanitize = .ok job → job.key = expected.key → job.owner = expected.owner →
      s.templatesOf expected.key = [(manager, stored)] → (stored == expected) = true →
      Applied (.job expected replacement) s (s.saveJob manager job)
  | task {s s' : Store} {key : InstanceKey} {expected replacement spec : TaskSpec}
      {found : Task} :
      replacement.sanitize = .ok spec →
      s.findTasks ((TaskQuery.ofJob key.job).instances (setOf [key.instanceId])).active
        = [found] →
      (found.spec == expected) = true → s.replaceSpec found.id spec = some s' →
      Applied (.task key expected replacement) s s'

theorem replaceJob_eq_ok {expected job : Job} :
    s.replaceJob expected job = .ok s' ↔ expected.key = job.key ∧ expected.owner = job.owner
      ∧ ∃ manager stored, s.templatesOf expected.key = [(manager, stored)]
      ∧ (stored == expected) = true ∧ s' = s.saveJob manager job := by
  simp only [replaceJob, guard_eq_ok, bne_iff_ne, ne_eq, Decidable.not_not]
  refine and_congr_right fun _ => and_congr_right fun _ => ?_
  rcases s.templatesOf expected.key with _ | ⟨⟨manager, stored⟩, _ | ⟨_, _⟩⟩
  · constructor
    · intro h
      cases h
    · rintro ⟨_, _, h, _⟩
      cases h
  · constructor
    · intro h
      change (if stored == expected then _ else _) = _ at h
      split at h
      · rename_i hs
        exact ⟨manager, stored, rfl, hs, (Except.ok.inj h).symm⟩
      · cases h
    · rintro ⟨_, _, ⟨⟩, hs, rfl⟩
      exact if_pos hs
  · constructor
    · intro h
      cases h
    · rintro ⟨_, _, h, _⟩
      cases h

theorem replaceTask_eq_ok {key : InstanceKey} {expected spec : TaskSpec} :
    s.replaceTask key expected spec = .ok s' ↔ ∃ found,
      s.findTasks ((TaskQuery.ofJob key.job).instances (setOf [key.instanceId])).active
        = [found]
      ∧ (found.spec == expected) = true ∧ s.replaceSpec found.id spec = some s' := by
  rw [replaceTask]
  rcases s.findTasks _ with _ | ⟨found, _ | ⟨_, _⟩⟩
  · constructor
    · intro h
      cases h
    · rintro ⟨_, h, _⟩
      cases h
  · constructor
    · intro h
      simp only at h
      split at h
      · rename_i hs
        split at h
        · rename_i store hr
          exact ⟨found, rfl, hs, hr.trans (congrArg some (Except.ok.inj h))⟩
        · cases h
      · cases h
    · rintro ⟨_, ⟨⟩, hs, hr⟩
      simp only [hs, if_true, hr]
  · constructor
    · intro h
      cases h
    · rintro ⟨_, h, _⟩
      cases h

theorem applied_of_rewrite {command : Rewrite} (h : s.rewrite command = .ok (.ok s')) :
    Applied command s s' := by
  cases command with
  | job expected replacement =>
      cases hjob : replacement.sanitize with
      | error defect =>
          rw [rewrite.eq_def] at h
          simp only [hjob] at h
          cases h
      | ok job =>
          rw [rewrite.eq_def] at h
          simp only [hjob] at h
          obtain ⟨hkey, howner, manager, stored, honly, hsame, rfl⟩ :=
            replaceJob_eq_ok.mp (Except.ok.inj h)
          exact .job hjob hkey.symm howner.symm honly hsame
  | task key expected replacement =>
      cases hspec : replacement.sanitize with
      | error defect =>
          rw [rewrite.eq_def] at h
          simp only [hspec] at h
          cases h
      | ok spec =>
          rw [rewrite.eq_def] at h
          simp only [hspec] at h
          obtain ⟨found, honly, hsame, hfiled⟩ := replaceTask_eq_ok.mp (Except.ok.inj h)
          exact .task hspec honly hsame hfiled

/-- What a command leaves of the tasks: what they were, but for an active
task of the instance that it names, as it is expected, which runs something
else from then on. -/
theorem Applied.tasks {command : Rewrite} (hs : s.Filed) (h : Applied command s s') (id : String) :
    s'.tasks[id]? = s.tasks[id]? ∨ ∃ key expected replacement spec t,
      command = .task key expected replacement ∧ replacement.sanitize = .ok spec
        ∧ s.tasks[id]? = some t ∧ t.jobKey = key.job ∧ t.instanceId = key.instanceId
        ∧ t.status.isActive = true ∧ (t.spec == expected) = true
        ∧ s'.tasks[id]? = some { t with spec := spec } := by
  cases h with
  | job => exact Or.inl rfl
  | @task _ _ key expected replacement spec found hsanitize honly hsame hspec =>
      have hmem : found ∈ s.findTasks
          ((TaskQuery.ofJob key.job).instances (setOf [key.instanceId])).active := by
        simp [honly]
      obtain ⟨hfound, hmet⟩ := hs.tasks.mem_findTasks.mp hmem
      obtain ⟨hjob, hinstance, hactive⟩ := TaskQuery.ofJob_instances_active_isMetBy.mp hmet
      have hthere : found.instanceId = key.instanceId := by
        simpa [setOf_eq_empty_iff] using hinstance
      obtain ⟨filed, hat, rfl⟩ := replaceSpec_eq_some.mp hspec
      obtain rfl := Option.some.inj (hfound.symm.trans hat)
      by_cases hid : found.id = id
      · subst hid
        refine Or.inr ⟨key, expected, replacement, spec, found, rfl, hsanitize, hfound, hjob,
          hthere, hactive, hsame, ?_⟩
        rw [Table.getElem?_insert, if_pos rfl]
      · exact Or.inl (by rw [Table.getElem?_insert, if_neg hid])

/-- Commands are taken in order; each is carried out or misses. -/
inductive Batch : List Rewrite → Store → Store → Prop
  | nil {s : Store} : Batch [] s s
  | applied {command : Rewrite} {commands : List Rewrite} {s mid s' : Store} :
      Applied command s mid → Batch commands mid s' → Batch (command :: commands) s s'
  | missed {command : Rewrite} {commands : List Rewrite} {s s' : Store} :
      Batch commands s s' → Batch (command :: commands) s s'

theorem batch_of_rewriteAll : ∀ {commands : List Rewrite} {s s' : Store}
    {misses : List RewriteMiss}, s.rewriteAll commands = .ok (s', misses) → Batch commands s s'
  | [], s, s', misses, h => by
      cases h
      exact .nil
  | command :: commands, s, s', misses, h => by
      simp only [rewriteAll, bind_eq_ok] at h
      obtain ⟨outcome, hcommand, h⟩ := h
      cases outcome with
      | ok mid => exact .applied (applied_of_rewrite hcommand) (batch_of_rewriteAll h)
      | error miss =>
          simp only [bind_eq_ok, pure_eq_ok, Prod.exists, Prod.mk.injEq] at h
          obtain ⟨_, misses', hrest, rfl, -⟩ := h
          exact .missed (batch_of_rewriteAll hrest)

/-- What every command keeps that is carried out, the batch keeps. -/
theorem Batch.keeps {I : Store → Prop} (h : Batch commands s s')
    (hstep : ∀ command ∈ commands, ∀ a b, Applied command a b → I a → I b) (hs : I s) :
    I s' := by
  induction h with
  | nil => exact hs
  | applied happly _ ih =>
      exact ih (fun c hc => hstep c (List.mem_cons_of_mem _ hc))
        (hstep _ List.mem_cons_self _ _ happly hs)
  | missed _ ih => exact ih (fun c hc => hstep c (List.mem_cons_of_mem _ hc)) hs

end Store

end JobControl
