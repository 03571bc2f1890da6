import JobControl.Proofs.Runs

/-!
# Requests that fail change nothing

A request takes effect as a whole or not at all. Whatever refuses it, and
however late, the store as it is and as it was committed, the backups, the
staged copy and the modes of hosts are those from before; only the log
knows of the attempt. Operations that are open to everyone have no effect
whatever they answer. Nothing is asked of the world: it need not be one
that a scheduler can come to.
-/

namespace JobControl

theorem Command.operation_access_ne_everyone (c : Command) :
    c.operation.access ≠ .everyone := by
  cases c <;> simp [Command.operation, Operation.access]

namespace World

variable {env : Environment} {w w' : World} {request : Request} {r : Response}

theorem Answered.unchanged_of_failed {seen : Store} (h : Answered env seen w request w' r)
    (hok : r.code ≠ .ok) (hwarning : r.code ≠ .warning) :
    ∃ log, w' = { w with events := log } := by
  cases h with
  | refused => exact ⟨_, rfl⟩
  | viewed => exact ⟨w.events, rfl⟩
  | carried _ _ hdone =>
      obtain ⟨w₁, log, -, rfl, hcode⟩ := carried_of_perform hdone
      rcases hcode with h | h | rfl
      · exact absurd h hok
      · exact absurd h hwarning
      · exact ⟨_, rfl⟩

theorem Answered.unchanged_of_open {seen : Store} (h : Answered env seen w request w' r)
    (hopen : request.operation.access = .everyone) :
    ∃ log, w' = { w with events := log } := by
  cases h with
  | refused => exact ⟨_, rfl⟩
  | viewed => exact ⟨w.events, rfl⟩
  | @carried c => exact absurd hopen c.operation_access_ne_everyone

/-- **A request that is answered as a failure, or that everyone may send,
leaves everything but the log as it was.** -/
theorem unchanged_of_failed_or_open
    (h : ((w.dispatch env request).2.code ≠ .ok ∧ (w.dispatch env request).2.code ≠ .warning)
      ∨ request.operation.access = .everyone) :
    ∃ log, (w.dispatch env request).1 = { w with events := log } :=
  h.elim (fun h => answered_dispatch.unchanged_of_failed h.1 h.2)
    answered_dispatch.unchanged_of_open

/-! ## A batch that fails in its second command -/

/-- The furnished world, in which a host has been drained as well. -/
def furnishedAndDrained : World :=
  (furnished.dispatch rootOnly (byRoot (.drainHosts (setOf ["a"])))).1

/-- What the shop runs. -/
def shopSpec : TaskSpec := (Job.plain ⟨"www-data", "prod", "shop"⟩ "alice" 2).task.populated

/-- The first instance of the shop is made urgent. -/
def urgentFirst : Rewrite :=
  .task ⟨⟨"www-data", "prod", "shop"⟩, 0⟩ shopSpec { shopSpec with priority := some 1 }

/-- The second one is given no processor to run on, which no task may be. -/
def idleSecond : Rewrite :=
  .task ⟨⟨"www-data", "prod", "shop"⟩, 1⟩ shopSpec { shopSpec with numCpus := 0 }

/-- The first command changes a task if it comes alone. With the second one
behind it, there are tasks, a template, a lock, an allotment, a backup, a
staged copy and a host to lose, and all of them are left. -/
theorem unchanged_of_failed_or_open_furnished :
    let w := furnishedAndDrained
    let applied := byRoot (.rewriteConfigs [urgentFirst])
    let failing := byRoot (.rewriteConfigs [urgentFirst, idleSecond])
    ((w.live.tasks.size, w.live.jobs.keys, w.live.locks.keys, w.live.quotas.keys)
          = (2, ["CRON"], ["www-data/prod/nightly"], ["www-data"])
        ∧ (w.vault.ids, w.vault.staged.isSome, w.hosts.toList)
          = (["backup-0-0"], true, [("a", .drained)])
        ∧ w.live.tasks.values.map (·.spec.priority) = [some 0, some 0])
      ∧ ((w.dispatch rootOnly applied).2.code = .ok
        ∧ (w.dispatch rootOnly applied).1.live.tasks.values.map (·.spec.priority)
          = [some 1, some 0])
      ∧ ((w.dispatch rootOnly failing).2.code = .error
        ∧ ∃ log, (w.dispatch rootOnly failing).1 = { w with events := log })
      ∧ ∃ log, (w.dispatch rootOnly (.view .getVersion)).1 = { w with events := log } := by
  intro w applied failing
  have hbefore : (w.live.tasks.size, w.live.jobs.keys, w.live.locks.keys, w.live.quotas.keys)
        = (2, ["CRON"], ["www-data/prod/nightly"], ["www-data"])
      ∧ (w.vault.ids, w.vault.staged.isSome, w.hosts.toList)
        = (["backup-0-0"], true, [("a", .drained)])
      ∧ w.live.tasks.values.map (·.spec.priority) = [some 0, some 0] := by decide +kernel
  have happlied : (w.dispatch rootOnly applied).2.code = .ok
      ∧ (w.dispatch rootOnly applied).1.live.tasks.values.map (·.spec.priority)
        = [some 1, some 0] := by decide +kernel
  have hcode : (w.dispatch rootOnly failing).2.code = .error := by decide +kernel
  refine ⟨hbefore, happlied, ⟨hcode, unchanged_of_failed_or_open (Or.inl ?_)⟩,
    unchanged_of_failed_or_open (Or.inr rfl)⟩
  rw [hcode]
  exact ⟨nofun, nofun⟩

end World

end JobControl
