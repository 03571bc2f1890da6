import JobControl.Control.Launch

/-!
# Commands on locks
-/

namespace JobControl.World

/-- Locks a job for a user, with a fresh token. -/
def lockJob (env : Environment) (w : World) (key : JobKey) (user : String) :
    Except LockConflict (World × Lock) :=
  (w.live.acquireLock key user (w.freshToken env 0) w.nowMs).map fun (store, lock) =>
    ({ w.commit store with issued := w.issued + 1 }, lock)

def acquireLock (env : Environment) (w : World) (p : Principal) (key : JobKey) :
    Except Refusal (World × Response) := do
  let (w, lock) ← checked .lock (w.lockJob env key p.name)
  return (w.record env (.of .lockAcquired w.nowMs Operation.acquireLock.name lock.text),
    ⟨.ok, some "Lock has been acquired.", some (.lock lock), []⟩)

/-- Releases a lock. In checked mode the lock has to be the stored one, if there is one; in
unchecked mode the job's lock is taken out whatever it is. -/
def releaseLock (env : Environment) (w : World) (lock : Lock) (mode : ReleaseMode) :
    Except Refusal (World × Response) := do
  let store ← match mode with
    | .checked => do
      checked .lock (w.live.checkLock lock.key (some lock))
      pure (w.live.releaseLock lock)
    | .unchecked => pure (w.live.removeLock lock.key)
  let w := w.commit store
  return (w.record env (.of .lockReleased w.nowMs Operation.releaseLock.name lock.text),
    .done "Lock has been released." [])

end JobControl.World
