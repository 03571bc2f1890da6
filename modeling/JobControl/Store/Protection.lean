import JobControl.Calendar
import JobControl.Store

/-!
# Protection by locks

As long as a job is locked, only a caller who presents the stored lock may change it, and
nobody can lock it again.
-/

namespace JobControl

/-- A reason to refuse what concerns a locked job. -/
inductive LockConflict
  /-- No lock was presented. -/
  | locked (key : JobKey)
  /-- Another lock than the stored one was presented. -/
  | foreign (held : Lock)
  /-- The job cannot be locked, because it is. -/
  | inProgress (stored : Lock) (key : JobKey)
  deriving Repr, DecidableEq

def LockConflict.message : LockConflict → String
  | locked key =>
    "Unable to perform operation for: " ++ key.canonical ++ ". Use override/cancel option."
  | foreign held => "Invalid operation context: " ++ held.text
  | inProgress stored key =>
    "Operation for: " ++ key.canonical ++ " is already in progress. Started at: "
      ++ Calendar.instantText stored.timestampMs.toInt ++ ". Current owner: " ++ stored.user
      ++ "."

namespace Store

/-- A job may be changed if it is not locked, or if its lock is presented. -/
def checkLock (s : Store) (key : JobKey) (held : Option Lock) : Except LockConflict Unit :=
  match s.lock? key, held with
  | none, _ => .ok ()
  | some _, none => .error (.locked key)
  | some stored, some held => if held.matches? stored then .ok () else .error (.foreign held)

/-- Locks a job that is not locked. -/
def acquireLock (s : Store) (key : JobKey) (user token : String) (nowMs : Int64) :
    Except LockConflict (Store × Lock) :=
  match s.lock? key with
  | some stored => .error (.inProgress stored key)
  | none =>
    let lock : Lock := ⟨key, token, user, nowMs, none⟩
    .ok (s.saveLock lock, lock)

/-- Takes a lock out if it is the stored one. -/
def releaseLock (s : Store) (lock : Lock) : Store :=
  match s.lock? lock.key with
  | some stored => if stored.token == lock.token then s.removeLock lock.key else s
  | none => s

end Store

end JobControl
