import JobControl.Json.Codec
import JobControl.Severity

/-!
# Events

What happens is recorded: every change that was made and every request that was refused. The
log keeps the newest events only, as many as it has room for.
-/

namespace JobControl

/-- What happened. -/
inductive EventKind
  | authFailed
  | lockConflict
  | lockAcquired
  | lockReleased
  | quotaRejected
  | invalidRequest
  | mutationApplied
  | rewriteFailed
  | backendFailure
  deriving DecidableEq, Repr, Inhabited

/-- What an event is about. -/
inductive EventCategory
  | security
  | concurrency
  | quota
  | validation
  | mutation
  | storage
  deriving DecidableEq, Repr, Inhabited

namespace EventCategory

def all : List EventCategory := [security, concurrency, quota, validation, mutation, storage]

/-- The name in records. -/
def label : EventCategory → String
  | security => "Security"
  | concurrency => "Concurrency"
  | quota => "Quota"
  | validation => "Validation"
  | mutation => "Mutation"
  | storage => "Storage"

end EventCategory

namespace EventKind

def all : List EventKind :=
  [authFailed, lockConflict, lockAcquired, lockReleased, quotaRejected, invalidRequest,
    mutationApplied, rewriteFailed, backendFailure]

/-- The name in records. -/
def label : EventKind → String
  | authFailed => "AuthFailed"
  | lockConflict => "LockConflict"
  | lockAcquired => "LockAcquired"
  | lockReleased => "LockReleased"
  | quotaRejected => "QuotaRejected"
  | invalidRequest => "InvalidRequest"
  | mutationApplied => "MutationApplied"
  | rewriteFailed => "RewriteFailed"
  | backendFailure => "BackendFailure"

/-- The name in messages. -/
def name : EventKind → String
  | authFailed => "auth_failed"
  | lockConflict => "lock_conflict"
  | lockAcquired => "lock_acquired"
  | lockReleased => "lock_released"
  | quotaRejected => "quota_rejected"
  | invalidRequest => "invalid_request"
  | mutationApplied => "mutation_applied"
  | rewriteFailed => "rewrite_failed"
  | backendFailure => "backend_failure"

/-- What an event of this kind is about. -/
def category : EventKind → EventCategory
  | authFailed => .security
  | lockConflict | lockAcquired | lockReleased => .concurrency
  | quotaRejected => .quota
  | invalidRequest => .validation
  | mutationApplied | rewriteFailed => .mutation
  | backendFailure => .storage

/-- How much an event of this kind matters. -/
def severity : EventKind → Severity
  | backendFailure => .error
  | authFailed | lockConflict | quotaRejected | rewriteFailed => .warn
  | invalidRequest => .debug
  | lockAcquired | lockReleased | mutationApplied => .info

end EventKind

/-- A record of something that happened. -/
structure Event where
  timestampMs : Int64
  kind : EventKind
  category : EventCategory
  severity : Severity
  source : String
  message : String
  data : Table Json
  deriving BEq, Repr

namespace Event

/-- The record of an event that happens now. -/
def of (kind : EventKind) (nowMs : Int64) (source message : String) : Event :=
  ⟨nowMs, kind, kind.category, kind.severity, source, message, ∅⟩

def withData (e : Event) (name : String) (value : Json) : Event :=
  { e with data := e.data.insert name value }

end Event

/-! ## The log -/

/-- The newest events, oldest first. -/
abbrev EventLog := List Event

namespace EventLog

/-- Drops the oldest event, again and again, as long as there is no room for all of them. -/
def evict (capacity : Nat) : EventLog → EventLog
  | [] => []
  | e :: log => if capacity < (e :: log).length then evict capacity log else e :: log

/-- Adds an event; of more than `capacity` events the oldest are dropped. -/
def record (capacity : Nat) (log : EventLog) (e : Event) : EventLog :=
  evict capacity (log ++ [e])

/-- Forgets all events. -/
def clear (_ : EventLog) : EventLog := []

def ofKind (log : EventLog) (kind : EventKind) : List Event :=
  log.filter fun e => e.kind == kind

def count (log : EventLog) (kind : EventKind) : Nat :=
  log.countP fun e => e.kind == kind

end EventLog

end JobControl
