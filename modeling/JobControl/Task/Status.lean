import Std.Data.ExtTreeSet

/-!
# The status of a task

A task is active until it reaches one of the four terminal states, and unassigned until it is
placed on a host.
-/

namespace JobControl

/-- Where a task stands in its life. -/
inductive Status
  | init
  | throttled
  | pending
  | assigned
  | starting
  | running
  | preempting
  | restarting
  | draining
  | killing
  | finished
  | failed
  | killed
  | lost
  deriving DecidableEq, Repr, Inhabited

namespace Status

/-- All states in their order. -/
def all : List Status :=
  [init, throttled, pending, assigned, starting, running, preempting, restarting, draining,
    killing, finished, failed, killed, lost]

/-- The name of a state in messages and documents. -/
def name : Status → String
  | init => "INIT"
  | throttled => "THROTTLED"
  | pending => "PENDING"
  | assigned => "ASSIGNED"
  | starting => "STARTING"
  | running => "RUNNING"
  | preempting => "PREEMPTING"
  | restarting => "RESTARTING"
  | draining => "DRAINING"
  | killing => "KILLING"
  | finished => "FINISHED"
  | failed => "FAILED"
  | killed => "KILLED"
  | lost => "LOST"

def isTerminal : Status → Bool
  | finished | failed | killed | lost => true
  | _ => false

def isActive (s : Status) : Bool := !s.isTerminal

/-- The task has not been placed on a host yet. -/
def isUnassigned : Status → Bool
  | init | throttled | pending => true
  | _ => false

/-- The place of a state in the order. -/
def rank : Status → Nat
  | init => 0
  | throttled => 1
  | pending => 2
  | assigned => 3
  | starting => 4
  | running => 5
  | preempting => 6
  | restarting => 7
  | draining => 8
  | killing => 9
  | finished => 10
  | failed => 11
  | killed => 12
  | lost => 13

instance : Ord Status := ⟨compareOn rank⟩

instance : Std.TransOrd Status := inferInstanceAs (Std.TransCmp (compareOn rank))

theorem rank_injective {a b : Status} (h : a.rank = b.rank) : a = b := by
  cases a <;> cases b <;> simp_all [rank]

instance : Std.LawfulEqOrd Status where
  eq_of_compare {a b} h := by
    have h' : compare a.rank b.rank = .eq := h
    exact rank_injective (Std.compare_eq_iff_eq.1 h')

/-- The states of tasks that have not ended. -/
def active : List Status := all.filter isActive

end Status

abbrev Statuses := Std.ExtTreeSet Status

end JobControl
