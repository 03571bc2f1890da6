import JobControl.Task.Status

/-!
# Transitions

What a request to move a task comes to. A task that waits is killed at once, one that is placed
has to be told first; only a task that runs or is about to run can be restarted. Every other
move is allowed to anywhere but where the task already is.
-/

namespace JobControl.Status

/-- The state that a task enters when it is asked to move to `target`, if it moves at all. -/
def resolve (source target : Status) : Option Status :=
  match target with
  | .killing | .killed =>
    if source.isUnassigned then some .killed
    else if source.isActive && source != .killing then some .killing
    else none
  | .restarting =>
    match source with
    | .assigned | .starting | .running => some .restarting
    | _ => none
  | _ => if source != target then some target else none

/-- The state that a task enters when it is forced to `target`. -/
def force (source target : Status) : Option Status :=
  if source != target then some target else none

end JobControl.Status
