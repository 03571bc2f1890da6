import JobControl.Job

/-!
# Rewrite commands

An administrator may replace the stored form of a job or of a single task. A command says what
it expects to find, and is refused if it finds anything else.
-/

namespace JobControl

/-- Replaces what is stored, if it is what the command expects. -/
inductive Rewrite
  | job (expected replacement : Job)
  | task (key : InstanceKey) (expected replacement : TaskSpec)
  deriving BEq, Repr

end JobControl
