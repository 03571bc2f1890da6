import JobControl.JobKey

/-!
# Locks

A lock keeps everyone but its holder from changing a job. What proves that a caller holds it is
its token, which no other lock has.
-/

namespace JobControl

/-- A lock on a job. -/
structure Lock where
  key : JobKey
  token : String
  user : String
  timestampMs : Int64
  message : Option String
  deriving DecidableEq, Repr, Inhabited

namespace Lock

def text (l : Lock) : String :=
  "Lock(key: " ++ l.key.canonical ++ ", token: " ++ l.token ++ ", user: " ++ l.user
    ++ ", timestamp: " ++ toString l.timestampMs ++ ")"

/-- Two locks are the same if they agree in job and token. -/
def matches? (held stored : Lock) : Bool :=
  held.key == stored.key && held.token == stored.token

end Lock

/-- Whether the holder of a lock has to prove it when it is released. -/
inductive ReleaseMode
  | checked
  | unchecked
  deriving DecidableEq, Repr, Inhabited

end JobControl
