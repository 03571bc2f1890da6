import JobControl.Backup
import JobControl.Event
import JobControl.Files
import JobControl.Response
import JobControl.Store.Life
import JobControl.Store.Snapshot

/-!
# The world of the scheduler

The state that requests act on: the store twice, as it is and as it was committed last, the
backups, the hosts in maintenance and the events; and what surrounds the scheduler: the clock,
the files, and the number of fresh tokens that have been handed out.
-/

namespace JobControl

/-- What does not change while the scheduler runs. -/
structure Environment where
  /-- Whom a credential belongs to at a time. -/
  recognise : Int64 → Credential → Except Denial Principal
  /-- The `n`-th fresh token. -/
  token : Nat → String
  /-- The number of backups to keep. -/
  retention : Nat
  /-- The number of events to keep. -/
  eventCapacity : Nat
  /-- The file to which the store is written. -/
  snapshotPath : Option String

/-- The scheduler and what surrounds it. -/
structure World where
  nowMs : Int64
  issued : Nat
  files : Files
  live : Store
  committed : Store
  vault : Vault
  hosts : HostModes
  events : EventLog
  deriving Repr

namespace World

/-- The world of a scheduler that starts with a store. -/
def start (nowMs : Int64) (issued : Nat) (files : Files) (s : Store) : World :=
  ⟨nowMs, issued, files, s, s, .empty, ∅, []⟩

/-- Puts a store in place, and commits it. -/
def commit (w : World) (s : Store) : World :=
  { w with live := s, committed := s }

def record (env : Environment) (w : World) (e : Event) : World :=
  { w with events := w.events.record env.eventCapacity e }

/-- The stamp of the steps that the scheduler itself takes. -/
def stamp (w : World) : Stamp := ⟨w.nowMs, some "scheduler-admin"⟩

/-- The fresh token after the next `i`. -/
def freshToken (env : Environment) (w : World) (i : Nat) : String :=
  env.token (w.issued + i + 1)

/-- Creates a waiting task for each instance and commits them. -/
def launch (env : Environment) (w : World) (stamp : Stamp)
    (specs : List (Int32 × TaskSpec)) : World :=
  { w.commit (w.live.saveTasks (waitingTasks stamp (w.freshToken env) specs)) with
    issued := w.issued + specs.length }

/-- Carries out some work on a copy of the store, and on the number of fresh tokens. The copy is
committed if the work succeeds; the tokens that it took are gone either way. -/
def transact {ε α : Type} (w : World) (work : Store × Nat → Except ε α × (Store × Nat)) :
    World × Except ε α :=
  match work (w.live, w.issued) with
  | (.ok a, store, issued) => ({ w.commit store with issued := issued }, .ok a)
  | (.error e, _, issued) => ({ w with issued := issued }, .error e)

def advance (w : World) (ms : Int64) : World :=
  { w with nowMs := w.nowMs + ms }

/-! ## Snapshots in files -/

/-- Writes the committed store to a file, if there is one to write to. -/
def writeSnapshot (env : Environment) (w : World) : Except Fault World :=
  match env.snapshotPath with
  | none => .ok w
  | some path =>
    match w.files.write path w.committed.snapshot with
    | .ok files => .ok { w with files := files }
    | .error fault => .error (.snapshot (.unwritable path fault.message))

/-- The store that a scheduler starts with: that of its snapshot file, if there is one. -/
def load (snapshotPath : Option String) (files : Files) : Except Fault Store :=
  match snapshotPath with
  | none => .ok .empty
  | some path =>
    match files.find path with
    | .ok (.file text) =>
      match Store.ofSnapshot? text with
      | some s => .ok s
      | none => .error (.snapshot (.unreadable path))
    | .ok .directory => .error (.stated .storage Files.PathFault.isDirectory.message)
    | .error .missing => .ok .empty
    | .error fault => .error (.stated .storage fault.message)

/-- The world after the scheduler has been started anew, with nothing left but time and
files. -/
def restart (env : Environment) (w : World) : Except Fault World :=
  (load env.snapshotPath w.files).map (start w.nowMs w.issued w.files)

end World

end JobControl
