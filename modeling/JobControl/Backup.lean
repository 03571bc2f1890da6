import JobControl.Fault
import JobControl.Store

/-!
# Backups and recovery

Copies of the store are kept under identifiers that are never used twice; only the newest are
kept. To recover, a copy is staged, where it can be looked at and tasks can be taken out of it,
and then put in place of the store.
-/

namespace JobControl

/-- A copy of the store. -/
structure Backup where
  id : String
  store : Store
  deriving Repr

/-- The copies that are kept, oldest first, the number of copies made so far, and the copy that
is staged. -/
structure Vault where
  /-- Counted without a bound. A counter of 64 bits, which starts again after `2^64` copies, is
  the same up to there. -/
  made : Nat
  kept : List Backup
  staged : Option Store
  deriving Repr

namespace Vault

/-- The vault before the first backup. -/
def empty : Vault := ⟨0, [], none⟩

def idOf (nowMs : Int64) (number : Nat) : String :=
  "backup-" ++ toString nowMs ++ "-" ++ toString number

/-- The newest `n` of a list that is ordered from old to new. -/
def newest {α : Type} (n : Nat) (all : List α) : List α :=
  all.drop (all.length - n)

/-- Keeps a copy of the store; at least one is always kept. -/
def backup (v : Vault) (retention : Nat) (nowMs : Int64) (s : Store) : Vault × String :=
  let id := idOf nowMs v.made
  ({ v with
      made := v.made + 1
      kept := newest (max retention 1) (v.kept ++ [⟨id, s⟩]) }, id)

/-- The identifiers of the copies that are kept. -/
def ids (v : Vault) : List String := v.kept.map Backup.id

/-- Stages a copy, in place of one that is staged. -/
def stage (v : Vault) (id : String) : Except RecoveryRefusal Vault :=
  match v.kept.find? fun b => b.id == id with
  | some b => .ok { v with staged := some b.store }
  | none => .error (.unknownBackup id)

/-- The tasks of the staged copy that meet a query. -/
def query (v : Vault) (q : TaskQuery) : Except RecoveryRefusal (List Task) :=
  match v.staged with
  | some s => .ok (s.findTasks q)
  | none => .error .nothingStaged

/-- Takes the tasks that meet a query out of the staged copy. -/
def deleteTasks (v : Vault) (q : TaskQuery) : Except RecoveryRefusal Vault :=
  match v.staged with
  | some s => .ok { v with staged := some (s.deleteTasks ((s.findTasks q).map Task.id)) }
  | none => .error .nothingStaged

/-- Gives the staged copy away. -/
def take (v : Vault) : Except RecoveryRefusal (Vault × Store) :=
  match v.staged with
  | some s => .ok ({ v with staged := none }, s)
  | none => .error .nothingStaged

def unload (v : Vault) : Vault := { v with staged := none }

end Vault

end JobControl
