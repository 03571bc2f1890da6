import JobControl.Store

/-!
# Maintenance of hosts

A host that is to be maintained is first scheduled for it, then drained of its tasks, and in the
end given back. A host that nobody has named is in normal use.
-/

namespace JobControl

/-- Where a host stands in its maintenance. -/
inductive HostMode
  | normal
  | scheduled
  | draining
  | drained
  deriving DecidableEq, Repr, Inhabited

namespace HostMode

def all : List HostMode := [normal, scheduled, draining, drained]

/-- The name of a mode in documents. -/
def name : HostMode → String
  | normal => "NONE"
  | scheduled => "SCHEDULED"
  | draining => "DRAINING"
  | drained => "DRAINED"

end HostMode

/-- The modes of the hosts that are not in normal use. -/
abbrev HostModes := Table HostMode

namespace HostModes

def modeOf (modes : HostModes) (host : String) : HostMode :=
  modes.getD host .normal

/-- The modes of certain hosts. -/
def report (modes : HostModes) (hosts : Names) : HostModes :=
  Table.ofEntries (hosts.toList.map fun host => (host, modes.modeOf host))

/-- Gives each of certain hosts a mode. -/
def assign (modes : HostModes) (hosts : Names) (mode : String → HostMode) : HostModes :=
  hosts.toList.foldl (fun modes host => modes.insert host (mode host)) modes

/-- Gives certain hosts back to normal use. -/
def release (modes : HostModes) (hosts : Names) : HostModes :=
  hosts.toList.foldl (fun modes host => modes.erase host) modes

end HostModes

/-- A host is drained as soon as no active task is on it. -/
def Store.drainMode (s : Store) (host : String) : HostMode :=
  if (s.findTasks (TaskQuery.ofHost host).active).isEmpty then .drained else .draining

end JobControl
