import JobControl.Text.Blank
import JobControl.Text.UpperCase
import Std.Data.ExtTreeSet

/-!
# Capabilities

What a caller may do beyond the jobs of its own roles. Root may do everything.
-/

namespace JobControl

/-- A privilege of its holder. -/
inductive Capability
  | root
  | provisioner
  | machineMaintainer
  deriving DecidableEq, Repr, Inhabited

namespace Capability

def all : List Capability := [root, provisioner, machineMaintainer]

def name : Capability → String
  | root => "ROOT"
  | provisioner => "PROVISIONER"
  | machineMaintainer => "MACHINE_MAINTAINER"

/-- The form in which a name is compared: without the blanks around it, in upper case. -/
def normalized (text : String) : String :=
  Text.upperCase (Text.trim text)

def ofText? (text : String) : Option Capability :=
  all.find? fun c => c.name == normalized text

/-- The place of a capability in the order. -/
def rank : Capability → Nat
  | root => 0
  | provisioner => 1
  | machineMaintainer => 2

instance : Ord Capability := ⟨compareOn rank⟩

instance : Std.TransOrd Capability := inferInstanceAs (Std.TransCmp (compareOn rank))

theorem rank_injective {a b : Capability} (h : a.rank = b.rank) : a = b := by
  cases a <;> cases b <;> simp_all [rank]

instance : Std.LawfulEqOrd Capability where
  eq_of_compare {a b} h := by
    have h' : compare a.rank b.rank = .eq := h
    exact rank_injective (Std.compare_eq_iff_eq.1 h')

end Capability

abbrev Capabilities := Std.ExtTreeSet Capability

end JobControl
