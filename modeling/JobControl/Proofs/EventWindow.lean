import JobControl.Backup
import JobControl.Event
import Mathlib.Data.List.DropRight

/-!
# The events that are kept

What a log holds after any use of it is told by the events that have been
recorded since it was cleared last: it is the end of their list, as long as
there is room. A log that is cleared begins anew, and a log without room
stays empty.

A log drops its oldest events one by one until the others have room, which
leaves the newest of them (`evict_eq_newest`). From there the proof goes
along the uses of the log. What carries it is that nothing is lost by
dropping early: an event that was dropped because of the events behind it
would have been dropped because of them in the end.
-/

namespace JobControl

/-! ## The newest of a list -/

namespace Vault

variable {α : Type} {n : Nat} {all : List α}

theorem newest_eq_rtake : newest n all = all.rtake (min all.length n) := by
  rw [newest, List.rtake]
  congr 1
  omega

theorem newest_nil : newest n ([] : List α) = [] := List.drop_nil

/-- To drop the oldest after each addition is to drop them in the end. -/
theorem newest_append (a : α) : newest n (newest n all ++ [a]) = newest n (all ++ [a]) := by
  have hle : all.length - n ≤ all.length := Nat.sub_le _ _
  rw [newest, newest, newest, ← List.drop_append_of_le_length hle, List.drop_drop]
  congr 1
  simp only [List.length_drop, List.length_append, List.length_singleton]
  omega

end Vault

namespace EventLog

variable {capacity : Nat} {log : EventLog} {uses : List Use} {e : Event}

/-! ## Dropping the oldest -/

theorem evict_eq_newest : evict capacity log = Vault.newest capacity log := by
  induction log with
  | nil => exact Vault.newest_nil.symm
  | cons e log ih =>
      rw [evict, Vault.newest]
      split
      · rename_i hfull
        rw [List.length_cons] at hfull
        have hmore : (e :: log).length - capacity = log.length - capacity + 1 := by
          rw [List.length_cons]
          omega
        rw [ih, hmore, List.drop_succ_cons, Vault.newest]
      · rename_i hroom
        rw [Nat.sub_eq_zero_of_le (Nat.not_lt.mp hroom), List.drop_zero]

/-- To record an event is to add it, and to keep as many as there is room for. -/
theorem record_eq_newest : log.record capacity e = Vault.newest capacity (log ++ [e]) :=
  evict_eq_newest

/-! ## Uses of a log -/

/-- What is done to a log. -/
inductive Use
  | record (e : Event)
  | clear

namespace Use

/-- The event that is recorded. -/
def event? : Use → Option Event
  | record e => some e
  | clear => none

def apply (capacity : Nat) (log : EventLog) : Use → EventLog
  | record e => log.record capacity e
  | clear => log.clear

end Use

/-- What a log that was empty holds after it has been used. -/
def after (capacity : Nat) (uses : List Use) : EventLog :=
  uses.foldl (Use.apply capacity) []

/-- The events that were recorded since the log was cleared last, oldest first. -/
def sinceClear (uses : List Use) : List Event :=
  (uses.rtakeWhile (·.event?.isSome)).filterMap Use.event?

theorem after_concat (use : Use) :
    after capacity (uses ++ [use]) = use.apply capacity (after capacity uses) := by
  rw [after, List.foldl_append]
  rfl

theorem sinceClear_record : sinceClear (uses ++ [.record e]) = sinceClear uses ++ [e] := by
  rw [sinceClear, List.rtakeWhile_concat_pos _ _ _ rfl, List.filterMap_append]
  rfl

theorem sinceClear_clear : sinceClear (uses ++ [.clear]) = [] := by
  rw [sinceClear, List.rtakeWhile_concat_neg _ _ _ Bool.false_ne_true]
  rfl

/-- One use of a log keeps it the end of what was recorded. -/
theorem apply_newest (use : Use) :
    use.apply capacity (Vault.newest capacity (sinceClear uses))
      = Vault.newest capacity (sinceClear (uses ++ [use])) := by
  cases use with
  | record e =>
      rw [sinceClear_record, ← Vault.newest_append, ← record_eq_newest]
      rfl
  | clear =>
      rw [sinceClear_clear, Vault.newest_nil]
      rfl

theorem after_eq_newest (capacity : Nat) (uses : List Use) :
    after capacity uses = Vault.newest capacity (sinceClear uses) := by
  induction uses using List.reverseRecOn with
  | nil => exact Vault.newest_nil.symm
  | append_singleton uses use ih => rw [after_concat, ih, apply_newest]

/-- **A log holds exactly the newest events.** Of the events that were
recorded since it was cleared last, it holds as many of the last ones as it
has room for, in the order in which they were recorded; and the events of a
kind, as well as their number, are what is found among these. -/
theorem holds_newest (capacity : Nat) (uses : List Use) :
    let events := sinceClear uses
    let kept := events.rtake (min capacity events.length)
    after capacity uses = kept
      ∧ ∀ kind, (after capacity uses).ofKind kind = kept.filter (fun e => e.kind = kind)
        ∧ (after capacity uses).count kind = (kept.filter fun e => e.kind = kind).length := by
  intro events kept
  have hkept : after capacity uses = kept := by
    rw [after_eq_newest, Vault.newest_eq_rtake, Nat.min_comm]
  refine ⟨hkept, fun kind => ?_⟩
  rw [hkept]
  exact ⟨rfl, List.countP_eq_length_filter⟩

example (a b c d e : Event) :
    after 2 [.record a, .record b, .clear, .record c, .record d, .record e] = [d, e] := rfl

end EventLog

end JobControl
