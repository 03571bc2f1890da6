import JobControl.Cron.Grammar
import JobControl.Text.Blank

/-!
# Schedules

A schedule says at which seconds something runs: those whose second, minute, hour, day of the
month, month, day of the week and year are all among the values of its fields. The two fields
for days must both agree. The year may be left out, and a text of five words has no seconds
either and means the full minute.
-/

namespace JobControl.Cron

/-- The values of each field, ascending. -/
structure Schedule where
  seconds : List Nat
  minutes : List Nat
  hours : List Nat
  daysOfMonth : List Nat
  months : List Nat
  daysOfWeek : List Nat
  years : List Nat
  deriving DecidableEq, Repr, Inhabited

/-- The schedules that have a name of their own. -/
def shorthands : List (String × String) :=
  [("@yearly", "0 0 0 1 1 * *"), ("@monthly", "0 0 0 1 * * *"), ("@weekly", "0 0 0 * * 1 *"),
    ("@daily", "0 0 0 * * * *"), ("@hourly", "0 0 * * * * *")]

/-- The schedule of six or seven fields. -/
def Schedule.ofFields? (cs : List Char) : Option Schedule := do
  let (seconds, cs) ← field? .second cs
  let (minutes, cs) ← field? .minute cs
  let (hours, cs) ← field? .hour cs
  let (daysOfMonth, cs) ← field? .dayOfMonth cs
  let (months, cs) ← field? .month cs
  let (daysOfWeek, cs) ← field? .dayOfWeek cs
  let (years, cs) := (field? .year cs).getD (TimeUnit.year.values, cs)
  if cs.isEmpty then some ⟨seconds, minutes, hours, daysOfMonth, months, daysOfWeek, years⟩
  else none

/-- The text of a schedule in full: without the blanks around it, and with the seconds that a
text of five words leaves out. -/
def fullText (text : String) : String :=
  let trimmed := Text.trim text
  if (Text.words trimmed.toList).length == 5 then "0 " ++ trimmed else trimmed

/-- The schedule that a text writes. -/
def Schedule.ofText? (text : String) : Option Schedule :=
  let full := fullText text
  Schedule.ofFields? ((shorthands.lookup full).getD full).toList

end JobControl.Cron
