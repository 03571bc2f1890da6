import JobControl.Calendar
import JobControl.Cron.Schedule

/-!
# The next run of a schedule

Days are tried one after the other, from the day of the clock to the last day that any schedule
can name. On the first of them only what is later than the clock counts.
-/

namespace JobControl.Cron

open Calendar (Date dateOfDay weekday)

/-- Something runs on a day. -/
def Schedule.runsOn (s : Schedule) (day : Int) : Bool :=
  let date := dateOfDay day
  0 ≤ date.year && s.years.contains date.year.toNat && s.months.contains date.month
    && s.daysOfMonth.contains date.day && s.daysOfWeek.contains (weekday day)

/-- The first second of a day from `earliest` on at which something runs. -/
def Schedule.firstSecond? (s : Schedule) (earliest : Nat) : Option Nat :=
  s.hours.findSome? fun hour =>
    s.minutes.findSome? fun minute =>
      (s.seconds.find? fun second => earliest ≤ hour * 3600 + minute * 60 + second).map
        fun second => hour * 3600 + minute * 60 + second

/-- The last day that a schedule can name, 31 December 2100. -/
def lastDay : Int := 47846

def secondsPerDay : Nat := 86400

/-- The first second from `start` on at which something runs, in seconds of the epoch. -/
def Schedule.firstRun? (s : Schedule) (start : Int) : Option Int :=
  let firstDay := start / secondsPerDay
  let inDay := (start % secondsPerDay).toNat
  (List.range' 0 (lastDay + 1 - firstDay).toNat).findSome? fun (offset : Nat) =>
    let day := firstDay + offset
    if s.runsOn day then
      (s.firstSecond? (if offset == 0 then inDay else 0)).map fun (second : Nat) =>
        day * secondsPerDay + second
    else none

def yearZero : Int := -62167219200

/-- The time in milliseconds of the first run after the second of the clock. Nothing runs before
the epoch, and nothing is predicted for a clock before the year 0. -/
def Schedule.nextRun? (s : Schedule) (nowMs : Int) : Option Int :=
  let start := nowMs / 1000 + 1
  if start < yearZero then none else (s.firstRun? (max 0 start)).map (· * 1000)

/-- The time of the next run of the schedule that a text writes. -/
def nextRun? (text : String) (nowMs : Int64) : Option Int64 :=
  (Schedule.ofText? text).bind fun s => (s.nextRun? nowMs.toInt).map Int64.ofInt

end JobControl.Cron
