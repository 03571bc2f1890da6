/-!
# The calendar

Days are counted from 1 January 1970, times in whole milliseconds or seconds from its start,
in universal time without leap seconds.
-/

namespace JobControl.Calendar

/-- A year has a leap day if it is divisible by 4, but of the full centuries only each fourth
has one. -/
def isLeapYear (year : Int) : Bool :=
  year % 4 == 0 && (year % 100 != 0 || year % 400 == 0)

/-- A day of the calendar. -/
structure Date where
  year : Int
  month : Nat
  day : Nat
  deriving DecidableEq, Repr, Inhabited

def daysInMonth (year : Int) (month : Nat) : Nat :=
  if month == 2 then if isLeapYear year then 29 else 28
  else if month == 4 || month == 6 || month == 9 || month == 11 then 30
  else 31

/-- The date of a day. Years are taken to begin in March, so that the leap day is the last of
its year, in cycles of 400 years of 146097 days. -/
def dateOfDay (day : Int) : Date :=
  let shifted := day + 719468
  let cycle := shifted / 146097
  let inCycle := (shifted % 146097).toNat
  let yearInCycle := (inCycle - inCycle / 1460 + inCycle / 36524 - inCycle / 146096) / 365
  let inYear := inCycle - (365 * yearInCycle + yearInCycle / 4 - yearInCycle / 100)
  let monthFromMarch := (5 * inYear + 2) / 153
  let dayOfMonth := inYear - (153 * monthFromMarch + 2) / 5 + 1
  let month := if monthFromMarch < 10 then monthFromMarch + 3 else monthFromMarch - 9
  let year : Int := yearInCycle + cycle * 400 + (if month ≤ 2 then 1 else 0)
  ⟨year, month, dayOfMonth⟩

/-- The day of the week, 1 for Sunday to 7 for Saturday. -/
def weekday (day : Int) : Nat :=
  ((day + 4) % 7).toNat + 1

/-- A number with at least `width` digits. -/
def padded (width n : Nat) : String :=
  let digits := Nat.toDigits 10 n
  String.ofList (List.replicate (width - digits.length) '0' ++ digits)

/-- A year outside of 0 to 9999 is written with its sign. -/
def yearText (year : Int) : String :=
  if 0 ≤ year ∧ year ≤ 9999 then padded 4 year.toNat
  else if year < 0 then "-" ++ padded 4 year.natAbs
  else "+" ++ padded 4 year.toNat

/-- The date and time of an instant in universal time, such as `2023-11-14T22:13:20+00:00`;
milliseconds are written if they are not zero. An instant outside of the years -262143 to
262142 is written as its number of milliseconds. -/
def instantText (ms : Int) : String :=
  let day := ms / 86400000
  let inDay := (ms % 86400000).toNat
  let date := dateOfDay day
  if date.year < -262143 || 262142 < date.year then toString ms
  else
    let fraction := if inDay % 1000 == 0 then "" else "." ++ padded 3 (inDay % 1000)
    yearText date.year ++ "-" ++ padded 2 date.month ++ "-" ++ padded 2 date.day ++ "T"
      ++ padded 2 (inDay / 3600000) ++ ":" ++ padded 2 (inDay / 60000 % 60) ++ ":"
      ++ padded 2 (inDay / 1000 % 60) ++ fraction ++ "+00:00"

end JobControl.Calendar
