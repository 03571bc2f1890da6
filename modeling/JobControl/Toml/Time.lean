import JobControl.Decimal.Nearest

/-!
# Dates and times

A point in time as a settings file writes it: a date, a time of day, or both; both may be
followed by an offset from universal time.
-/

namespace JobControl.Toml

/-- A day of the calendar. -/
structure Date where
  year : Nat
  month : Nat
  day : Nat
  deriving DecidableEq, Repr, Inhabited

/-- A time of day, as exact as it is written. A minute may have a leap second. -/
structure Clock where
  hour : Nat
  minute : Nat
  second : Option Nat
  nano : Option Nat
  deriving DecidableEq, Repr, Inhabited

/-- A distance from universal time. -/
inductive Offset
  | unstated
  | universal
  /-- So many minutes ahead of universal time. -/
  | ahead (minutes : Int)
  deriving DecidableEq, Repr, Inhabited

/-- A point in time; at least one of its date and its time of day is there. -/
structure Time where
  date : Option Date
  clock : Option Clock
  offset : Offset
  deriving DecidableEq, Repr, Inhabited

/-! ## Reading -/

/-- A run of exactly so many digits, and what follows it. -/
def digitRun? (width : Nat) (cs : List Char) : Option (Nat × List Char) :=
  let digits := cs.takeWhile Char.isDigit
  if digits.length == width then some (Decimal.natOf digits, cs.dropWhile Char.isDigit) else none

/-- What follows a given character. -/
def behind? (c : Char) : List Char → Option (List Char)
  | d :: cs => if c == d then some cs else none
  | [] => none

def daysOf (year month : Nat) : Nat :=
  if month == 2 then
    if year % 4 == 0 && (year % 100 != 0 || year % 400 == 0) then 29 else 28
  else if month == 4 || month == 6 || month == 9 || month == 11 then 30
  else 31

/-- A date in front of a text, and what follows it. -/
def Date.read? (cs : List Char) : Option (Date × List Char) := do
  let (year, cs) ← digitRun? 4 cs
  let (month, cs) ← digitRun? 2 (← behind? '-' cs)
  let (day, cs) ← digitRun? 2 (← behind? '-' cs)
  if 1 ≤ month ∧ month ≤ 12 ∧ 1 ≤ day ∧ day ≤ daysOf year month then
    some (⟨year, month, day⟩, cs)
  else none

/-- The nanoseconds that the digits behind a point stand for; digits behind the ninth are
dropped. -/
def nanosOf (digits : List Char) : Nat :=
  Decimal.natOf ((digits ++ List.replicate 9 '0').take 9)

/-- The fraction of a second in front of a text, if there is one, and what follows it. -/
def fraction? : List Char → Option (Option Nat × List Char)
  | '.' :: cs =>
    let digits := cs.takeWhile Char.isDigit
    if digits.isEmpty then none else some (some (nanosOf digits), cs.dropWhile Char.isDigit)
  | cs => some (none, cs)

/-- A time of day in front of a text, and what follows it. Seconds may be left out, and with
them their fraction. -/
def Clock.read? (cs : List Char) : Option (Clock × List Char) := do
  let (hour, cs) ← digitRun? 2 cs
  let (minute, cs) ← digitRun? 2 (← behind? ':' cs)
  if 23 < hour ∨ 59 < minute then none
  match cs with
  | ':' :: cs =>
    let (second, cs) ← digitRun? 2 cs
    let (nano, cs) ← fraction? cs
    if second ≤ 60 then some (⟨hour, minute, some second, nano⟩, cs) else none
  | cs => some (⟨hour, minute, none, none⟩, cs)

/-- An offset that is a whole text. -/
def Offset.ofChars? : List Char → Option Offset
  | [] => some .unstated
  | ['Z'] | ['z'] => some .universal
  | c :: cs => do
    let negative ← if c == '-' then some true else if c == '+' then some false else none
    let (hours, cs) ← digitRun? 2 cs
    let (minutes, cs) ← digitRun? 2 (← behind? ':' cs)
    if cs.isEmpty ∧ hours ≤ 23 ∧ minutes ≤ 59 then
      let count : Int := hours * 60 + minutes
      some (.ahead (if negative then -count else count))
    else none

/-- The point in time that a text writes. A blank or a `T` stands between date and time. -/
def Time.ofChars? (cs : List Char) : Option Time :=
  match Date.read? cs with
  | some (date, []) => some ⟨some date, none, .unstated⟩
  | some (date, c :: cs) =>
    if c == 'T' || c == 't' || c == ' ' then do
      let (clock, cs) ← Clock.read? cs
      let offset ← Offset.ofChars? cs
      some ⟨some date, some clock, offset⟩
    else none
  | none =>
    match Clock.read? cs with
    | some (clock, []) => some ⟨none, some clock, .unstated⟩
    | _ => none

/-! ## Writing -/

/-- A number in at least so many digits. -/
def padded (width n : Nat) : List Char :=
  let digits := Nat.toDigits 10 n
  List.replicate (width - digits.length) '0' ++ digits

def Date.chars (d : Date) : List Char :=
  padded 4 d.year ++ ['-'] ++ padded 2 d.month ++ ['-'] ++ padded 2 d.day

/-- The digits of a fraction of a second: no zeros at the end, but at least one digit. -/
def fractionDigits (nano : Nat) : List Char :=
  let digits := ((padded 9 nano).reverse.dropWhile (· == '0')).reverse
  if digits.isEmpty then ['0'] else digits

def Clock.chars (c : Clock) : List Char :=
  let part (mark : Char) (digits : Option (List Char)) : List Char :=
    digits.elim [] ([mark] ++ ·)
  padded 2 c.hour ++ [':'] ++ padded 2 c.minute ++ part ':' (c.second.map (padded 2))
    ++ part '.' (c.nano.map fractionDigits)

def Offset.chars : Offset → List Char
  | .unstated => []
  | .universal => ['Z']
  | .ahead minutes =>
    [if minutes < 0 then '-' else '+'] ++ padded 2 (minutes.natAbs / 60) ++ [':']
      ++ padded 2 (minutes.natAbs % 60)

def Time.text (t : Time) : String :=
  String.ofList <| match t.date, t.clock with
    | some date, some clock => date.chars ++ ['T'] ++ clock.chars ++ t.offset.chars
    | some date, none => date.chars ++ t.offset.chars
    | none, some clock => clock.chars ++ t.offset.chars
    | none, none => t.offset.chars

end JobControl.Toml
