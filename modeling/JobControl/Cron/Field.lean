/-!
# Fields of a schedule

Each field of a schedule names values of one unit of time: seconds, minutes, hours, days of the
month, months, days of the week or years. An item of a field stands for a span of values in
equal steps.
-/

namespace JobControl.Cron

/-- The units of time of the fields. -/
inductive TimeUnit
  | second
  | minute
  | hour
  | dayOfMonth
  | month
  | dayOfWeek
  | year
  deriving DecidableEq, Repr, Inhabited

namespace TimeUnit

def least : TimeUnit → Nat
  | second | minute | hour => 0
  | dayOfMonth | month | dayOfWeek => 1
  | year => 1970

def greatest : TimeUnit → Nat
  | second | minute => 59
  | hour => 23
  | dayOfMonth => 31
  | month => 12
  | dayOfWeek => 7
  | year => 2100

def values (u : TimeUnit) : List Nat :=
  List.range' u.least (u.greatest + 1 - u.least)

/-- The value is one of the unit's. -/
def holds (u : TimeUnit) (n : Nat) : Bool :=
  u.least ≤ n && n ≤ u.greatest

/-- The names of a unit's values, in lower case. The week begins on Sunday. -/
def names : TimeUnit → List (String × Nat)
  | month =>
    [("jan", 1), ("january", 1), ("feb", 2), ("february", 2), ("mar", 3), ("march", 3),
      ("apr", 4), ("april", 4), ("may", 5), ("jun", 6), ("june", 6), ("jul", 7), ("july", 7),
      ("aug", 8), ("august", 8), ("sep", 9), ("september", 9), ("oct", 10), ("october", 10),
      ("nov", 11), ("november", 11), ("dec", 12), ("december", 12)]
  | dayOfWeek =>
    [("sun", 1), ("sunday", 1), ("mon", 2), ("monday", 2), ("tue", 3), ("tues", 3),
      ("tuesday", 3), ("wed", 4), ("wednesday", 4), ("thu", 5), ("thurs", 5),
      ("thursday", 5), ("fri", 6), ("friday", 6), ("sat", 7), ("saturday", 7)]
  | _ => []

/-- The value that a name stands for, in letters of either case. -/
def named? (u : TimeUnit) (name : String) : Option Nat :=
  u.names.lookup (String.ofList (name.toList.map Char.toLower))

/-- `?` stands for every value in the fields for days. -/
def allowsAny : TimeUnit → Bool
  | dayOfMonth | dayOfWeek => true
  | _ => false

end TimeUnit

/-- What an item selects, as it is written. -/
inductive Selector
  | all
  | point (n : Nat)
  | range (first last : Nat)
  | namedRange (first last : String)
  deriving DecidableEq, Repr

/-- An item of a field, as it is written. -/
inductive Item
  | selector (s : Selector)
  | stepped (s : Selector) (step : Nat)
  | name (s : String)
  deriving DecidableEq, Repr

/-- The values `first`, `first + step`, … up to `last`. -/
structure Span where
  first : Nat
  last : Nat
  step : Nat
  deriving DecidableEq, Repr

def Span.covers (s : Span) (n : Nat) : Bool :=
  s.first ≤ n && n ≤ s.last && (n - s.first) % s.step == 0

/-- The span from one value of a unit to another that is not before it. -/
def TimeUnit.span? (u : TimeUnit) (first last step : Nat) : Option Span :=
  if u.holds first && u.holds last && first ≤ last then some ⟨first, last, step⟩ else none

/-- The span of a selector, in steps. -/
def Selector.span? (u : TimeUnit) (step : Nat) : Selector → Option Span
  | all => some ⟨u.least, u.greatest, step⟩
  | point n => u.span? n n step
  | range first last => u.span? first last step
  | namedRange first last =>
    match u.named? first, u.named? last with
    | some a, some b => u.span? a b step
    | _, _ => none

/-- The span of an item. Steps from a single value go on to the end of the unit. -/
def Item.span? (u : TimeUnit) : Item → Option Span
  | selector s => s.span? u 1
  | stepped s step =>
    if step < 1 || u.greatest < step then none
    else match s with
      | .point n => u.span? n u.greatest step
      | s => s.span? u step
  | name s => (u.named? s).bind fun n => u.span? n n 1

/-- The values that the items of a field name, ascending. -/
def TimeUnit.select? (u : TimeUnit) (items : List Item) : Option (List Nat) :=
  (items.mapM (Item.span? u)).map fun spans =>
    u.values.filter fun n => spans.any (·.covers n)

end JobControl.Cron
