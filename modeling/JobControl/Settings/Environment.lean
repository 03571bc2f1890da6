import JobControl.Collections
import JobControl.Decimal.Nearest
import JobControl.Decimal.Text
import JobControl.Settings.Manner
import JobControl.Text.UpperCase

/-!
# Settings in the environment

A variable whose name starts with `SCHEDULER_`, in letters of either case, is a setting: two
underscores in the rest of the name stand between the names of a section and of a field. Its
text is taken for a truth value or a number if it looks like one. Since the text does not say
what kind of value it means, a value that is asked for as another kind is converted.
-/

namespace JobControl

namespace Variable

/-- A letter in lower case, as far as the name of a setting can tell: an ASCII letter, or the
Kelvin sign, whose lower case is `k`. -/
def lowerChar (c : Char) : Char :=
  if c == '\u212A' then 'k' else c.toLower

/-- What the names of variables that are settings start with, in lower case. -/
def leading : List Char :=
  ['s', 'c', 'h', 'e', 'd', 'u', 'l', 'e', 'r', '_']

/-- A name in which a dot stands for two underscores. -/
def dotted : List Char → List Char
  | '_' :: '_' :: cs => '.' :: dotted cs
  | c :: cs => c :: dotted cs
  | [] => []

/-- The name of the setting that a variable is. -/
def setting? (name : String) : Option String :=
  let name := name.toList.map lowerChar
  if leading.isPrefixOf name then some (String.ofList (dotted (name.drop leading.length)))
  else none

/-- A whole number that has room in 64 bits. -/
def long? (cs : List Char) : Option Int :=
  (Decimal.int? cs).filter fun n => -0x8000000000000000 ≤ n ∧ n < 0x8000000000000000

/-- The value that the text of a variable looks like. -/
def value (text : String) : Json :=
  match Text.asciiLowerCase text with
  | "true" => .bool true
  | "false" => .bool false
  | _ =>
    match long? text.toList with
    | some n => .int n
    | none =>
      match Decimal.double? text.toList with
      | some x => .float x
      | none => .str text

/-- The settings among some variables. -/
def layer (vars : Table String) : List (String × Json) :=
  vars.toList.filterMap fun (name, text) =>
    (setting? name).map fun setting => (setting, value text)

/-! ## Conversions -/

/-- The truth value that a word stands for. -/
def truth? (text : String) : Option Bool :=
  match Text.asciiLowerCase text with
  | "true" | "on" | "yes" => some true
  | "false" | "off" | "no" => some false
  | _ => none

def text : Json → Option String
  | .str s => some s
  | .bool b => some (if b then "true" else "false")
  | .int n => some (toString n)
  | .float x => some (Decimal.plain x)
  | _ => none

/-- A value as a whole number; a double is rounded, half away from zero. -/
def long : Json → Option Int64
  | .int n => some (Int64.ofInt n)
  | .bool b => some (if b then 1 else 0)
  | .float x => some x.round.toInt64
  | .str s =>
    match truth? s with
    | some b => some (if b then 1 else 0)
    | none => (long? s.toList).map Int64.ofInt
  | _ => none

/-- A count that a text writes, which has room in 64 bits and no minus sign. -/
def count? : List Char → Option Nat
  | '-' :: _ => none
  | cs => ((Decimal.int? cs).map Int.toNat).filter (· < 0x10000000000000000)

/-- A value as a count; a double is rounded, half away from zero, and none is below zero. -/
def count : Json → Option Nat
  | .int n => if 0 ≤ n then some n.toNat else none
  | .bool b => some (if b then 1 else 0)
  | .float x => some x.round.toUInt64.toNat
  | .str s =>
    match truth? s with
    | some b => some (if b then 1 else 0)
    | none => count? s.toList
  | _ => none

/-- A value as a truth value; of the numbers only zero is false. -/
def flag : Json → Option Bool
  | .bool b => some b
  | .int n => some (n != 0)
  | .float x => some (x != 0)
  | .str "1" => some true
  | .str "0" => some false
  | .str s => truth? s
  | _ => none

end Variable

/-- How sources that do not know the kinds of their values give single values: each is
converted to the kind that is asked for. -/
def Manner.converting : Manner where
  text := Variable.text
  long := Variable.long
  count := Variable.count
  flag := Variable.flag

end JobControl
