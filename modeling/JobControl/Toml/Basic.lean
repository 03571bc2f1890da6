import JobControl.Collections
import JobControl.Json.Basic
import JobControl.Toml.Time

/-!
# TOML values

The content of a TOML document. A table remembers how it came about, because that decides what
a later line of the document may still add to it.
-/

namespace JobControl

namespace Toml

/-- How a table came about. -/
inductive Origin
  /-- On the way to the table of a heading. -/
  | implicit
  /-- On the way to the value of a dotted key. -/
  | dotted
  /-- By a heading of its own. -/
  | heading
  /-- Between braces. -/
  | inline
  deriving DecidableEq, Repr, Inhabited

end Toml

/-- A TOML value. -/
inductive Toml
  | text (value : String)
  | int (value : Int)
  | float (value : Float)
  | bool (value : Bool)
  | time (value : Toml.Time)
  /-- An array; `ofTables` if its items are the tables of headings. -/
  | array (ofTables : Bool) (items : List Toml)
  | table (origin : Toml.Origin) (fields : List (String × Toml))
  deriving Repr, Inhabited

namespace Toml

/-- The fields of a table, each name once. -/
abbrev Fields := Entries Toml

mutual

/-- A test holds for every whole number in a value. -/
def allInts (test : Int → Bool) : Toml → Bool
  | .int n => test n
  | .array _ items => allIntsItems test items
  | .table _ fields => allIntsFields test fields
  | .text _ | .float _ | .bool _ | .time _ => true

/-- `allInts` for each item. -/
def allIntsItems (test : Int → Bool) : List Toml → Bool
  | [] => true
  | item :: items => allInts test item && allIntsItems test items

/-- `allInts` for each field. -/
def allIntsFields (test : Int → Bool) : List (String × Toml) → Bool
  | [] => true
  | (_, value) :: fields => allInts test value && allIntsFields test fields

end

mutual

/-- The same content as a JSON value, where points in time are written as the caller says. -/
def toJson (ofTime : Time → Json) : Toml → Json
  | .text s => .str s
  | .int n => .int n
  | .float x => .float x
  | .bool b => .bool b
  | .time t => ofTime t
  | .array _ items => .arr (itemsToJson ofTime items)
  | .table _ fields => .obj (fieldsToJson ofTime fields)

/-- `toJson` on each item. -/
def itemsToJson (ofTime : Time → Json) : List Toml → List Json
  | [] => []
  | item :: items => toJson ofTime item :: itemsToJson ofTime items

/-- `toJson` on each field. -/
def fieldsToJson (ofTime : Time → Json) : List (String × Toml) → List (String × Json)
  | [] => []
  | (name, value) :: fields => (name, toJson ofTime value) :: fieldsToJson ofTime fields

end

end Toml

end JobControl
