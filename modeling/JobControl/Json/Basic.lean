/-!
# JSON values

A document as it was written: an object keeps its fields in order, repeated names included, so
that a reader who must refuse a repeated field can see it. Whole numbers that fit in 64 bits
stay exact, all other numbers are doubles.

A part of a text can be well formed without standing for a value: a number beyond the doubles,
a string with half of a pair of escapes. It does no harm where nobody looks at it, so it is a
value of its own, which no reader of values takes.
-/

namespace JobControl

/-- A JSON value. -/
inductive Json
  | null
  | bool (value : Bool)
  | int (value : Int)
  | float (value : Float)
  | str (value : String)
  | arr (items : List Json)
  | obj (fields : List (String × Json))
  /-- A part of a text that stands for no value. -/
  | garbled
  deriving Repr, Inhabited, BEq

namespace Json

def object? : Json → Option (List (String × Json))
  | .obj fields => some fields
  | _ => none

def array? : Json → Option (List Json)
  | .arr items => some items
  | _ => none

def text? : Json → Option String
  | .str s => some s
  | _ => none

/-- The value of the first field of that name. -/
def field? (name : String) : Json → Option Json
  | .obj fields => fields.lookup name
  | _ => none

mutual

/-- Nothing in a value is garbled. -/
def isClear : Json → Bool
  | .arr items => areClear items
  | .obj fields => areClearFields fields
  | .garbled => false
  | .null | .bool _ | .int _ | .float _ | .str _ => true

/-- `isClear` for each item. -/
def areClear : List Json → Bool
  | [] => true
  | item :: items => isClear item && areClear items

/-- `isClear` for each field. -/
def areClearFields : List (String × Json) → Bool
  | [] => true
  | (_, value) :: fields => isClear value && areClearFields fields

end

/-- Puts a field in front unless the name occurs later, which then stands for it. -/
def addUnlessLater (name : String) (value : Json) (later : List (String × Json)) :
    List (String × Json) :=
  if later.any (·.1 == name) then later else (name, value) :: later

mutual

/-- The document in which the last of several fields of one name is the only one, at every
depth. -/
def lastWins : Json → Json
  | .arr items => .arr (lastWinsItems items)
  | .obj fields => .obj (lastWinsFields fields)
  | .null => .null
  | .bool b => .bool b
  | .int n => .int n
  | .float x => .float x
  | .str s => .str s
  | .garbled => .garbled

/-- `lastWins` on each item. -/
def lastWinsItems : List Json → List Json
  | [] => []
  | item :: items => lastWins item :: lastWinsItems items

/-- `lastWins` on each field, of which the last of each name is kept. -/
def lastWinsFields : List (String × Json) → List (String × Json)
  | [] => []
  | (name, value) :: fields => addUnlessLater name (lastWins value) (lastWinsFields fields)

end

end Json

end JobControl
