import JobControl.Collections
import JobControl.Decimal.Nearest
import JobControl.Json.Basic

/-!
# Layers of settings

Settings come from several sources, one laid over the other. The name of a value at the top of
a source is a path: names between dots, and places in arrays between square brackets. A name
that is no path stands for itself. Objects are laid over objects field by field; anything else
takes the place of what was there.
-/

namespace JobControl.Overlay

/-- A step of a path. A place below zero is counted from the end. -/
inductive Step
  | name (name : String)
  | place (index : Int)
  deriving DecidableEq, Repr, Inhabited

/-! ## Paths -/

/-- The characters of a name in a path. -/
def isNameChar (c : Char) : Bool :=
  c.isAlphanum || c == '_' || c == '-'

/-- The blanks that may stand around the place in an array. -/
def isBlank (c : Char) : Bool := c == ' ' || c == '\t'

/-- A place in an array, which may have a minus sign and has room in 64 bits. -/
def place? (cs : List Char) : Option Step :=
  let cs := (cs.dropWhile isBlank).reverse.dropWhile isBlank |>.reverse
  if cs.head? == some '+' then none
  else
    ((Decimal.int? cs).filter fun n => -0x8000000000000000 ≤ n ∧ n < 0x8000000000000000).map
      .place

/-- The places behind a name, each between square brackets. -/
def places? (cs : List Char) : Option (List Step) :=
  match cs.splitOn '[' with
  | [] :: places => places.mapM fun cs =>
    match cs.reverse with
    | ']' :: inner => place? inner.reverse
    | _ => none
  | _ => none

/-- The steps between two dots: a name, and places behind it. -/
def steps? (cs : List Char) : Option (List Step) :=
  let name := cs.takeWhile isNameChar
  let rest := cs.dropWhile isNameChar
  if name.isEmpty then none
  else (if rest.isEmpty then some [] else places? rest).map fun places =>
    .name (String.ofList name) :: places

/-- The path that a name at the top of a source is. -/
def path (name : String) : List Step :=
  (((name.toList.splitOn '.').mapM steps?).map List.flatten).getD [.name name]

/-! ## Layers -/

/-- The value of a field; `null` if there is none. -/
def get (name : String) (fields : Entries Json) : Json :=
  (fields.lookup name).getD .null

/-- The fields of an object; anything else has none. -/
def fieldsOf (j : Json) : Entries Json := j.object?.getD []

/-- The items of an array; anything else has none. -/
def itemsOf (j : Json) : List Json := j.array?.getD []

mutual

/-- A value with another one laid over it. -/
def laid (below : Json) : Json → Json
  | .obj fields => .obj (laidFields (fieldsOf below) fields)
  | .null => .null
  | .bool b => .bool b
  | .int n => .int n
  | .float x => .float x
  | .str s => .str s
  | .arr items => .arr items
  | .garbled => .garbled

/-- Fields with others laid over them. -/
def laidFields (below : Entries Json) : List (String × Json) → Entries Json
  | [] => below
  | (name, value) :: fields =>
    laidFields (below.put name (laid (get name below) value)) fields

end

/-- An array in which there is a place of the given index, and that place. -/
def withPlace (items : List Json) (index : Int) : List Json × Nat :=
  if 0 ≤ index then
    (items ++ List.replicate (index.toNat + 1 - items.length) .null, index.toNat)
  else
    let missing := index.natAbs - items.length
    (List.replicate missing .null ++ items, items.length + missing - index.natAbs)

/-- A value with another one laid over what is at the end of a path. -/
def laidAt (value : Json) : List Step → Json → Json
  | [], below => laid below value
  | .name name :: path, below =>
    let fields := fieldsOf below
    .obj (fields.put name (laidAt value path (get name fields)))
  | .place index :: path, below =>
    let (items, place) := withPlace (itemsOf below) index
    .arr (items.modify place (laidAt value path))

/-- A layer laid over what is there. -/
def lay (below : Json) (layer : List (String × Json)) : Json :=
  layer.foldl (fun below (name, value) => laidAt value (path name) below) below

/-- The layers of settings, the lowest first, in one. -/
def merged (layers : List (List (String × Json))) : Json :=
  layers.foldl lay (.obj [])

end JobControl.Overlay
