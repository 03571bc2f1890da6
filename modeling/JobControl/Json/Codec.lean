import JobControl.Collections
import JobControl.Json.Basic

/-!
# Values as documents

A value is written as a document and read from one. Fields that a reader does not know are
passed over. A field that it knows must stand once, a field that may be left open may be missing
or `null`, and a field with a default may be missing.
-/

namespace JobControl

/-- How one of finitely many values may be spelled in a document. -/
inductive Json.Spelling
  /-- As its name, or as an object that holds nothing but the name with `null`. -/
  | narrow
  /-- Also as an object that holds the name with an empty object, and a type among several also
  as its place among them. Everything inside of a request may be spelled in this way. -/
  | wide
  deriving DecidableEq, Repr, Inhabited

/-- Values that are written to documents and read from them. -/
class Codec (α : Type) where
  /-- The document of a value. -/
  encode : α → Json
  /-- The value of a document in which names are spelled in a given way. -/
  read : Json.Spelling → Json → Option α

export Codec (encode)

/-- The value of a document. -/
def decode {α : Type} [Codec α] : Json → Option α := Codec.read .narrow

namespace Json

/-! ## Fields of an object -/

/-- The value of a field that may stand at most once. -/
def once (fields : List (String × Json)) (name : String) : Option (Option Json) :=
  match fields.filter (·.1 == name) with
  | [] => some none
  | [(_, value)] => some (some value)
  | _ => none

/-- The value of a field, and what stands for it when it is missing. -/
def taken {α : Type} (read : Json → Option α) (missing : Option α)
    (fields : List (String × Json)) (name : String) : Option α :=
  match once fields name with
  | some (some value) => read value
  | some none => missing
  | none => none

/-- A field that must be there. -/
def required {α : Type} [Codec α] (s : Spelling) (fields : List (String × Json))
    (name : String) : Option α :=
  taken (Codec.read s) none fields name

/-- A field that stands for a default when it is missing. -/
def withDefault {α : Type} [Codec α] (default : α) (s : Spelling)
    (fields : List (String × Json)) (name : String) : Option α :=
  taken (Codec.read s) (some default) fields name

/-- A field that may be missing or `null`. -/
def optional {α : Type} [Codec (Option α)] (s : Spelling) (fields : List (String × Json))
    (name : String) : Option (Option α) :=
  withDefault none s fields name

/-- The name that a spelling of one of finitely many values gives. -/
def spelled? (s : Spelling) : Json → Option String
  | .str name => some name
  | .obj [(name, .null)] => some name
  | .obj [(name, .obj [])] => if s == .wide then some name else none
  | _ => none

/-- One of finitely many values with a name. -/
def named? {α : Type} (all : List α) (name : α → String) (s : Spelling) (j : Json) : Option α :=
  (spelled? s j).bind fun given => all.find? fun a => name a == given

/-- A whole number between two bounds. -/
def intWithin (low high : Int) : Json → Option Int
  | .int n => if low ≤ n ∧ n ≤ high then some n else none
  | _ => none

end Json

/-! ## Plain values -/

instance : Codec Json := ⟨id, fun _ => some⟩

instance : Codec String where
  encode := .str
  read _ := Json.text?

instance : Codec Bool where
  encode := .bool
  read
    | _, .bool b => some b
    | _, _ => none

instance : Codec Int64 where
  encode n := .int n.toInt
  read _ j := (j.intWithin Int64.minValue.toInt Int64.maxValue.toInt).map Int64.ofInt

instance : Codec Int32 where
  encode n := .int n.toInt
  read _ j := (j.intWithin Int32.minValue.toInt Int32.maxValue.toInt).map Int32.ofInt

/-- Counts are at most 64 bits wide. -/
instance : Codec Nat where
  encode n := .int n
  read _ j := (j.intWithin 0 0xFFFFFFFFFFFFFFFF).map Int.toNat

/-- A double that is not finite has no document; `null` stands in its place. -/
instance : Codec Float where
  encode x := if x.isFinite then .float x else .null
  read
    | _, .float x => some x
    | _, .int n => some (Float.ofInt n)
    | _, _ => none

instance {α : Type} [Codec α] : Codec (Option α) where
  encode
    | some a => encode a
    | none => .null
  read
    | _, .null => some none
    | s, j => (Codec.read s j).map some

instance {α : Type} [Codec α] : Codec (List α) where
  encode as := .arr (as.map encode)
  read s j := j.array?.bind fun items => items.mapM (Codec.read s)

/-- A set is written in its order, and read from items in any order. -/
instance {α : Type} [Codec α] [Ord α] [Std.TransOrd α] : Codec (Std.ExtTreeSet α) where
  encode as := .arr (as.toList.map encode)
  read s j := j.array?.bind fun items => (items.mapM (Codec.read s)).map setOf

/-- A table is an object; the last of several entries of one name stays. -/
instance {α : Type} [Codec α] : Codec (Table α) where
  encode t := .obj (t.toList.map fun entry => (entry.1, encode entry.2))
  read s j := j.object?.bind fun fields =>
    (fields.mapM fun field => (Codec.read s field.2).map fun a => (field.1, a)).map
      Table.ofEntries

end JobControl
