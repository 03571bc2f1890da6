import JobControl.Decimal.Text
import JobControl.Json.Basic
import JobControl.Text.Hex

/-!
# Writing a document

Two layouts are written: the compact one, without any blanks, for tokens and answers, and the
indented one, with two blanks a level, for files. Only the quote, the backslash and the control
characters below U+0020 are escaped. A double that is not finite has no JSON form and is
written as `null`.
-/

namespace JobControl.Json

/-- One character of a string. -/
def escapeChar (c : Char) : List Char :=
  match c with
  | '"' => ['\\', '"']
  | '\\' => ['\\', '\\']
  | '\x08' => ['\\', 'b']
  | '\x0c' => ['\\', 'f']
  | '\n' => ['\\', 'n']
  | '\r' => ['\\', 'r']
  | '\t' => ['\\', 't']
  | c => if c.toNat < 0x20 then ['\\', 'u'] ++ Text.hexPadded 4 c.toNat else [c]

def writeText (s : String) : List Char :=
  ['"'] ++ s.toList.flatMap escapeChar ++ ['"']

/-- A value that holds no other. -/
def writeScalar : Json → List Char
  | .bool true => ['t', 'r', 'u', 'e']
  | .bool false => ['f', 'a', 'l', 's', 'e']
  | .int n => (toString n).toList
  | .float x => if x.isFinite then (Decimal.compact x).toList else ['n', 'u', 'l', 'l']
  | .str s => writeText s
  | _ => ['n', 'u', 'l', 'l']

/-- A layout: what stands behind a colon, and what stands in front of an item at a depth. -/
structure Layout where
  afterColon : List Char
  newLine : Nat → List Char

/-- No blanks at all. -/
def Layout.compact : Layout := ⟨[], fun _ => []⟩

/-- Each item on its own line, two blanks a level. -/
def Layout.indented : Layout := ⟨[' '], fun depth => '\n' :: List.replicate (2 * depth) ' '⟩

mutual

/-- A value that stands at a depth. -/
def write (layout : Layout) (depth : Nat) : Json → List Char
  | .arr [] => ['[', ']']
  | .arr (item :: items) =>
    ['['] ++ layout.newLine (depth + 1) ++ write layout (depth + 1) item
      ++ writeItems layout (depth + 1) items ++ layout.newLine depth ++ [']']
  | .obj [] => ['{', '}']
  | .obj ((name, value) :: fields) =>
    ['{'] ++ layout.newLine (depth + 1) ++ writeText name ++ [':'] ++ layout.afterColon
      ++ write layout (depth + 1) value ++ writeFields layout (depth + 1) fields
      ++ layout.newLine depth ++ ['}']
  | scalar => writeScalar scalar

/-- The items behind the first one. -/
def writeItems (layout : Layout) (depth : Nat) : List Json → List Char
  | [] => []
  | item :: items =>
    [','] ++ layout.newLine depth ++ write layout depth item ++ writeItems layout depth items

/-- The fields behind the first one. -/
def writeFields (layout : Layout) (depth : Nat) : List (String × Json) → List Char
  | [] => []
  | (name, value) :: fields =>
    [','] ++ layout.newLine depth ++ writeText name ++ [':'] ++ layout.afterColon
      ++ write layout depth value ++ writeFields layout depth fields

end

/-- The document on one line. -/
def compact (j : Json) : String :=
  String.ofList (write .compact 0 j)

/-- The document with one item a line. -/
def indented (j : Json) : String :=
  String.ofList (write .indented 0 j)

end JobControl.Json
