import JobControl.Text.Hex

/-!
# Writing TOML

Documents are written line by line: headings with a blank line in front of each but the first,
and fields with plain values. A text is written in the quotes that need the least escaping:
double quotes if nothing has to be escaped between them, else single quotes, else three double
or three single quotes, and if none of them will do, with escapes.
-/

namespace JobControl.Toml

/-- The values that are written. -/
inductive Plain
  | text (value : String)
  | int (value : Int)
  | bool (value : Bool)
  | texts (values : List String)
  deriving DecidableEq, Repr, Inhabited

/-- The lines that are written. -/
inductive Line
  /-- `[path]` -/
  | table (path : List String)
  /-- `[[path]]` -/
  | item (path : List String)
  /-- `name = value` -/
  | field (name : String) (value : Plain)
  deriving DecidableEq, Repr, Inhabited

/-! ## Text -/

/-- How a text is quoted. -/
inductive Style
  | basic
  | literal
  | basicLines
  | literalLines
  /-- Between three double quotes, with escapes. -/
  | escapedLines
  /-- Between double quotes, with escapes. -/
  | escaped
  deriving DecidableEq, Repr

/-- The characters that stand in quotes only as escapes. -/
def needsCode (c : Char) : Bool :=
  c != '\t' && c != '\n' && (c.toNat ≤ 0x1F || c.toNat == 0x7F)

/-- The length of the longest run of a character, behind a run of the given length. -/
def longestRun (c : Char) : Nat → List Char → Nat
  | run, [] => run
  | run, d :: cs => if d == c then longestRun c (run + 1) cs else max run (longestRun c 0 cs)

/-- The way in which a text is quoted. -/
def styleOf (cs : List Char) : Style :=
  let codes := cs.any needsCode
  let escape := cs.contains '\\'
  let newline := cs.contains '\n'
  let basic := longestRun '"' 0 cs
  let literal := longestRun '\x27' 0 cs
  if !codes && !escape && basic == 0 && !newline then .basic
  else if !codes && literal == 0 && !newline then .literal
  else if !codes && !escape && basic ≤ 2 then .basicLines
  else if !codes && literal ≤ 2 then .literalLines
  else if newline then .escapedLines
  else .escaped

/-- A character other than a double quote, between double quotes; `lines` if there are three of
them on each side, so that a line break stands for itself. -/
def escapedChar (lines : Bool) (c : Char) : List Char :=
  match c with
  | '\x08' => ['\\', 'b']
  | '\t' => ['\\', 't']
  | '\n' => if lines then ['\n'] else ['\\', 'n']
  | '\x0c' => ['\\', 'f']
  | '\r' => ['\\', 'r']
  | '\\' => ['\\', '\\']
  | c =>
    if needsCode c then ['\\', 'u'] ++ (Text.hexPadded 4 c.toNat).map Char.toUpper else [c]

/-- Characters between double quotes, behind a run of double quotes of which up to two may
stand for themselves if there are three on each side. -/
def escapedChars (lines : Bool) : Nat → List Char → List Char
  | _, [] => []
  | run, c :: cs =>
    if c == '"' then
      if lines && run < 2 then c :: escapedChars lines (run + 1) cs
      else ['\\', c] ++ escapedChars lines 0 cs
    else escapedChar lines c ++ escapedChars lines 0 cs

/-- Characters between quotes; a text with a line break starts on a line of its own. -/
def between (quote : Char) (lines : Bool) (content : List Char) : List Char :=
  let quotes := List.replicate (if lines then 3 else 1) quote
  let opening := if lines && content.contains '\n' then ['\n'] else []
  quotes ++ opening ++ content ++ quotes

def quoted (cs : List Char) : List Char :=
  match styleOf cs with
  | .basic | .escaped => between '"' false (escapedChars false 0 cs)
  | .literal => between '\x27' false cs
  | .basicLines | .escapedLines => between '"' true (escapedChars true 0 cs)
  | .literalLines => between '\x27' true cs

/-! ## Lines -/

/-- The written form of a value. A list of two or more texts has one on each line. -/
def Plain.chars : Plain → List Char
  | text s => quoted s.toList
  | int n => (toString n).toList
  | bool b => if b then ['t', 'r', 'u', 'e'] else ['f', 'a', 'l', 's', 'e']
  | texts [] => ['[', ']']
  | texts [s] => ['['] ++ quoted s.toList ++ [']']
  | texts ss =>
    ['[', '\n']
      ++ ss.flatMap (fun s => List.replicate 4 ' ' ++ quoted s.toList ++ [',', '\n']) ++ [']']

/-- The names of a path with dots between them. -/
def pathChars (path : List String) : List Char :=
  (path.map String.toList).intersperse ['.'] |>.flatten

/-- The written form of a line; `first` if no line is in front of it. -/
def Line.chars (first : Bool) : Line → List Char
  | table path => (if first then [] else ['\n']) ++ ['['] ++ pathChars path ++ [']', '\n']
  | item path =>
    (if first then [] else ['\n']) ++ ['[', '['] ++ pathChars path ++ [']', ']', '\n']
  | field name value => name.toList ++ [' ', '=', ' '] ++ value.chars ++ ['\n']

/-- The written form of a document. -/
def written (lines : List Line) : String :=
  String.ofList <| match lines with
    | [] => []
    | line :: lines => line.chars true ++ lines.flatMap (Line.chars false)

end JobControl.Toml
