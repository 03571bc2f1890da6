import JobControl.Toml.Scalar
import JobControl.Toml.Table
import JobControl.Toml.Token

/-!
# Statements of a TOML document

A document is a sequence of statements, each on a line of its own: a heading, which names the
table that the next lines fill, or a key and its value. Only between brackets or braces may a
value go on in the next line, and only there may a comma stand behind the last part. Tokens are
put together by a machine: in front of the sign `=` it keeps the tokens as they are, behind it
it builds a value with a stack of the brackets that are open.
-/

namespace JobControl.Toml

/-- A line of a document. -/
inductive Statement
  /-- `[path]`: the next lines fill this table. -/
  | table (path : List String)
  /-- `[[path]]`: the next lines fill a new table at the end of this array. -/
  | item (path : List String)
  /-- `path = value`. -/
  | field (path : List String) (value : Toml)
  deriving Repr, Inhabited

/-- A list without the items at its two ends for which a test holds. -/
def trimmed {α : Type} (test : α → Bool) (items : List α) : List α :=
  ((items.dropWhile test).reverse.dropWhile test).reverse

/-- The blanks that may stand around the parts of a line. -/
def Token.isBlank : Token → Bool
  | .blank _ => true
  | _ => false

/-! ## Keys and headings -/

/-- The characters of a key without quotes. -/
def isKeyChar (c : Char) : Bool :=
  c.isAlphanum || c == '_' || c == '-'

/-- The name that one part of a key is. -/
def keyPart? (tokens : List Token) : Option String :=
  match trimmed Token.isBlank tokens with
  | [.atom name] => if name.toList.all isKeyChar then some name else none
  | [.text name false] => some name
  | _ => none

/-- The number of parts that a key may have, and of brackets that may be open at a time. -/
def maxDepth : Nat := 80

/-- The parts of a key, between which there are dots. -/
def key? (tokens : List Token) : Option (List String) :=
  let parts := tokens.splitOn .dot
  if parts.length ≤ maxDepth then parts.mapM keyPart? else none

/-- The heading in a line; a blank line has none. -/
def heading? (tokens : List Token) : Option (Option Statement) :=
  match trimmed Token.isBlank tokens with
  | [] => some none
  | .openSquare :: .openSquare :: tokens =>
    match tokens.reverse with
    | .closeSquare :: .closeSquare :: path => (key? path.reverse).map fun p => some (.item p)
    | _ => none
  | .openSquare :: tokens =>
    match tokens.reverse with
    | .closeSquare :: path => (key? path.reverse).map fun p => some (.table p)
    | _ => none
  | _ => none

/-! ## Values -/

/-- A part of a value that is being read. -/
inductive Piece
  | token (token : Token)
  | value (value : Toml)
  deriving Repr, Inhabited

/-- Blanks and line breaks. -/
def Piece.isGap : Piece → Bool
  | .token .newline => true
  | .token t => t.isBlank
  | .value _ => false

/-- The sign between a key and its value. -/
def Piece.isEquals : Piece → Bool
  | .token .equals => true
  | _ => false

/-- The token that a piece is. -/
def Piece.token? : Piece → Option Token
  | .token t => some t
  | .value _ => none

/-- The characters that a piece adds to an unquoted value. -/
def Piece.chars? : Piece → Option (List Char)
  | .token (.atom s) => some s.toList
  | .token (.blank s) => some s.toList
  | .token .dot => some ['.']
  | _ => none

/-- The value that pieces make up. -/
def value? (pieces : List Piece) : Option Toml :=
  match trimmed Piece.isGap pieces with
  | [.value v] => some v
  | [.token (.text s _)] => some (.text s)
  | pieces => (pieces.mapM Piece.chars?).bind fun runs => scalar? runs.flatten

/-- The parts between commas that hold something: behind the last comma there may be nothing. -/
def filled (parts : List (List Piece)) : List (List Piece) :=
  if (parts.getLast?.getD []).all Piece.isGap then parts.dropLast else parts

/-- The array with the given parts between its commas. -/
def array? (parts : List (List Piece)) : Option Toml :=
  ((filled parts).mapM value?).map (.array false)

/-- The key and the value in a part of a table. The key stands on one line. -/
def entry? (part : List Piece) : Option (List String × Toml) := do
  let before := trimmed Piece.isGap (part.takeWhile (!·.isEquals))
  match part.dropWhile (!·.isEquals) with
  | [] => none
  | _ :: behind => return (← key? (← before.mapM Piece.token?), ← value? behind)

/-- The table with the given parts between its commas. -/
def inlineTable? (parts : List (List Piece)) : Option Toml :=
  ((filled parts).foldlM (fun (fields : Fields) part => do
    let (path, v) ← entry? part
    fields.addField path v) []).map (.table .inline)

/-! ## Lines -/

/-- An open bracket: whether it is a brace, what stands in front of it, and the parts inside
that are complete, all in reverse. -/
structure Frame where
  brace : Bool
  before : List Piece
  parts : List (List Piece)
  deriving Repr, Inhabited

/-- The part of a line that is being read. -/
inductive Place
  | front (read : List Token)
  | behind (path : List String) (frames : List Frame) (read : List Piece)
  deriving Repr, Inhabited

/-- The machine: the statements read so far in reverse, and the line being read. -/
structure Reader where
  statements : List Statement
  place : Place
  deriving Repr, Inhabited

namespace Reader

/-- Reads a token in front of the sign `=`. -/
def inFront (m : Reader) (read : List Token) (token : Token) : Option Reader :=
  match token with
  | .newline => (heading? read.reverse).map fun s => ⟨s.toList ++ m.statements, .front []⟩
  | .equals => (key? read.reverse).map fun path => { m with place := .behind path [] [] }
  | token => some { m with place := .front (token :: read) }

/-- Reads a token of a value. -/
def inValue (m : Reader) (path : List String) (frames : List Frame) (read : List Piece)
    (token : Token) : Option Reader :=
  let reading (frames : List Frame) (read : List Piece) : Reader :=
    { m with place := .behind path frames read }
  let opening (brace : Bool) : Option Reader :=
    if frames.length < maxDepth then some (reading (⟨brace, read, []⟩ :: frames) []) else none
  match token, frames with
  | .newline, [] =>
    (value? read.reverse).map fun v => ⟨.field path v :: m.statements, .front []⟩
  | .openSquare, _ => opening false
  | .openCurly, _ => opening true
  | .comma, frame :: frames =>
    some (reading ({ frame with parts := read.reverse :: frame.parts } :: frames) [])
  | .closeSquare, frame :: frames =>
    if frame.brace then none
    else (array? (read.reverse :: frame.parts).reverse).map fun v =>
      reading frames (.value v :: frame.before)
  | .closeCurly, frame :: frames =>
    if frame.brace then
      (inlineTable? (read.reverse :: frame.parts).reverse).map fun v =>
        reading frames (.value v :: frame.before)
    else none
  | .comma, [] | .closeSquare, [] | .closeCurly, [] => none
  | token, _ => some (reading frames (.token token :: read))

def step (m : Reader) (token : Token) : Option Reader :=
  match m.place with
  | .front read => m.inFront read token
  | .behind path frames read => m.inValue path frames read token

def finish (m : Reader) : Option (List Statement) :=
  (m.step .newline).bind fun m =>
    match m.place with
    | .front [] => some m.statements.reverse
    | _ => none

end Reader

/-- The statements that a sequence of tokens writes, in order. -/
def statements? (tokens : List Token) : Option (List Statement) :=
  (tokens.foldlM Reader.step ⟨[], .front []⟩).bind Reader.finish

end JobControl.Toml
