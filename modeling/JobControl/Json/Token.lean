import JobControl.Json.Number
import JobControl.Text.Hex

/-!
# Tokens of a document

The characters of a document are read one at a time by a machine whose state says which token
it is in. Only the four ASCII blanks may stand between tokens. A string holds no bare control
character, and a character beyond the first 65536 is written by two escapes or not escaped.

A document that is given as bytes may hold bytes that belong to no character. They may stand in
strings only, and garble them; so does an escape that is half of a pair.
-/

namespace JobControl.Json

/-- A character of a document, or a byte that belongs to none. -/
abbrev Symbol := Option Char

/-- The smallest parts of a document. -/
inductive Token
  | openObject
  | closeObject
  | openArray
  | closeArray
  | colon
  | comma
  /-- A string; nothing if it is garbled. -/
  | text (value : Option String)
  /-- A number, a boolean or `null`. -/
  | scalar (value : Json)
  deriving Repr, Inhabited

/-- The token that the machine is in; what has been read of it stands in reverse, and is
nothing for a string that is garbled. -/
inductive Reading
  | between
  | word (read : List Char)
  | number (read : List Char)
  | text (read : Option (List Char))
  /-- Behind a backslash. -/
  | escape (read : Option (List Char))
  /-- Inside the four digits of an escape, after the first half of a pair if there is one. -/
  | code (read : Option (List Char)) (high : Option Nat) (digits : List Char)
  /-- Behind the first half of a pair, where a backslash should follow. -/
  | pair (read : Option (List Char)) (high : Nat)
  /-- Behind the backslash of the second half of a pair, where `u` should follow. -/
  | pairEscape (read : Option (List Char)) (high : Nat)
  deriving Repr, Inhabited

/-- The machine: the tokens read so far in reverse, and the one being read. -/
structure Lexer where
  tokens : List Token
  reading : Reading
  deriving Repr, Inhabited

/-- The blanks that may stand between tokens. -/
def isSpace (c : Char) : Bool :=
  c == ' ' || c == '\t' || c == '\n' || c == '\r'

/-- The characters that a number is made of. -/
def isNumberChar (c : Char) : Bool :=
  c.isDigit || c == '-' || c == '+' || c == '.' || c == 'e' || c == 'E'

/-- The value that a word stands for. -/
def wordValue? (word : String) : Option Json :=
  match word with
  | "null" => some .null
  | "true" => some (.bool true)
  | "false" => some (.bool false)
  | _ => none

/-- The character that a letter stands for behind a backslash. -/
def escaped? (c : Char) : Option Char :=
  match c with
  | '"' => some '"'
  | '\\' => some '\\'
  | '/' => some '/'
  | 'b' => some '\x08'
  | 'f' => some '\x0c'
  | 'n' => some '\n'
  | 'r' => some '\r'
  | 't' => some '\t'
  | _ => none

/-- The first halves of pairs. -/
def isHighHalf (n : Nat) : Bool := 0xD800 ≤ n && n ≤ 0xDBFF

/-- The second halves of pairs. -/
def isLowHalf (n : Nat) : Bool := 0xDC00 ≤ n && n ≤ 0xDFFF

namespace Lexer

/-- Adds a token that is complete. -/
def emit (m : Lexer) (token : Token) : Lexer :=
  ⟨token :: m.tokens, .between⟩

def start (m : Lexer) (c : Char) : Option Lexer :=
  match c with
  | '{' => some (m.emit .openObject)
  | '}' => some (m.emit .closeObject)
  | '[' => some (m.emit .openArray)
  | ']' => some (m.emit .closeArray)
  | ':' => some (m.emit .colon)
  | ',' => some (m.emit .comma)
  | '"' => some { m with reading := .text (some []) }
  | c =>
    if isSpace c then some { m with reading := .between }
    else if c.isDigit || c == '-' then some { m with reading := .number [c] }
    else if c.isAlpha then some { m with reading := .word [c] }
    else none

def finish (m : Lexer) : Option Lexer :=
  match m.reading with
  | .between => some m
  | .word read => (wordValue? (String.ofList read.reverse)).map fun v => m.emit (.scalar v)
  | .number read =>
    (Numeral.ofChars? read.reverse).map fun n => m.emit (.scalar (n.value?.getD .garbled))
  | _ => none

/-- Goes on with a string. -/
def resume (m : Lexer) (read : Option (List Char)) : Lexer :=
  { m with reading := .text read }

/-- Reads a character of a string. -/
def inText (m : Lexer) (read : Option (List Char)) (c : Char) : Option Lexer :=
  if c == '"' then some (m.emit (.text (read.map fun cs => String.ofList cs.reverse)))
  else if c == '\\' then some { m with reading := .escape read }
  else if c.toNat < 0x20 then none
  else some (m.resume (read.map (c :: ·)))

/-- Reads the character behind a backslash. -/
def inEscape (m : Lexer) (read : Option (List Char)) (c : Char) : Option Lexer :=
  if c == 'u' then some { m with reading := .code read none [] }
  else (escaped? c).map fun e => m.resume (read.map (e :: ·))

/-- Adds the character that four hexadecimal digits name. A lone half of a pair garbles the
string. -/
def addCode (m : Lexer) (read : Option (List Char)) (high : Option Nat) (n : Nat) : Lexer :=
  match high with
  | none =>
    if isHighHalf n then { m with reading := .pair read n }
    else m.resume (if isLowHalf n then none else read.map (Char.ofNat n :: ·))
  | some h =>
    if isLowHalf n then
      let code := 0x10000 + (h - 0xD800) * 0x400 + (n - 0xDC00)
      m.resume (read.map (Char.ofNat code :: ·))
    else m.resume none

def step (m : Lexer) (c : Char) : Option Lexer :=
  match m.reading with
  | .between => m.start c
  | .word read =>
    if c.isAlpha then some { m with reading := .word (c :: read) }
    else m.finish.bind (·.start c)
  | .number read =>
    if isNumberChar c then some { m with reading := .number (c :: read) }
    else m.finish.bind (·.start c)
  | .text read => m.inText read c
  | .escape read => m.inEscape read c
  | .code read high digits =>
    if digits.length < 3 then some { m with reading := .code read high (c :: digits) }
    else (Text.hexNumber? (c :: digits).reverse).map (m.addCode read high)
  | .pair read high =>
    if c == '\\' then some { m with reading := .pairEscape read high } else m.inText none c
  | .pairEscape read high =>
    if c == 'u' then some { m with reading := .code read (some high) [] } else m.inEscape none c

/-- Reads a byte that belongs to no character. -/
def stepStray (m : Lexer) : Option Lexer :=
  match m.reading with
  | .text _ | .pair _ _ => some (m.resume none)
  | _ => none

/-- Reads one character or stray byte. -/
def stepSymbol (m : Lexer) : Symbol → Option Lexer
  | some c => m.step c
  | none => m.stepStray

end Lexer

/-- The tokens of a document, in order. -/
def tokens? (symbols : List Symbol) : Option (List Token) :=
  ((symbols.foldlM Lexer.stepSymbol ⟨[], .between⟩).bind Lexer.finish).map fun m =>
    m.tokens.reverse

end JobControl.Json
