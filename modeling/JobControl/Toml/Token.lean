import JobControl.Text.Hex

/-!
# Tokens of a TOML document

The characters of a document are read one at a time by a machine whose state says which token
it is in. Comments are dropped. Text stands between quotes, of which there is one on each side
or three: between three, text may have several lines, a line break right behind the opening
quotes is not part of it, and up to two quotes may stand in front of the closing ones. Only
between double quotes does a backslash have a meaning. No text and no comment holds a control
character other than a tab, and a carriage return stands only in front of a line feed.
-/

namespace JobControl.Toml

/-- The smallest parts of a document. -/
inductive Token
  | dot
  | equals
  | comma
  | openSquare
  | closeSquare
  | openCurly
  | closeCurly
  | newline
  /-- A run of spaces and tabs. -/
  | blank (read : String)
  /-- A run of characters that are neither blank nor any of the marks. -/
  | atom (read : String)
  /-- What stands between quotes: one on each side, or three. -/
  | text (value : String) (tripled : Bool)
  deriving DecidableEq, Repr, Inhabited

/-- The two kinds of quotes. -/
inductive Quote
  /-- Double quotes, between which a backslash has a meaning. -/
  | basic
  /-- Single quotes, between which every character stands for itself. -/
  | literal
  deriving DecidableEq, Repr, Inhabited

def Quote.char : Quote → Char
  | basic => '"'
  | literal => '\x27'

/-- The token that the machine is in; what has been read of it stands in reverse. -/
inductive Reading
  | between
  | blank (read : List Char)
  | atom (read : List Char)
  | comment
  /-- Behind one quote. -/
  | oneQuote (quote : Quote)
  /-- Behind two quotes, which are an empty text unless a third follows. -/
  | twoQuotes (quote : Quote)
  /-- Behind three quotes. -/
  | threeQuotes (quote : Quote)
  /-- Inside a text of one line. -/
  | line (quote : Quote) (read : List Char)
  /-- Inside a text of several lines, behind so many quotes that may be the closing ones. -/
  | lines (quote : Quote) (read : List Char) (quotes : Nat)
  /-- Behind a backslash. -/
  | escape (tripled : Bool) (read : List Char)
  /-- Inside the digits of an escape, of which so many are left. -/
  | code (tripled : Bool) (read : List Char) (left : Nat) (digits : List Char)
  /-- Behind a backslash at the end of a line, in the blanks that it drops. -/
  | folded (read : List Char) (broken : Bool)
  deriving DecidableEq, Repr, Inhabited

/-- The machine: the tokens read so far in reverse, and the one being read. -/
structure Lexer where
  tokens : List Token
  reading : Reading
  deriving DecidableEq, Repr, Inhabited

/-- Spaces and tabs. -/
def isSpace (c : Char) : Bool := c == ' ' || c == '\t'

/-- The characters that end an atom. -/
def isMark (c : Char) : Bool :=
  ['.', '=', ',', '[', ']', '{', '}', '#', '"', '\x27', '\r', '\n'].contains c

/-- The characters that text and comments may hold. -/
def isPlain (c : Char) : Bool :=
  c == '\t' || (0x20 ≤ c.toNat && c.toNat != 0x7F)

/-- Every carriage return stands in front of a line feed. -/
def returnsPaired : List Char → Bool
  | [] => true
  | '\r' :: cs => cs.head? == some '\n' && returnsPaired cs
  | _ :: cs => returnsPaired cs

/-- The character that a letter stands for behind a backslash. -/
def escaped? (c : Char) : Option Char :=
  match c with
  | '"' => some '"'
  | '\\' => some '\\'
  | 'b' => some '\x08'
  | 'e' => some '\x1b'
  | 'f' => some '\x0c'
  | 'n' => some '\n'
  | 'r' => some '\r'
  | 't' => some '\t'
  | _ => none

/-- The number of digits behind a letter that names a character by its number. -/
def codeWidth? (c : Char) : Option Nat :=
  match c with
  | 'x' => some 2
  | 'u' => some 4
  | 'U' => some 8
  | _ => none

/-- The character of a number, if there is one. -/
def charOf? (n : Nat) : Option Char :=
  if h : n.isValidChar then some ⟨n.toUInt32, by
    have : n < UInt32.size := by
      simp only [Nat.isValidChar, UInt32.size] at *
      omega
    simpa [UInt32.isValidChar, UInt32.toNat_ofNat_of_lt' this] using h⟩
  else none

namespace Lexer

/-- Adds a token that is complete. -/
def emit (m : Lexer) (token : Token) : Lexer :=
  ⟨token :: m.tokens, .between⟩

/-- Adds a text that is complete. -/
def emitText (m : Lexer) (read : List Char) (tripled : Bool) : Lexer :=
  m.emit (.text (String.ofList read.reverse) tripled)

def start (m : Lexer) (c : Char) : Lexer :=
  match c with
  | '.' => m.emit .dot
  | '=' => m.emit .equals
  | ',' => m.emit .comma
  | '[' => m.emit .openSquare
  | ']' => m.emit .closeSquare
  | '{' => m.emit .openCurly
  | '}' => m.emit .closeCurly
  | '\n' => m.emit .newline
  | '\r' => { m with reading := .between }
  | '#' => { m with reading := .comment }
  | '"' => { m with reading := .oneQuote .basic }
  | '\x27' => { m with reading := .oneQuote .literal }
  | c => { m with reading := if isSpace c then .blank [c] else .atom [c] }

/-- Reads a character of a text of one line. -/
def inLine (m : Lexer) (quote : Quote) (read : List Char) (c : Char) : Option Lexer :=
  if c == quote.char then some (m.emitText read false)
  else if quote == .basic && c == '\\' then some { m with reading := .escape false read }
  else if isPlain c then some { m with reading := .line quote (c :: read) }
  else none

/-- Reads a character of a text of several lines. Behind five quotes the text is over. -/
def inLines (m : Lexer) (quote : Quote) (read : List Char) (quotes : Nat) (c : Char) :
    Option Lexer :=
  if c == quote.char then
    if quotes == 4 then some (m.emitText (List.replicate 2 quote.char ++ read) true)
    else some { m with reading := .lines quote read (quotes + 1) }
  else if 3 ≤ quotes then
    some ((m.emitText (List.replicate (quotes - 3) quote.char ++ read) true).start c)
  else
    let read := List.replicate quotes quote.char ++ read
    if quote == .basic && c == '\\' then some { m with reading := .escape true read }
    else if isPlain c || c == '\n' || c == '\r' then
      some { m with reading := .lines quote (c :: read) 0 }
    else none

/-- Goes on with the text that an escape stands in. -/
def resume (m : Lexer) (tripled : Bool) (read : List Char) : Lexer :=
  { m with reading := if tripled then .lines .basic read 0 else .line .basic read }

/-- Reads the character behind a backslash. -/
def inEscape (m : Lexer) (tripled : Bool) (read : List Char) (c : Char) : Option Lexer :=
  match codeWidth? c with
  | some width => some { m with reading := .code tripled read width [] }
  | none =>
    if tripled && (isSpace c || c == '\r' || c == '\n') then
      some { m with reading := .folded read (c == '\n') }
    else (escaped? c).map fun e => m.resume tripled (e :: read)

/-- Reads a digit of an escape. -/
def inCode (m : Lexer) (tripled : Bool) (read : List Char) (left : Nat) (digits : List Char)
    (c : Char) : Option Lexer :=
  if 1 < left then some { m with reading := .code tripled read (left - 1) (c :: digits) }
  else ((Text.hexNumber? (c :: digits).reverse).bind charOf?).map fun e =>
    m.resume tripled (e :: read)

def step (m : Lexer) (c : Char) : Option Lexer :=
  match m.reading with
  | .between => some (m.start c)
  | .blank read =>
    if isSpace c then some { m with reading := .blank (c :: read) }
    else some ((m.emit (.blank (String.ofList read.reverse))).start c)
  | .atom read =>
    if isSpace c || isMark c then some ((m.emit (.atom (String.ofList read.reverse))).start c)
    else some { m with reading := .atom (c :: read) }
  | .comment =>
    if c == '\r' || c == '\n' then some (m.start c)
    else if isPlain c then some m
    else none
  | .oneQuote quote =>
    if c == quote.char then some { m with reading := .twoQuotes quote } else m.inLine quote [] c
  | .twoQuotes quote =>
    if c == quote.char then some { m with reading := .threeQuotes quote }
    else some ((m.emitText [] false).start c)
  | .threeQuotes quote =>
    if c == '\r' then some m
    else if c == '\n' then some { m with reading := .lines quote [] 0 }
    else m.inLines quote [] 0 c
  | .line quote read => m.inLine quote read c
  | .lines quote read quotes => m.inLines quote read quotes c
  | .escape tripled read => m.inEscape tripled read c
  | .code tripled read left digits => m.inCode tripled read left digits c
  | .folded read broken =>
    if c == '\n' then some { m with reading := .folded read true }
    else if isSpace c || c == '\r' then some m
    else if broken then m.inLines .basic read 0 c
    else none

def finish (m : Lexer) : Option Lexer :=
  match m.reading with
  | .between | .comment => some m
  | .blank read => some (m.emit (.blank (String.ofList read.reverse)))
  | .atom read => some (m.emit (.atom (String.ofList read.reverse)))
  | .twoQuotes _ => some (m.emitText [] false)
  | .lines quote read quotes =>
    if 3 ≤ quotes then
      some (m.emitText (List.replicate (quotes - 3) quote.char ++ read) true)
    else none
  | _ => none

end Lexer

/-- The mark in front of a document that says how its characters are written. -/
def byteOrderMark : Char := '\ufeff'

/-- A document without the mark in front of it, if there is one. -/
def unmarked : List Char → List Char
  | c :: cs => if c == byteOrderMark then cs else c :: cs
  | [] => []

/-- The tokens of a document, in order. -/
def tokens? (cs : List Char) : Option (List Token) :=
  if returnsPaired cs then
    ((cs.foldlM Lexer.step ⟨[], .between⟩).bind Lexer.finish).map fun m => m.tokens.reverse
  else none

end JobControl.Toml
