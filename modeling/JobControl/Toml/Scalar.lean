import JobControl.Text.Hex
import JobControl.Toml.Basic

/-!
# Numbers, truth values and times of a TOML document

What an unquoted value stands for. A single underscore may stand between two digits. A decimal
number has no leading zero, a number in another base has no sign, and a number too large for
its kind is refused.
-/

namespace JobControl.Toml

/-- Runs of digits between single underscores, put together. -/
def grouped? (isDigit : Char → Bool) (cs : List Char) : Option (List Char) :=
  let runs := cs.splitOn '_'
  if runs.all fun run => !run.isEmpty && run.all isDigit then some runs.flatten else none

/-- The digits of the whole part of a decimal number. -/
def wholeDigits? (cs : List Char) : Option (List Char) :=
  (grouped? Char.isDigit cs).bind fun digits =>
    match digits with
    | '0' :: _ :: _ => none
    | digits => some digits

/-- A whole number that has room in 128 bits. -/
def intWithRoom? (n : Int) : Option Toml :=
  if -0x80000000000000000000000000000000 ≤ n ∧ n < 0x100000000000000000000000000000000 then
    some (.int n)
  else none

/-- A double that has room in the range of doubles. -/
def floatWithRoom? (x : Float) : Option Toml :=
  if x.isInf then none else some (.float x)

/-- The power of ten of a number; there is one if the text has one. -/
def powerOfTen? : List Char → Option Int
  | [] => some 0
  | c :: cs =>
    if c == 'e' || c == 'E' then
      let (negative, cs) := Decimal.sign cs
      (grouped? Char.isDigit cs).map fun digits =>
        let n : Int := Decimal.natOf digits
        if negative then -n else n
    else none

/-- A number to the base of ten. -/
def decimal? (cs : List Char) : Option Toml := do
  let (negative, cs) := Decimal.sign cs
  let isPart (c : Char) : Bool := c.isDigit || c == '_'
  let whole ← wholeDigits? (cs.takeWhile isPart)
  let float (fraction : List Char) (exponent : Int) : Option Toml :=
    let x := Decimal.nearest (Decimal.natOf (whole ++ fraction)) (exponent - fraction.length)
    floatWithRoom? (if negative then -x else x)
  match cs.dropWhile isPart with
  | [] =>
    let n : Int := Decimal.natOf whole
    intWithRoom? (if negative then -n else n)
  | '.' :: cs =>
    let fraction ← grouped? Char.isDigit (cs.takeWhile isPart)
    float fraction (← powerOfTen? (cs.dropWhile isPart))
  | cs => float [] (← powerOfTen? cs)

/-- A natural number to a base of up to 16. -/
def inBase? (base : Nat) (cs : List Char) : Option Toml := do
  let isDigit (c : Char) : Bool := (Text.hexValue? c).any (· < base)
  let digits ← grouped? isDigit cs
  intWithRoom? (digits.foldl (fun n c => n * base + (Text.hexValue? c).getD 0) 0 : Nat)

/-- The value of an unquoted text. -/
def scalar? (cs : List Char) : Option Toml :=
  match cs with
  | ['t', 'r', 'u', 'e'] => some (.bool true)
  | ['f', 'a', 'l', 's', 'e'] => some (.bool false)
  | ['i', 'n', 'f'] | ['+', 'i', 'n', 'f'] => some (.float (1 / 0))
  | ['-', 'i', 'n', 'f'] => some (.float (-1 / 0))
  | ['n', 'a', 'n'] | ['+', 'n', 'a', 'n'] | ['-', 'n', 'a', 'n'] => some (.float (0 / 0))
  | '0' :: 'x' :: digits => inBase? 16 digits
  | '0' :: 'o' :: digits => inBase? 8 digits
  | '0' :: 'b' :: digits => inBase? 2 digits
  | cs => decimal? cs <|> (Time.ofChars? cs).map .time

end JobControl.Toml
