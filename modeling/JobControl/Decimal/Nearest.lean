import JobControl.Decimal.Scaled

/-!
# The nearest double

Decimal text outside of documents is read to the double that is nearest to it, however many
digits it has. The grammar is the usual one: a sign, digits with a point anywhere among them,
and a power of ten; or a name for an infinity or for no number at all.
-/

namespace JobControl.Decimal

/-- The double nearest to `n · 10^exponent`. What lies far outside the range of doubles is not
computed. -/
def nearest (n : Nat) (exponent : Int) : Float :=
  let size : Int := (Nat.toDigits 10 n).length + exponent
  if n == 0 || size < -400 then 0
  else if size > 400 then 1 / 0
  else if exponent < 0 then Float.ofScientific n true (-exponent).toNat
  else Float.ofScientific n false exponent.toNat

/-- A sign, if there is one, and what follows it. -/
def sign (cs : List Char) : Bool × List Char :=
  match cs with
  | '-' :: cs => (true, cs)
  | '+' :: cs => (false, cs)
  | cs => (false, cs)

/-- A natural number: digits, and nothing else. -/
def nat? (cs : List Char) : Option Nat :=
  if !cs.isEmpty && cs.all Char.isDigit then some (natOf cs) else none

/-- A whole number: digits, which a sign may precede. -/
def int? (cs : List Char) : Option Int :=
  let (negative, digits) := sign cs
  (nat? digits).map fun n => if negative then -n else n

/-- The power of ten behind the digits of a number. -/
def exponent? : List Char → Option Int
  | [] => some 0
  | c :: cs => if c == 'e' || c == 'E' then int? cs else none

/-- The size of a number that is written in digits. -/
def magnitude? (cs : List Char) : Option Float :=
  let whole := cs.takeWhile Char.isDigit
  let rest := cs.dropWhile Char.isDigit
  let (fraction, rest) := match rest with
    | '.' :: cs => (cs.takeWhile Char.isDigit, cs.dropWhile Char.isDigit)
    | rest => ([], rest)
  if whole.isEmpty && fraction.isEmpty then none
  else (exponent? rest).map fun e => nearest (natOf (whole ++ fraction)) (e - fraction.length)

/-- The size that a name stands for, in letters of either case. -/
def named? (cs : List Char) : Option Float :=
  match String.ofList (cs.map Char.toLower) with
  | "inf" | "infinity" => some (1 / 0)
  | "nan" => some (0 / 0)
  | _ => none

/-- A double: a name or digits, which a sign may precede. -/
def double? (cs : List Char) : Option Float :=
  let (negative, cs) := sign cs
  (named? cs <|> magnitude? cs).map fun x => if negative then -x else x

end JobControl.Decimal
