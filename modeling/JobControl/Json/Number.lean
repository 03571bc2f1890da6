import JobControl.Decimal.Scaled
import JobControl.Json.Basic

/-!
# Numbers of a document

The grammar of a JSON number, and the value it stands for: a whole number if it is written
without fraction and exponent and fits in 64 bits, else a double. A number too large for a
double has no value.
-/

namespace JobControl.Json

/-- The parts of a written number. -/
structure Numeral where
  negative : Bool
  whole : List Char
  /-- The digits behind the point; none if there is no point. -/
  fraction : List Char
  /-- The power of ten behind `e`; none if there is no `e`. -/
  exponent : Option Int
  deriving DecidableEq, Repr

/-- The power of ten of an exponent that starts with `e` or `E`, and nothing behind it. -/
def exponentOf? : List Char → Option (Option Int)
  | [] => some none
  | c :: cs =>
    if c == 'e' || c == 'E' then
      let (negative, digits) : Bool × List Char := match cs with
        | '-' :: digits => (true, digits)
        | '+' :: digits => (false, digits)
        | digits => (false, digits)
      if digits.isEmpty || !digits.all Char.isDigit then none
      else
        let n : Int := Decimal.natOf digits
        some (some (if negative then -n else n))
    else none

/-- The parts of a number: an optional minus sign, digits without a leading zero, an optional
fraction and an optional exponent. -/
def Numeral.ofChars? (cs : List Char) : Option Numeral :=
  let (negative, cs) : Bool × List Char := match cs with
    | '-' :: cs => (true, cs)
    | cs => (false, cs)
  let whole := cs.takeWhile Char.isDigit
  if whole.isEmpty || (whole.length > 1 && whole.head? == some '0') then none
  else match cs.dropWhile Char.isDigit with
    | '.' :: cs =>
      let fraction := cs.takeWhile Char.isDigit
      if fraction.isEmpty then none
      else (exponentOf? (cs.dropWhile Char.isDigit)).map fun exponent =>
        ⟨negative, whole, fraction, exponent⟩
    | cs => (exponentOf? cs).map fun exponent => ⟨negative, whole, [], exponent⟩

/-- The double with the given digits, point and exponent. -/
def Numeral.double? (n : Numeral) : Option Float :=
  let (head, dropped) := Decimal.significand n.whole 0
  let (all, ignored) := Decimal.significand n.fraction head
  let places : Int := n.fraction.length - ignored
  (Decimal.scaled all (dropped - places + n.exponent.getD 0)).map fun x =>
    if n.negative then -x else x

/-- The value of a written number. Minus zero is a double, so that its sign is kept. -/
def Numeral.value? (n : Numeral) : Option Json :=
  let whole := Decimal.natOf n.whole
  if n.fraction.isEmpty && n.exponent.isNone then
    if n.negative && 0 < whole && whole ≤ 0x8000000000000000 then some (.int (-whole))
    else if !n.negative && whole < 0x10000000000000000 then some (.int whole)
    else n.double?.map .float
  else n.double?.map .float

end JobControl.Json
