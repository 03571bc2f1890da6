import JobControl.Decimal.Shortest

/-!
# Doubles in text

Two forms are written. Messages take the plain form: all digits in their places, never an
exponent, and no point where there is no fraction. Documents take the compact form, which
always shows that the number is a double: by a point or by an exponent.
-/

namespace JobControl.Decimal

private def zeros (n : Nat) : List Char := List.replicate n '0'

/-- The digits in their places; `whole` follows where no fraction is left. -/
def positional (d : Digits) (whole : List Char) : List Char :=
  let count : Int := d.digits.length
  if d.point ≤ 0 then ['0', '.'] ++ zeros (-d.point).toNat ++ d.digits
  else if count ≤ d.point then d.digits ++ zeros (d.point - count).toNat ++ whole
  else d.digits.take d.point.toNat ++ ['.'] ++ d.digits.drop d.point.toNat

/-- A power of ten: its sign, and at least two digits. -/
def powerText (exponent : Int) : List Char :=
  let digits := Nat.toDigits 10 exponent.natAbs
  ['e', if exponent < 0 then '-' else '+'] ++ zeros (2 - digits.length) ++ digits

/-- One digit in front of the point, then the power of ten. -/
def scientific (d : Digits) : List Char :=
  let power := powerText (d.point - 1)
  match d.digits with
  | [] => ['0']
  | [digit] => digit :: power
  | digit :: more => [digit, '.'] ++ more ++ power

/-- The sign bit, which also tells the two zeros apart. -/
def isNegative (x : Float) : Bool :=
  x.toBits ≥ 0x8000000000000000

/-- The plain form: `1`, `0.5`, `-0`, `10000000000000000`, `inf`, `NaN`. -/
def plain (x : Float) : String :=
  if x.isNaN then "NaN"
  else
    let sign := if isNegative x then ['-'] else []
    let magnitude := x.abs
    String.ofList <| sign ++
      if magnitude.isInf then ['i', 'n', 'f']
      else if magnitude == 0 then ['0']
      else positional (Digits.shortest .up magnitude) []

/-- The compact form of a finite double: positional from `1e-5` up to `1e16`, else with an
exponent; `1.0`, `0.00001`, `1e+16`, `1e-07`, `-0.0`. -/
def compact (x : Float) : String :=
  let sign := if isNegative x then ['-'] else []
  let magnitude := x.abs
  String.ofList <| sign ++
    if magnitude == 0 then ['0', '.', '0']
    else
      let d := Digits.shortest .toEven magnitude
      if -5 < d.point && d.point ≤ 16 then positional d ['.', '0'] else scientific d

end JobControl.Decimal
