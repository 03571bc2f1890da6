/-!
# Numbers from digits

A run of digits writes a natural number. A double in a document is read from its digits with one
division or multiplication by a power of ten, which is exact as long as the digits fit in 53
bits and the power is at most `10^22`, and may be off by one place in the last digit beyond
that. Configuration text is read to the nearest double.
-/

namespace JobControl.Decimal

/-- The number that a run of decimal digits writes. -/
def natOf (digits : List Char) : Nat := Nat.ofDigitChars 10 digits 0

/-- The double nearest to a power of ten. -/
def powerOfTen (n : Nat) : Float :=
  Float.ofScientific 1 false n

/-- The digits that a 64-bit significand can hold, and the number of digits behind them that
it cannot. -/
def significand (digits : List Char) (start : Nat) : Nat × Nat :=
  digits.foldl (fun (n, dropped) digit =>
    let grown := Nat.ofDigitChars 10 [digit] n
    if dropped == 0 && grown < 0x10000000000000000 then (grown, 0) else (n, dropped + 1))
    (start, 0)

/-- `n · 10^exponent`, where `n` fits in 64 bits: nothing if the value is too large for a
double. A power below `10^-308` is taken in two steps. -/
def scaled (n : Nat) (exponent : Int) : Option Float :=
  let x := n.toUInt64.toFloat
  let bounded (y : Float) : Option Float := if y.isInf then none else some y
  if exponent > 308 then if n == 0 then some x else none
  else if exponent ≥ 0 then bounded (x * powerOfTen exponent.toNat)
  else if exponent ≥ -308 then some (x / powerOfTen (-exponent).toNat)
  else
    let y := x / powerOfTen 308
    if exponent ≥ -616 then some (y / powerOfTen (-exponent - 308).toNat)
    else some 0

end JobControl.Decimal
