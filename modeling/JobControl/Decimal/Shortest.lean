/-!
# The shortest decimal of a double

A finite positive double is `m · 2^q` exactly. Every real between the midpoints to its two
neighbours rounds to it, the midpoints themselves if and only if `m` is even. Of the decimals
in that interval `Digits.shortest` takes one with the fewest digits, and of those the nearest
to the double; what happens when two are equally near is the caller's decision.

All arithmetic is on natural numbers, so nothing is rounded on the way.
-/

namespace JobControl.Decimal

/-- A positive decimal: the significant digits, most significant first, and the number of them
in front of the point (negative where zeros follow the point first). The digits `d₁ d₂ …` with
`point = p` stand for `0.d₁d₂… · 10^p`. -/
structure Digits where
  digits : List Char
  point : Int
  deriving DecidableEq, Repr

/-- Which of two equally near decimals is taken. -/
inductive Tie
  | toEven
  | up
  deriving DecidableEq, Repr

/-- A finite positive double as `mantissa · 2^exponent`. -/
structure Binary where
  mantissa : Nat
  exponent : Int
  /-- The double below lies at half the distance of the one above. -/
  atPowerOfTwo : Bool
  deriving DecidableEq, Repr

/-- The parts of a double that is finite and positive. -/
def Binary.ofFloat (x : Float) : Binary :=
  let bits := x.toBits.toNat
  -- the bit in front of the 52 bits of the fraction
  let leading : Nat := 0x10000000000000
  let fraction := bits % leading
  let biased := bits / leading % 0x800
  if biased == 0 then ⟨fraction, -1074, false⟩
  else ⟨fraction + leading, (biased : Int) - 1075, fraction == 0 && decide (1 < biased)⟩

/-- The number of decimal digits of a natural number; none for zero. -/
def digitCount (n : Nat) : Nat :=
  if n == 0 then 0 else (Nat.toDigits 10 n).length

/-- The position of the point of the positive fraction `num / den`: the least `p` with
`num / den < 10^p`. -/
def pointOf (num den : Nat) : Int :=
  if den ≤ num then digitCount (num / den)
  else 1 - (digitCount ((den - 1) / num) : Int)

/-- The digits of `coefficient · 10^scale` without trailing zeros. -/
def Digits.ofCoefficient (coefficient : Nat) (scale : Int) : Digits :=
  let digits := Nat.toDigits 10 coefficient
  ⟨(digits.reverse.dropWhile (· == '0')).reverse, scale + digits.length⟩

/-- Of the two decimals with `n` digits next to the fraction `num / den`, the nearest one that
lies between `low / den` and `high / den`. -/
def nearestWithDigits (tie : Tie) (num low high den : Nat) (closed : Bool) (point : Int)
    (n : Nat) : Option Digits :=
  let scale := point - n
  -- the grid of n-digit decimals, as multiples of 10^scale
  let up := Nat.pow 10 scale.toNat
  let down := Nat.pow 10 (-scale).toNat
  let below := num * down / (den * up)
  let above := below + 1
  let inside (c : Nat) : Bool :=
    let value := c * (den * up)
    if closed then low * down ≤ value && value ≤ high * down
    else low * down < value && value < high * down
  let toBelow := num * down - below * (den * up)
  let toAbove := above * (den * up) - num * down
  let pickBelow :=
    toBelow < toAbove || (toBelow == toAbove && tie == .toEven && below % 2 == 0)
  let choose (c : Nat) := some (Digits.ofCoefficient c scale)
  match below != 0 && inside below, inside above with
  | true, true => if pickBelow then choose below else choose above
  | true, false => choose below
  | false, true => choose above
  | false, false => none

/-- The shortest decimal that rounds to a finite positive double. Seventeen digits always
suffice. -/
def Digits.shortest (tie : Tie) (x : Float) : Digits :=
  let b := Binary.ofFloat x
  -- quarters of the last place, so that both midpoints are whole
  let shift := b.exponent - 2
  let up := Nat.pow 2 shift.toNat
  let den := Nat.pow 2 (-shift).toNat
  let num := 4 * b.mantissa * up
  let low := (4 * b.mantissa - (if b.atPowerOfTwo then 1 else 2)) * up
  let high := (4 * b.mantissa + 2) * up
  let closed := b.mantissa % 2 == 0
  let point := pointOf num den
  match (List.range 17).findSome? fun i =>
      nearestWithDigits tie num low high den closed point (i + 1) with
  | some digits => digits
  | none => Digits.ofCoefficient (num * Nat.pow 10 (17 - point).toNat / den) (point - 17)

end JobControl.Decimal
