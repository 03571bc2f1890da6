import JobControl.Text.Hex

/-!
# Fresh tokens

Tokens in the form of random identifiers (UUID version 4), made from a running number, so that
no two of them are equal.
-/

namespace JobControl.Text

/-- The number with the marks of version 4 in place of six of its bits. -/
def markedNumber (n : Nat) : Nat :=
  let word := 0x10000000000000000
  let high := n / word % word
  let low := n % word
  (high / 0x10000 * 0x10000 + 0x4000 + high % 0x1000) * word
    + 0x8000000000000000 + low % 0x4000000000000000

/-- The `n`-th fresh token: 32 hexadecimal digits in groups. -/
def freshToken (n : Nat) : String :=
  let digits := hexPadded 32 (markedNumber n)
  String.ofList (digits.take 8 ++ ['-'] ++ (digits.drop 8).take 4 ++ ['-']
    ++ (digits.drop 12).take 4 ++ ['-'] ++ (digits.drop 16).take 4 ++ ['-'] ++ digits.drop 20)

end JobControl.Text
