/-!
# Base 64

Bytes as text: three bytes are four digits of six bits. In the standard form missing bytes of
the last group are marked by `=`; the form for tokens has other last two digits and no mark,
and is read only if it is exactly what would be written.
-/

namespace JobControl.Base64

/-- The value of a digit of six bits in either form, which differ in the last two digits. -/
def digit (last : List Char) (n : Nat) : Char :=
  if n < 26 then Char.ofNat ('A'.toNat + n)
  else if n < 52 then Char.ofNat ('a'.toNat + (n - 26))
  else if n < 62 then Char.ofNat ('0'.toNat + (n - 52))
  else last.getD (n - 62) '='

/-- The last two digits of the standard form. -/
def standardEnd : List Char := ['+', '/']

/-- The last two digits of the form for tokens. -/
def tokenEnd : List Char := ['-', '_']

/-- The digits of up to three bytes. -/
def group (last : List Char) (a : UInt8) (more : List UInt8) : List Char :=
  let b := (more.getD 0 0).toNat
  let c := (more.getD 1 0).toNat
  let n := a.toNat * 65536 + b * 256 + c
  ([n / 262144, n / 4096 % 64, n / 64 % 64, n % 64].take (more.length + 2)).map (digit last)

/-- The digits of some bytes. -/
def digits (last : List Char) : List UInt8 → List Char
  | a :: b :: c :: rest => group last a [b, c] ++ digits last rest
  | [a, b] => group last a [b]
  | [a] => group last a []
  | [] => []

/-- The standard form, filled up to groups of four characters. -/
def standard (bytes : List UInt8) : String :=
  let cs := digits standardEnd bytes
  String.ofList (cs ++ List.replicate ((4 - cs.length % 4) % 4) '=')

/-- The form for tokens. -/
def token (bytes : List UInt8) : String :=
  String.ofList (digits tokenEnd bytes)

/-- The value of a digit of the form for tokens. -/
def tokenValue? (c : Char) : Option Nat :=
  if 'A' ≤ c ∧ c ≤ 'Z' then some (c.toNat - 'A'.toNat)
  else if 'a' ≤ c ∧ c ≤ 'z' then some (c.toNat - 'a'.toNat + 26)
  else if '0' ≤ c ∧ c ≤ '9' then some (c.toNat - '0'.toNat + 52)
  else if c == '-' then some 62
  else if c == '_' then some 63
  else none

/-- The bytes of some digits. The bits that no byte needs have to be zero. -/
def bytesOf? : List Nat → Option (List UInt8)
  | a :: b :: c :: d :: rest => do
    let n := a * 262144 + b * 4096 + c * 64 + d
    return (n / 65536).toUInt8 :: (n / 256 % 256).toUInt8 :: (n % 256).toUInt8
      :: (← bytesOf? rest)
  | [a, b, c] =>
    let n := a * 4096 + b * 64 + c
    if n % 4 == 0 then some [(n / 1024).toUInt8, (n / 4 % 256).toUInt8] else none
  | [a, b] =>
    let n := a * 64 + b
    if n % 16 == 0 then some [(n / 16).toUInt8] else none
  | [_] => none
  | [] => some []

/-- The bytes of a text in the form for tokens. -/
def ofToken? (text : String) : Option (List UInt8) :=
  (text.toList.mapM tokenValue?).bind bytesOf?

end JobControl.Base64
