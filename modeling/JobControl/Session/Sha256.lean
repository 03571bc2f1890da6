/-!
# SHA-256

The hash function of FIPS 180-4 on sequences of bytes.
-/

namespace JobControl.Sha256

/-- The first 32 bits of the fractional parts of the cube roots of the first 64 primes. -/
def roundConstants : List UInt32 := [
  0x428a2f98, 0x71374491, 0xb5c0fbcf, 0xe9b5dba5, 0x3956c25b, 0x59f111f1, 0x923f82a4,
  0xab1c5ed5, 0xd807aa98, 0x12835b01, 0x243185be, 0x550c7dc3, 0x72be5d74, 0x80deb1fe,
  0x9bdc06a7, 0xc19bf174, 0xe49b69c1, 0xefbe4786, 0x0fc19dc6, 0x240ca1cc, 0x2de92c6f,
  0x4a7484aa, 0x5cb0a9dc, 0x76f988da, 0x983e5152, 0xa831c66d, 0xb00327c8, 0xbf597fc7,
  0xc6e00bf3, 0xd5a79147, 0x06ca6351, 0x14292967, 0x27b70a85, 0x2e1b2138, 0x4d2c6dfc,
  0x53380d13, 0x650a7354, 0x766a0abb, 0x81c2c92e, 0x92722c85, 0xa2bfe8a1, 0xa81a664b,
  0xc24b8b70, 0xc76c51a3, 0xd192e819, 0xd6990624, 0xf40e3585, 0x106aa070, 0x19a4c116,
  0x1e376c08, 0x2748774c, 0x34b0bcb5, 0x391c0cb3, 0x4ed8aa4a, 0x5b9cca4f, 0x682e6ff3,
  0x748f82ee, 0x78a5636f, 0x84c87814, 0x8cc70208, 0x90befffa, 0xa4506ceb, 0xbef9a3f7,
  0xc67178f2]

/-- The eight words that a block changes. -/
structure Registers where
  a : UInt32
  b : UInt32
  c : UInt32
  d : UInt32
  e : UInt32
  f : UInt32
  g : UInt32
  h : UInt32
  deriving DecidableEq, Repr

/-- The first 32 bits of the fractional parts of the square roots of the first 8 primes. -/
def Registers.initial : Registers :=
  ⟨0x6a09e667, 0xbb67ae85, 0x3c6ef372, 0xa54ff53a, 0x510e527f, 0x9b05688c, 0x1f83d9ab,
    0x5be0cd19⟩

/-- The sum of two register files, word by word. -/
def Registers.add (x y : Registers) : Registers :=
  ⟨x.a + y.a, x.b + y.b, x.c + y.c, x.d + y.d, x.e + y.e, x.f + y.f, x.g + y.g, x.h + y.h⟩

/-- A word turned to the right. -/
def turn (x : UInt32) (n : UInt32) : UInt32 :=
  (x >>> n) ||| (x <<< (32 - n))

/-- The word that follows the given ones, the latest first. -/
def nextWord (words : List UInt32) : UInt32 :=
  let x := words.getD 14 0
  let y := words.getD 1 0
  let small := turn x 7 ^^^ turn x 18 ^^^ (x >>> 3)
  let large := turn y 17 ^^^ turn y 19 ^^^ (y >>> 10)
  words.getD 15 0 + small + words.getD 6 0 + large

/-- The words of a block continued by `n` further ones, the latest first. -/
def extend : Nat → List UInt32 → List UInt32
  | 0, words => words
  | n + 1, words => extend n (nextWord words :: words)

/-- One round with its word and its constant. -/
def Registers.round (r : Registers) (word constant : UInt32) : Registers :=
  let choice := (r.e &&& r.f) ^^^ (~~~ r.e &&& r.g)
  let majority := (r.a &&& r.b) ^^^ (r.a &&& r.c) ^^^ (r.b &&& r.c)
  let one := r.h + (turn r.e 6 ^^^ turn r.e 11 ^^^ turn r.e 25) + choice + constant + word
  let two := (turn r.a 2 ^^^ turn r.a 13 ^^^ turn r.a 22) + majority
  ⟨one + two, r.a, r.b, r.c, r.d + one, r.e, r.f, r.g⟩

/-- The word of four bytes, the highest first. -/
def wordOf (bytes : List UInt8) : UInt32 :=
  bytes.foldl (fun w b => (w <<< 8) ||| b.toUInt32) 0

/-- The pieces of `n + 1` elements of a list; the last one may be shorter. -/
def pieces {α : Type} (n : Nat) (as : List α) : List (List α) :=
  if as.isEmpty then []
  else as.take (n + 1) :: pieces n (as.drop (n + 1))
termination_by as.length
decreasing_by
  rename_i h
  have : as ≠ [] := by simpa using h
  have := List.length_pos_iff.2 this
  simp only [List.length_drop]
  omega

/-- The registers after a block of 64 bytes. -/
def Registers.block (r : Registers) (bytes : List UInt8) : Registers :=
  let words := (extend 48 ((pieces 3 bytes).map wordOf).reverse).reverse
  r.add ((words.zip roundConstants).foldl (fun s (w, k) => s.round w k) r)

/-- The `n` bytes of a number, the highest first. -/
def bytesOf (n value : Nat) : List UInt8 :=
  (List.range n).reverse.map fun i => (value / Nat.pow 256 i % 256).toUInt8

/-- The message with its end marked and its length in bits, in whole blocks. -/
def padded (message : List UInt8) : List UInt8 :=
  message ++ [0x80] ++ List.replicate ((119 - message.length % 64) % 64) 0
    ++ bytesOf 8 (8 * message.length)

/-- The hash of a message, in 32 bytes. -/
def hash (message : List UInt8) : List UInt8 :=
  let r := (pieces 63 (padded message)).foldl Registers.block .initial
  [r.a, r.b, r.c, r.d, r.e, r.f, r.g, r.h].flatMap fun w => bytesOf 4 w.toNat

/-- The bytes of a block with each changed by a mask. -/
def masked (mask : UInt8) (key : List UInt8) : List UInt8 :=
  (key ++ List.replicate (64 - key.length) 0).map (· ^^^ mask)

/-- The code that authenticates a message under a key (HMAC, RFC 2104). A key longer than a
block stands for its hash. -/
def hmac (key message : List UInt8) : List UInt8 :=
  let key := if key.length ≤ 64 then key else hash key
  hash (masked 0x5c key ++ hash (masked 0x36 key ++ message))

end JobControl.Sha256
