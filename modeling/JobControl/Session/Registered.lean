import JobControl.Json.Codec
import JobControl.Json.Front
import JobControl.Json.Reader

/-!
# Registered claims

Some claims mean the same in every token: when it expires (`exp`), since when it holds (`nbf`),
who issued it (`iss`), for whom (`aud`) and about whom (`sub`). None of them may be repeated.
One that cannot be read is passed over, and reading goes on where it stopped; so a token is
refused if it stopped in the middle of a value.
-/

namespace JobControl

/-- What the registered claims of a token say, as far as it matters here. -/
structure RegisteredClaims where
  /-- The second of the epoch at which the token expires, if it can be read. -/
  expires : Option Nat
  /-- The token is made out to somebody in particular. -/
  isAddressed : Bool
  deriving DecidableEq, Repr, Inhabited

namespace RegisteredClaims

def names : List String := ["exp", "nbf", "iss", "aud", "sub"]

def initial : RegisteredClaims := ⟨none, false⟩

/-- A point in time, in seconds of the epoch; a fraction is rounded, half away from zero. -/
def seconds? : Json → Option Nat
  | .int n => if 0 ≤ n then some n.toNat else none
  | .float x => if 0 ≤ x && x < 18446744073709551616 then some x.round.toUInt64.toNat else none
  | _ => none

/-- Somebody, or a list of people. -/
def isAudience : Json → Bool
  | .str _ => true
  | .arr items => items.all fun item => item.text?.isSome
  | _ => false

/-! ## From a document

In a document of which no part is garbled, reading stops in the middle of a value only where a
point in time is looked for in an array or object with something in it. -/

/-- A reader of points in time stops behind the value. -/
def isPassable : Json → Bool
  | .arr items => items.isEmpty
  | .obj fields => fields.isEmpty
  | _ => true

/-- The claims among the fields of a document. -/
def ofFields? (fields : List (String × Json)) : Option RegisteredClaims := do
  names.forM fun name => (Json.once fields name).map fun _ => ()
  if ["exp", "nbf"].all fun name => (fields.lookup name).all isPassable then
    return ⟨(fields.lookup "exp").bind seconds?, (fields.lookup "aud").any isAudience⟩
  else none

/-! ## From a text -/

open Json (Front)
open Json.Front (skipSpace)

/-- The number of arrays and objects that may stand in each other in a claim. -/
def maxDepth : Nat := Json.maxDepth - 1

/-- A point in time at the front of a text. -/
def time (cs : List Char) : Front Nat :=
  match skipSpace cs with
  | '[' :: cs => ⟨none, Front.closeArray cs⟩
  | '{' :: cs => ⟨none, Front.closeObject cs⟩
  | cs => (Front.scalar cs).bind seconds?

/-- The claims with one more of them, which stands at the front of a text, and what is left of
the text; `fuel` is more than three times its length. -/
def add? (fuel : Nat) (claims : RegisteredClaims) (name : String) (cs : List Char) :
    Option (RegisteredClaims × List Char) :=
  match name with
  | "exp" => some ({ claims with expires := (time cs).found }, (time cs).rest)
  | "nbf" => some (claims, (time cs).rest)
  | "sub" => some (claims, (Front.scalar (skipSpace cs)).rest)
  | "iss" => some (claims, (Front.value fuel maxDepth cs).rest)
  | "aud" =>
    let audience := Front.value fuel maxDepth cs
    some ({ claims with isAddressed := audience.found.any isAudience }, audience.rest)
  | _ => (Front.skip fuel [] .value cs).map fun rest => (claims, rest)

/-- The claims among the fields that are still to come, to the end of the text. -/
def readFields? (fuel : Nat) (claims : RegisteredClaims) (before : List String)
    (cs : List Char) : Option RegisteredClaims :=
  match fuel with
  | 0 => none
  | fuel + 1 =>
    match skipSpace cs with
    | '}' :: cs => if (skipSpace cs).isEmpty then some claims else none
    | cs => do
      let start := Front.separator before.isEmpty cs
      let name := Front.fieldName start.rest
      let _ ← start.found
      let found ← name.found
      if names.contains found && before.contains found then none
      let (claims, rest) ← add? (3 * fuel) claims found name.rest
      readFields? fuel claims (found :: before) rest

/-- The claims in the text of an object, given byte by byte. -/
def ofChars? (cs : List Char) : Option RegisteredClaims :=
  match skipSpace cs with
  | '{' :: cs => readFields? (cs.length + 2) initial [] cs
  | _ => none

/-- The claims in the body of a token, which is given as bytes and as the document that they
write. -/
def ofBody? (bytes : List UInt8) (body : Json) : Option RegisteredClaims :=
  if body.isClear then body.object?.bind ofFields?
  else ofChars? (bytes.map fun b => Char.ofNat b.toNat)

end RegisteredClaims

end JobControl
