import JobControl.Calendar
import JobControl.Json.Codec
import JobControl.Json.Printer
import JobControl.Json.Reader
import JobControl.Session.Base64
import JobControl.Session.Capability
import JobControl.Session.Registered
import JobControl.Session.Sha256
import JobControl.Session.WebKey

/-!
# Signed tokens

A token (a JSON Web Token) is three texts between dots: a header, the claims, and the signature
of both, which only who knows the secret can make. Tokens are signed with HMAC-SHA256; a token
is good until 60 seconds after the time at which it expires.
-/

namespace JobControl

open Json (required optional withDefault)

/-- What a token says about its holder; times are in seconds of the epoch. -/
structure Claims where
  subject : String
  expires : Int64
  issuedAt : Int64
  roles : List String
  capabilities : List String
  deriving DecidableEq, Repr, Inhabited

instance : Codec Claims where
  encode c := .obj
    [("sub", encode c.subject), ("exp", encode c.expires), ("iat", encode c.issuedAt),
      ("roles", encode c.roles), ("capabilities", encode c.capabilities)]
  read s j := do
    let fields ← j.object?
    return {
      subject := ← required s fields "sub"
      expires := ← required s fields "exp"
      issuedAt := ← required s fields "iat"
      roles := ← withDefault [] s fields "roles"
      capabilities := ← withDefault [] s fields "capabilities" }

/-- Why a token is not accepted. -/
inductive TokenFault
  | expired
  | invalid
  deriving DecidableEq, Repr

namespace Token

/-- The header of every token that is made here. -/
def header : Json := .obj [("typ", .str "JWT"), ("alg", .str "HS256")]

def bytes (text : String) : List UInt8 := text.toUTF8.toList

def sign (secret message : String) : String :=
  Base64.token (Sha256.hmac (bytes secret) (bytes message))

/-- A document as a part of a token. -/
def part (j : Json) : String := Base64.token (bytes j.compact)

def ofClaims (secret : String) (c : Claims) : String :=
  let message := part header ++ "." ++ part (encode c)
  message ++ "." ++ sign secret message

/-- The claims of a token that expires after some hours. There are none if it would expire
outside of the calendar. -/
def claimsFor (nowMs : Int64) (hours : Int64) (subject : String) (roles : List String)
    (capabilities : List Capability) : Option Claims :=
  let now := nowMs.toInt / 1000
  let expires := now + 3600 * hours.toInt
  if -8334601228800 ≤ expires ∧ expires ≤ 8210266876799 then
    some ⟨subject, Int64.ofInt expires, Int64.ofInt now, roles, capabilities.map Capability.name⟩
  else none

/-! ## Reading -/

def splitLast (cs : List Char) : Option (List Char × List Char) :=
  let last := (cs.reverse.takeWhile (· != '.')).reverse
  let front := cs.take (cs.length - last.length)
  match front.reverse with
  | '.' :: front => some (front.reverse, last)
  | _ => none

/-- The names that a header may give as texts. -/
def headerTexts : List String := ["typ", "cty", "jku", "kid", "x5u", "x5t", "x5t#S256"]

/-- The header names the only way of signing that is accepted, and is otherwise well formed. -/
def isGoodHeader (j : Json) : Bool :=
  (do
    let fields ← j.object?
    let algorithm : Json ← required .narrow fields "alg"
    let _ ← Json.named? ["HS256"] id .narrow algorithm
    headerTexts.forM fun name =>
      (optional .narrow fields name : Option (Option String)).map fun _ => ()
    let _ : Option (List String) ← optional .narrow fields "x5c"
    match ← Json.once fields "jwk" with
    | none | some .null => some ()
    | some key => if WebKey.isWellFormed key then some () else none).isSome

/-- The claims of a token that was signed with the secret, and the registered ones among
them. -/
def signed? (secret token : String) : Option (Claims × RegisteredClaims) := do
  let (message, signature) ← splitLast token.toList
  let (header, body) ← splitLast message
  let header ← (Base64.ofToken? (String.ofList header)).bind Json.ofBytes?
  if !isGoodHeader header || sign secret (String.ofList message) != String.ofList signature then
    none
  let bytes ← Base64.ofToken? (String.ofList body)
  let body ← Json.ofBytes? bytes
  return (← decode body, ← RegisteredClaims.ofBody? bytes body)

/-- The first second in which a token may expire that is still good. Seconds are counted in 64
bits without a sign: in the first minute of the epoch, what was 60 seconds ago is at the end of
that range, and nearly every token has expired. -/
def oldest (nowMs : Int64) : Int :=
  (nowMs.toInt / 1000 - 60) % 0x10000000000000000

/-- The claims of a token that was signed with the secret and has not expired. A token that is
made out to somebody in particular is refused by everybody else. -/
def read (secret token : String) (nowMs : Int64) : Except TokenFault Claims :=
  match signed? secret token with
  | some (claims, ⟨some expires, isAddressed⟩) =>
    if expires < oldest nowMs then .error .expired
    else if isAddressed then .error .invalid
    else .ok claims
  | _ => .error .invalid

end Token

end JobControl
