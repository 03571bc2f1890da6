import JobControl.Json.Codec

/-!
# Descriptions of keys

A token may carry the description of a key (a JSON Web Key). No key is taken from a token here,
but one that carries a description that is not well formed is refused. A description says what
kind of key it is about, gives what a key of that kind consists of, and may say more; what
nobody knows in it is passed over.
-/

namespace JobControl.WebKey

open Json (Spelling once optional required)

/-- What a description may say of any key as a text. -/
def commonTexts : List String := ["use", "kid", "x5u", "x5t", "x5t#S256"]

/-- What a description may say of any key as a list of texts. -/
def commonLists : List String := ["key_ops", "x5c"]

/-- The algorithms that a key may be made for. -/
def algorithms : List String :=
  ["HS256", "HS384", "HS512", "ES256", "ES384", "RS256", "RS384", "RS512", "PS256", "PS384",
    "PS512", "EdDSA", "RSA1_5", "RSA-OAEP", "RSA-OAEP-256"]

/-- The curves that a key may lie on. -/
def curves : List String := ["P-256", "P-384", "P-521", "Ed25519"]

/-- A kind of keys. -/
structure Kind where
  name : String
  /-- A key of this kind lies on a curve. -/
  hasCurve : Bool
  /-- What a key of this kind consists of. -/
  parts : List String
  deriving DecidableEq, Repr

def kinds : List Kind :=
  [⟨"EC", true, ["x", "y"]⟩, ⟨"RSA", false, ["n", "e"]⟩, ⟨"oct", false, ["k"]⟩,
    ⟨"OKP", true, ["x"]⟩]

/-- A field, if it is there, names one of some values; `null` leaves it open. -/
def namesOrOpen (values : List String) (s : Spelling) (fields : List (String × Json))
    (name : String) : Bool :=
  match once fields name with
  | some none | some (some .null) => true
  | some (some j) => (Json.named? values id s j).isSome
  | none => false

/-- The fields that may stand in any description are well formed. -/
def isCommon (fields : List (String × Json)) : Bool :=
  (commonTexts.all fun name => (optional .wide fields name : Option (Option String)).isSome)
    && (commonLists.all fun name =>
      (optional .wide fields name : Option (Option (List String))).isSome)
    && namesOrOpen algorithms .wide fields "alg"

/-- The description is that of a key of some kind. -/
def isOfKind (fields : List (String × Json)) (kind : Kind) : Bool :=
  let names (values : List String) (name : String) : Bool :=
    ((required .narrow fields name : Option Json).bind
      (Json.named? values id .narrow)).isSome
  names [kind.name] "kty" && (!kind.hasCurve || names curves "crv")
    && kind.parts.all fun part => (required .narrow fields part : Option String).isSome

def isWellFormed (j : Json) : Bool :=
  match j with
  | .obj fields => j.isClear && isCommon fields && kinds.any (isOfKind fields)
  | _ => false

end JobControl.WebKey
