import JobControl.Session.Principal
import JobControl.Session.Token
import JobControl.Settings

/-!
# Recognising callers

An API key is recognised by its hash, a token by its signature.
-/

namespace JobControl

/-- The hash of an API key, in base 64. -/
def hashOfKey (key : String) : String :=
  Base64.standard (Sha256.hash (Token.bytes key))

/-- The capabilities that some texts name; texts that name none are passed over. -/
def capabilitiesOf (texts : List String) : Capabilities :=
  setOf (texts.filterMap Capability.ofText?)

namespace AuthSettings

/-- The key of a hash; of several the last one. -/
def keyOf (s : AuthSettings) (hash : String) : Option ApiKey :=
  (s.apiKeys.filter fun k => k.hash == hash).getLast?

/-- Whom a credential belongs to. -/
def recognise (s : AuthSettings) (nowMs : Int64) : Credential → Except Denial Principal
  | .apiKey key =>
    match (s.keyOf (hashOfKey key)).filter ApiKey.isActive with
    | some k => .ok ⟨k.name, setOf k.roles, capabilitiesOf k.capabilities⟩
    | none => .error .invalidApiKey
  | .bearer token =>
    match Token.read s.secret token nowMs with
    | .ok claims =>
      .ok ⟨claims.subject, setOf claims.roles, capabilitiesOf claims.capabilities⟩
    | .error .expired => .error .expiredToken
    | .error .invalid => .error .invalidToken

end AuthSettings

end JobControl
