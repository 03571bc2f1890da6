import JobControl.Collections
import JobControl.Session.Capability

/-!
# Principals

Whom a request comes from, once its credential has been looked at: a name, the roles it acts
for and the capabilities it holds. What a principal may do depends on nothing else.
-/

namespace JobControl

/-- What a caller shows to be recognised. -/
inductive Credential
  | apiKey (key : String)
  | bearer (token : String)
  deriving DecidableEq, Repr, Inhabited

/-- A caller that has been recognised. -/
structure Principal where
  name : String
  roles : Names
  capabilities : Capabilities
  deriving Repr, Inhabited

/-- A reason not to let a caller do something. -/
inductive Denial
  | missingCredentials
  | invalidApiKey
  | invalidToken
  | expiredToken
  | notInRoles (name : String) (roles : String)
  | missingCapability (name : String) (capability : Capability)
  | unknownCapability (text : String)
  deriving DecidableEq, Repr

def Denial.message : Denial → String
  | missingCredentials => "Missing session credentials"
  | invalidApiKey => "Invalid API key"
  | invalidToken => "Invalid session token"
  | expiredToken => "Session token has expired"
  | notInRoles name roles => name ++ " is not authorized for roles: " ++ roles
  | missingCapability name capability =>
    name ++ " does not hold capability " ++ capability.name
  | unknownCapability text => "Unknown capability: " ++ text

namespace Principal

/-- Root holds every capability. -/
def holds (p : Principal) (c : Capability) : Bool :=
  p.capabilities.contains .root || p.capabilities.contains c

/-- The principal acts for one of the roles, if any are asked for. -/
def actsFor (p : Principal) (roles : Names) : Bool :=
  roles.isEmpty || roles.toList.any (p.roles.contains ·)

/-- The principal, if it acts for one of the roles. -/
def inRoles (p : Principal) (roles : Names) : Except Denial Principal :=
  if p.actsFor roles then .ok p
  else .error (.notInRoles p.name (joined ", " roles.toList))

/-- The principal, if it holds a capability. -/
def withCapability (p : Principal) (c : Capability) : Except Denial Principal :=
  if p.holds c then .ok p else .error (.missingCapability p.name c)

end Principal

end JobControl
