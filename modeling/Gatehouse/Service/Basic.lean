import Gatehouse.Access
import Gatehouse.ContextCache

/-!
# The service

What all operations of the service share: its set-up, the context of a caller, and what is done
after a principal has been changed. An operation that changes a principal writes to the directory
first and drops the cached context second; a failure to drop it is let pass, and the entry ages out.
-/

namespace Gatehouse

/-- How the service is set up. -/
structure Service where
  /-- Who signs and checks access tokens. -/
  issuer : Token.Issuer
  /-- How long a refresh session lives. -/
  refreshTtl : Duration
  /-- How long a context is cached. -/
  contextTtl : Duration
  /-- Whether there is an identity provider, without which customers cannot sign in. -/
  hasProvider : Bool

/-- Where a request comes from, as far as it is known. -/
structure ClientInfo where
  /-- The program the principal signs in with. -/
  userAgent : Option String := none
  /-- The address the principal signs in from. -/
  ipAddress : Option String := none
  deriving DecidableEq

namespace Service

/-- The claims of an access token, if it is in order now. -/
def authenticate (service : Service) (token : String) : Action Token.Claims := do
  let now : Timestamp ← Action.outside .now
  match service.issuer.verify token (Int64.ofInt now.seconds) with
  | .ok claims => return claims
  | .error error => throw (.ofToken error)

/-- The present context of the bearer of claims. -/
def permissions (service : Service) (claims : Token.Claims) : Action Context :=
  ContextCache.resolve service.contextTtl claims.kind claims.subject

/-- The present context of the bearer of claims, if it meets a requirement. -/
def authorize (service : Service) (claims : Token.Claims) (requirement : Requirement) :
    Action Context := do
  let context ← service.permissions claims
  match requirement.check context with
  | .ok () => return context
  | .error error => throw error

/-- Issues an access token for a context now. -/
def issue (service : Service) (context : Context) : Action Token.Issued := do
  let now : Timestamp ← Action.outside .now
  let entropy ← Action.outside .tokenEntropy
  return service.issuer.issue context (Int64.ofInt now.seconds) entropy

/-- Drops the cached context of a principal; a failure is let pass. -/
def forget (kind : PrincipalKind) (id : PrincipalId) : Action Unit :=
  Action.always (discard (ContextCache.invalidate kind id))

end Service

end Gatehouse
