import Gatehouse.Service.Basic

/-!
# Signing in and out

Signing in opens a refresh session and gives an access token; the refresh token later gives further
access tokens and stays the same; signing out revokes the session. A name that is not known, a
member of staff who is not active and a wrong password cannot be told apart.
-/

namespace Gatehouse

/-- What signing in gives. -/
structure SignedIn where
  /-- The access token. -/
  accessToken : String
  /-- The refresh token. -/
  refreshToken : String
  /-- The lifetime of the access token in whole seconds. -/
  expiresIn : Nat
  /-- The context of the principal. -/
  context : Context

/-- What refreshing gives. -/
structure Refreshed where
  /-- The access token. -/
  accessToken : String
  /-- The lifetime of the access token in whole seconds. -/
  expiresIn : Nat

namespace Service

/-- Opens a refresh session for a context. -/
def openSession (service : Service) (context : Context) (client : ClientInfo) :
    Action SignedIn := do
  let access ← service.issue context
  let entropy : Bytes ← Action.outside .refreshEntropy
  let refreshToken := Token.refreshText entropy
  discard (Action.session (.create
    { principalId := context.principalId
      kind := context.kind
      token := refreshToken
      userAgent := client.userAgent
      ipAddress := client.ipAddress
      ttl := service.refreshTtl }))
  -- The session is stored already: caching the context cannot make signing in fail.
  Action.always (ContextCache.prime service.contextTtl context)
  return ⟨access.token, refreshToken, access.expiresIn, context⟩

/-- Signs in a member of staff with name and password. -/
def signInStaff (service : Service) (username password : String) (client : ClientInfo) :
    Action SignedIn := do
  let found ← Action.directory (.findStaff username)
  let staff ← Action.require .invalidCredentials
    (found.filter (fun member : Directory.Staff => member.isActive))
  let fits : Bool ← Action.outside (.checkPassword password staff.passwordHash)
  if !fits then throw .invalidCredentials
  let context ← (ContextCache.load .staff staff.id).mapFailure (fun error =>
    match error with
    | .principalNotFound => .invalidCredentials
    | error => error)
  service.openSession context client

/-- Signs in a customer whom the identity provider vouches for. The customer is added when signing
in for the first time. -/
def signInCustomer (service : Service) (idToken : String) (client : ClientInfo) :
    Action SignedIn := do
  if !service.hasProvider then throw (.internal "customer login is not configured")
  let identity ← Action.ofRequest id (Request.outside (.verifyIdentity idToken))
  let customer : Directory.Customer ← Action.directory (.upsertCustomer identity)
  let context ← ContextCache.load .customer customer.id
  service.openSession context client

/-- A new access token for the live session of a refresh token. -/
def refresh (service : Service) (kind : PrincipalKind) (refreshToken : String) :
    Action Refreshed := do
  let session : Session.Row ← Action.ofRequest
    (fun error =>
      match error with
      | .notFound _ => .refreshTokenInvalid
      | error => .storage error)
    (Request.session (.find kind refreshToken))
  let context ← (ContextCache.resolve service.contextTtl kind session.principalId).mapFailure
    (fun error =>
      match error with
      | .principalNotFound => .refreshTokenInvalid
      | error => error)
  let access ← service.issue context
  return ⟨access.token, access.expiresIn⟩

/-- Revokes the session of a refresh token. A token without a live session is let pass. -/
def signOut (kind : PrincipalKind) (refreshToken : String) : Action Unit := do
  match ← Action.session (.revoke kind refreshToken) with
  | some owner => forget kind owner
  | none => return ()

end Service

end Gatehouse
