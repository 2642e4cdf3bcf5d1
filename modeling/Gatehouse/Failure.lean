/-!
# Failures

Why a request fails: what goes wrong in a store, with a token, and in a request as a whole. Each
failure has one text, and a request's failure has a kind, which is all that a client is told apart
from the detail of an invalid request.
-/

namespace Gatehouse

/-- Why a call to a store fails. -/
inductive StorageError where
  /-- The store could not be reached or refused the call. -/
  | database (detail : String)
  /-- What the call names does not exist. -/
  | notFound (what : String)
  /-- A stored value cannot be read, or a value cannot be stored. -/
  | serialization (detail : String)
  deriving DecidableEq, Repr

/-- The text of a store's failure. -/
def StorageError.message : StorageError → String
  | .database detail => "database error: " ++ detail
  | .notFound what => "not found: " ++ what
  | .serialization detail => "serialization error: " ++ detail

/-- Why an access token is not accepted, or not issued. -/
inductive TokenError where
  /-- The text is not of a token's form. -/
  | malformed (detail : String)
  /-- The signature does not belong to the token and the secret. -/
  | invalidSignature
  /-- The token is past its expiry. -/
  | expired
  /-- The token could not be signed. -/
  | signing (detail : String)
  deriving DecidableEq, Repr

/-- The text of a token's failure. -/
def TokenError.message : TokenError → String
  | .malformed detail => "malformed token: " ++ detail
  | .invalidSignature => "invalid token signature"
  | .expired => "token expired"
  | .signing detail => "token signing failed: " ++ detail

/-- The kinds of failure that a client can tell apart. -/
inductive ErrorKind where
  /-- Wrong name, wrong password, or an identity that the provider does not vouch for. -/
  | invalidCredentials
  /-- No access token was presented. -/
  | unauthenticated
  /-- The token's signature is wrong. -/
  | tokenInvalid
  /-- The token has expired. -/
  | tokenExpired
  /-- The token is not of a token's form. -/
  | tokenMalformed
  /-- No live session belongs to the refresh token. -/
  | refreshTokenInvalid
  /-- The caller may not do this. -/
  | permissionDenied
  /-- The principal does not exist or is not active. -/
  | principalNotFound
  /-- The request makes no sense as it stands. -/
  | invalidRequest
  /-- A store failed. -/
  | storageError
  /-- Something else failed on our side. -/
  | internalError
  deriving DecidableEq, Repr

namespace ErrorKind

/-- Every kind, in the order of declaration. -/
def all : List ErrorKind :=
  [invalidCredentials, unauthenticated, tokenInvalid, tokenExpired, tokenMalformed,
    refreshTokenInvalid, permissionDenied, principalNotFound, invalidRequest, storageError,
    internalError]

/-- The name of a kind, as a catalog of error texts spells it. -/
def name : ErrorKind → String
  | invalidCredentials => "InvalidCredentials"
  | unauthenticated => "Unauthenticated"
  | tokenInvalid => "TokenInvalid"
  | tokenExpired => "TokenExpired"
  | tokenMalformed => "TokenMalformed"
  | refreshTokenInvalid => "RefreshTokenInvalid"
  | permissionDenied => "PermissionDenied"
  | principalNotFound => "PrincipalNotFound"
  | invalidRequest => "InvalidRequest"
  | storageError => "StorageError"
  | internalError => "InternalError"

/-- Every kind is listed. -/
theorem mem_all (kind : ErrorKind) : kind ∈ all := by
  cases kind <;> decide

end ErrorKind

/-- Why a request fails. -/
inductive AuthError where
  /-- Wrong name, wrong password, or an identity that the provider does not vouch for. -/
  | invalidCredentials
  /-- No access token was presented. -/
  | unauthenticated
  /-- The token's signature is wrong. -/
  | tokenInvalid
  /-- The token has expired. -/
  | tokenExpired
  /-- The token is not of a token's form. -/
  | tokenMalformed (detail : String)
  /-- No live session belongs to the refresh token. -/
  | refreshTokenInvalid
  /-- The caller may not do this. -/
  | permissionDenied (detail : String)
  /-- The principal does not exist or is not active. -/
  | principalNotFound
  /-- The request makes no sense as it stands. -/
  | invalidRequest (detail : String)
  /-- A store failed. -/
  | storage (error : StorageError)
  /-- Something else failed on our side. -/
  | internal (detail : String)
  deriving DecidableEq, Repr

namespace AuthError

/-- The failure of a request whose token fails. -/
def ofToken : TokenError → AuthError
  | .malformed detail => tokenMalformed detail
  | .invalidSignature => tokenInvalid
  | .expired => tokenExpired
  | .signing detail => internal detail

/-- The kind of a failure. -/
def kind : AuthError → ErrorKind
  | invalidCredentials => .invalidCredentials
  | unauthenticated => .unauthenticated
  | tokenInvalid => .tokenInvalid
  | tokenExpired => .tokenExpired
  | tokenMalformed _ => .tokenMalformed
  | refreshTokenInvalid => .refreshTokenInvalid
  | permissionDenied _ => .permissionDenied
  | principalNotFound => .principalNotFound
  | invalidRequest _ => .invalidRequest
  | storage _ => .storageError
  | internal _ => .internalError

/-- The full text of a failure, for our own eyes. -/
def message : AuthError → String
  | invalidCredentials => "invalid credentials"
  | unauthenticated => "authentication required"
  | tokenInvalid => "invalid access token"
  | tokenExpired => "access token expired"
  | tokenMalformed detail => "malformed access token: " ++ detail
  | refreshTokenInvalid => "refresh token invalid"
  | permissionDenied detail => "permission denied: " ++ detail
  | principalNotFound => "principal not found"
  | invalidRequest detail => "invalid request: " ++ detail
  | storage error => "storage error: " ++ error.message
  | internal detail => "internal error: " ++ detail

/-- Whether the fault is on our side: such failures are recorded in full and shown opaquely. -/
def isSystem : AuthError → Bool
  | storage _ => true
  | internal _ => true
  | _ => false

end AuthError

end Gatehouse
