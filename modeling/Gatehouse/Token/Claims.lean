import Gatehouse.Wire

/-!
# Claims of an access token

What an access token says about its bearer, and for how long. Role and stores are as they were when
the token was issued.
-/

namespace Gatehouse.Token

/-- The claims that an access token carries. -/
structure Claims where
  /-- The principal's id. -/
  subject : PrincipalId
  /-- The kind of principal. -/
  kind : PrincipalKind
  /-- The name shown for the principal. -/
  username : String
  /-- The staff role, if there is one. -/
  role : Option Role
  /-- The stores the principal may act on. -/
  stores : StoreSet
  /-- When the token was issued, in whole seconds since the start of the year 1970. -/
  issuedAt : Int64
  /-- When the token expires, in whole seconds since the start of the year 1970. -/
  expiresAt : Int64
  /-- The token's own name. -/
  tokenId : String
  deriving DecidableEq

namespace Claims

/-- The context of the bearer as it was when the token was issued. -/
def context (claims : Claims) : Context :=
  { principalId := claims.subject
    kind := claims.kind
    username := claims.username
    role := claims.role
    stores := claims.stores }

/-- The claims about a context. -/
def ofContext (context : Context) (issuedAt expiresAt : Int64) (tokenId : String) : Claims :=
  { subject := context.principalId
    kind := context.kind
    username := context.username
    role := context.role
    stores := context.stores
    issuedAt, expiresAt, tokenId }

/-- The claims from which reading them starts. -/
def blank : Claims := ⟨0, .staff, "", none, .empty, 0, 0, ""⟩

/-- The members of claims. Role and stores may be missing. -/
def members : List (Json.Reader.Member Claims) :=
  [ { key := "sub", mayLack := false, mayEnd := false
      read := fun claims => do return { claims with subject := ← .int64 } },
    { key := "kind", mayLack := false, mayEnd := false
      read := fun claims => do return { claims with kind := ← PrincipalKind.read } },
    { key := "username", mayLack := false, mayEnd := false
      read := fun claims => do return { claims with username := ← .string "a string" } },
    { key := "role", mayLack := true, mayEnd := true
      read := fun claims => do return { claims with role := ← .optional Role.read } },
    { key := "stores", mayLack := true, mayEnd := true
      read := fun claims => do return { claims with stores := ← StoreSet.read } },
    { key := "iat", mayLack := false, mayEnd := false
      read := fun claims => do return { claims with issuedAt := ← .int64 } },
    { key := "exp", mayLack := false, mayEnd := false
      read := fun claims => do return { claims with expiresAt := ← .int64 } },
    { key := "jti", mayLack := false, mayEnd := false
      read := fun claims => do return { claims with tokenId := ← .string "a string" } } ]

/-- Reads claims. -/
def read : Json.Reader Claims := .record "AccessClaims" members blank

/-- Writes claims. A missing role is left out. -/
def write (claims : Claims) : Bytes :=
  let role :=
    match claims.role with
    | none => []
    | some role => [("role", role.write)]
  Json.Write.object
    ([ ("sub", Json.Write.integer claims.subject.toInt),
       ("kind", claims.kind.write),
       ("username", Json.Write.string claims.username) ] ++ role ++
     [ ("stores", claims.stores.write),
       ("iat", Json.Write.integer claims.issuedAt.toInt),
       ("exp", Json.Write.integer claims.expiresAt.toInt),
       ("jti", Json.Write.string claims.tokenId) ])

end Claims

end Gatehouse.Token
