import Gatehouse.Http.Path
import Gatehouse.Principal

/-!
# Routes

Which paths there are, and which methods each of them allows.
-/

namespace Gatehouse.Http

/-- What a path stands for. The part of a path that stands for a number is kept as it is. -/
inductive Resource where
  /-- A sign of life. -/
  | health
  /-- Signing in as staff. -/
  | staffLogin
  /-- Signing in as a customer. -/
  | customerLogin
  /-- Refreshing an access token. -/
  | refresh (kind : PrincipalKind)
  /-- Signing out. -/
  | logout (kind : PrincipalKind)
  /-- Changing a password. -/
  | password
  /-- The claims of the caller's token. -/
  | me
  /-- The present context of the caller. -/
  | permission
  /-- The role of a member of staff. -/
  | role (id : Bytes)
  /-- Whether a member of staff may sign in. -/
  | active (id : Bytes)
  /-- The stores granted to a member of staff. -/
  | stores (id : Bytes)
  deriving DecidableEq

/-- The resources without a number in their path. -/
def fixedResources : List (List String × Resource) :=
  [ (["health"], .health),
    (["auth", "login"], .staffLogin),
    (["auth", "refresh"], .refresh .staff),
    (["auth", "logout"], .logout .staff),
    (["auth", "password"], .password),
    (["auth", "me"], .me),
    (["auth", "permission"], .permission),
    (["customer", "auth", "line-login"], .customerLogin),
    (["customer", "auth", "refresh"], .refresh .customer),
    (["customer", "auth", "logout"], .logout .customer) ]

/-- The resource of a path, if there is one. -/
def Resource.ofPath? (path : Bytes) : Option Resource :=
  match Path.segments path with
  | none => none
  | some segments =>
    match fixedResources.find? (fun known => known.1.map utf8 == segments) with
    | some (_, resource) => some resource
    | none =>
      match segments with
      | [front, id, last] =>
        if front != utf8 "staff" then none
        else if last == utf8 "role" then some (.role id)
        else if last == utf8 "active" then some (.active id)
        else if last == utf8 "stores" then some (.stores id)
        else none
      | _ => none

/-- The methods that a resource allows. -/
def Resource.methods : Resource → List String
  | health => ["GET", "HEAD"]
  | staffLogin => ["POST"]
  | customerLogin => ["POST"]
  | refresh _ => ["POST"]
  | logout _ => ["POST"]
  | password => ["PATCH"]
  | me => ["GET", "HEAD"]
  | permission => ["GET", "HEAD"]
  | role _ => ["PATCH"]
  | active _ => ["PATCH"]
  | stores _ => ["POST", "DELETE"]

end Gatehouse.Http
