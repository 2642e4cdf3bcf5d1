import Gatehouse.Service.Basic

/-!
# Administration of staff

Changing passwords, roles, the right to sign in, and grants of stores. Every decision reads the
caller's present context, never the one in the token. Nobody changes their own access, and a caller
who is bound to stores reaches only staff who work entirely inside the caller's stores.
-/

namespace Gatehouse.Service

/-- The length that a new password must have, in characters. -/
def shortestPassword : Nat := 8

/-- The staff role of a context. -/
def roleOf (context : Context) : Action Role :=
  Action.require (.permissionDenied "staff role required") context.staffRole

/-- The member of staff with an id. -/
def requireStaff (id : PrincipalId) : Action Directory.Staff := do
  let found ← Action.directory (.getStaff id)
  Action.require .principalNotFound found

/-- The caller's role and the member of staff with an id, provided that the caller may manage that
member. -/
def managedTarget (caller : Context) (target : PrincipalId) :
    Action (Role × Directory.Staff) := do
  let role ← roleOf caller
  if caller.isFor .staff target then
    throw (.permissionDenied "staff cannot modify their own access")
  let staff ← requireStaff target
  if !role.canManage staff.role then
    throw (.permissionDenied (role.name ++ " cannot manage " ++ staff.role.name))
  -- A caller who is bound to stores reaches only staff whose stores are all within reach.
  if role ≠ .superAdmin then
    let stores : StoreSet ← Action.directory (.storeList staff.id staff.role)
    if !role.canAccessAll caller.stores stores.ids then
      throw (.permissionDenied
        ("staff " ++ toString target ++ " works in stores outside the caller's grants"))
  return (role, staff)

/-- Checks that the caller may grant or take away a batch of stores. -/
def checkBatch (caller : Context) (target : PrincipalId) (stores : List StoreId) :
    Action Unit := do
  if stores.isEmpty then throw (.invalidRequest "storeIds must not be empty")
  let (role, _) ← managedTarget caller target
  if !role.canAccessAll caller.stores stores then
    throw (.permissionDenied "batch includes stores outside the caller's grants")

/-- Changes a password. Staff change their own with the present one; the highest role changes
those of others. -/
def changePassword (service : Service) (claims : Token.Claims) (target : PrincipalId)
    (oldPassword : Option String) (newPassword : String) : Action Unit := do
  let caller ← service.permissions claims
  let role ← roleOf caller
  let staff ← requireStaff target
  if caller.isFor .staff target then
    let old ← Action.require (.invalidRequest "oldPassword is required") oldPassword
    let fits : Bool ← Action.outside (.checkPassword old staff.passwordHash)
    if !fits then throw .invalidCredentials
  else if role ≠ .superAdmin ∨ ¬ Role.canManage .superAdmin staff.role then
    throw (.permissionDenied
      (role.name ++ " cannot change the password of staff " ++ toString target))
  -- The new password is looked at only when the caller may change it.
  if newPassword.length < shortestPassword then
    throw (.invalidRequest
      ("newPassword must be at least " ++ toString shortestPassword ++ " characters"))
  let hash ← Action.ofRequest .internal (Request.outside (.hashPassword newPassword))
  discard (Action.directory (.setPasswordHash target hash))
  forget .staff target

/-- Gives a member of staff another role, which the caller must be able to manage as well. -/
def changeRole (service : Service) (claims : Token.Claims) (target : PrincipalId)
    (newRole : Role) : Action Unit := do
  let caller ← service.permissions claims
  let (role, _) ← managedTarget caller target
  if !role.canManage newRole then
    throw (.permissionDenied (role.name ++ " cannot assign " ++ newRole.name))
  discard (Action.directory (.setRole target newRole))
  forget .staff target

/-- Says whether a member of staff may sign in. Sessions stay in place, and do not work while no
context can be built. -/
def setActive (service : Service) (claims : Token.Claims) (target : PrincipalId)
    (active : Bool) : Action Unit := do
  let caller ← service.permissions claims
  discard (managedTarget caller target)
  discard (Action.directory (.setActive target active))
  forget .staff target

/-- Grants a batch of stores to a member of staff. -/
def grantStores (service : Service) (claims : Token.Claims) (target : PrincipalId)
    (stores : List StoreId) : Action Unit := do
  let caller ← service.permissions claims
  checkBatch caller target stores
  Action.ofRequest
    (fun error =>
      match error with
      | .notFound what => .invalidRequest ("unknown " ++ what)
      | error => .storage error)
    (Request.directory (.grantStores target stores))
  forget .staff target

/-- Takes a batch of grants away from a member of staff. -/
def revokeStores (service : Service) (claims : Token.Claims) (target : PrincipalId)
    (stores : List StoreId) : Action Unit := do
  let caller ← service.permissions claims
  checkBatch caller target stores
  discard (Action.directory (.revokeStores target stores))
  forget .staff target

end Gatehouse.Service
