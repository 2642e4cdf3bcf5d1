import Gatehouse.Failure
import Gatehouse.Principal

/-!
# Access rules

Which roles an operation admits, which stores a role reaches, and how a context is checked against
a requirement. A context without a role satisfies no requirement.
-/

namespace Gatehouse

/-- Which roles an operation admits. -/
inductive RoleRequirement where
  /-- One of these roles. -/
  | anyOf (roles : List Role)
  /-- This role or anything above it. -/
  | atLeast (floor : Role)
  deriving DecidableEq, Repr

namespace RoleRequirement

/-- Whether a role meets the requirement. -/
def admits : RoleRequirement → Role → Bool
  | anyOf roles, role => roles.contains role
  | atLeast floor, role => role.isAtLeast floor

/-- The requirement in words. -/
def describe : RoleRequirement → String
  | anyOf roles => "one of [" ++ String.intercalate ", " (roles.map Role.name) ++ "]"
  | atLeast floor => floor.name ++ " or above"

end RoleRequirement

/-- What an operation asks of its caller: a role, and possibly a store within reach. -/
structure Requirement where
  /-- The roles that are admitted. -/
  roles : RoleRequirement
  /-- The store that must be within reach, if any. -/
  store : Option StoreId
  deriving DecidableEq

/-- Whether a caller may act on a store: the highest role on any, the others on granted ones. -/
def Role.canAccess (role : Role) (granted : StoreSet) (store : StoreId) : Bool :=
  match role with
  | .superAdmin => true
  | _ => granted.contains store

/-- Whether a caller may act on every store of a batch. One store out of reach fails the batch. -/
def Role.canAccessAll (role : Role) (granted : StoreSet) (stores : List StoreId) : Bool :=
  stores.all (role.canAccess granted)

/-- Checks a context against a requirement. -/
def Requirement.check (requirement : Requirement) (context : Context) : Except AuthError Unit :=
  match context.role with
  | none => .error (.permissionDenied "principal has no staff role")
  | some role =>
    if !requirement.roles.admits role then
      .error (.permissionDenied
        ("role " ++ role.name ++ " does not satisfy " ++ requirement.roles.describe))
    else
      match requirement.store with
      | none => .ok ()
      | some store =>
        if role.canAccess context.stores store then .ok ()
        else .error (.permissionDenied ("no access to store " ++ toString store))

/-- A context without a role satisfies no requirement. -/
theorem Requirement.check_of_role_none {context : Context} (h : context.role = none)
    (requirement : Requirement) :
    requirement.check context = .error (.permissionDenied "principal has no staff role") := by
  simp [Requirement.check, h]

end Gatehouse
