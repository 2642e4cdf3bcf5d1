import Gatehouse.Text.Case

/-!
# Staff roles

The four staff roles in ascending order of privilege, their names, and who may manage whom. Main
statement: whoever manages a role outranks it (`rank_lt_of_canManage`).
-/

namespace Gatehouse

/-- A staff role. The constructors stand in ascending order of privilege. -/
inductive Role where
  /-- Works in the granted stores and manages nobody. -/
  | stylist
  /-- Runs one or more stores. -/
  | manager
  /-- Manages managers and stylists within the granted stores. -/
  | admin
  /-- Is not bound to stores: every active store counts as granted. -/
  | superAdmin
  deriving DecidableEq, Repr

namespace Role

/-- Every role, in ascending order of privilege. -/
def all : List Role := [stylist, manager, admin, superAdmin]

/-- The place of a role in the order of privilege. -/
def rank : Role → Nat
  | stylist => 0
  | manager => 1
  | admin => 2
  | superAdmin => 3

/-- The name under which a role is stored and sent. -/
def name : Role → String
  | stylist => "STYLIST"
  | manager => "MANAGER"
  | admin => "ADMIN"
  | superAdmin => "SUPER_ADMIN"

/-- Reads a role's exact name. -/
def ofExactName? (text : String) : Option Role :=
  all.find? (fun role => role.name == text)

/-- Reads a role's name in any letter case. -/
def ofName? (text : String) : Option Role :=
  ofExactName? (Text.upper text)

/-- Whether a role is `floor` or more privileged. -/
def isAtLeast (role floor : Role) : Bool :=
  floor.rank ≤ role.rank

/-- Whether a caller of this role may create, change or deactivate staff of the role `target`. -/
def canManage : Role → Role → Bool
  | superAdmin, target => target != superAdmin
  | admin, target => target == manager || target == stylist
  | manager, _ => false
  | stylist, _ => false

/-- Nobody manages staff of the caller's own role. -/
theorem not_canManage_self (role : Role) : role.canManage role = false := by
  cases role <;> rfl

/-- Whoever manages a role outranks it. -/
theorem rank_lt_of_canManage {caller target : Role} (h : caller.canManage target = true) :
    target.rank < caller.rank := by
  revert h
  cases caller <;> cases target <;> decide

/-- Nobody manages staff of the highest role. -/
theorem ne_superAdmin_of_canManage {caller target : Role} (h : caller.canManage target = true) :
    target ≠ .superAdmin := by
  revert h
  cases caller <;> cases target <;> decide

end Role

end Gatehouse
