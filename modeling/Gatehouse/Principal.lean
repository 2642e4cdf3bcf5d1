import Gatehouse.Role
import Gatehouse.StoreSet
import Gatehouse.Text.Case

/-!
# Principals and what they may touch

The two kinds of principal that hold sessions, and the context of a principal: who it is, its role
and its stores. A context is derived from the directory and never stored durably.
-/

namespace Gatehouse

/-- The kinds of principal that hold sessions. -/
inductive PrincipalKind where
  /-- A member of staff, who signs in with a password. -/
  | staff
  /-- A customer, who signs in through an identity provider. -/
  | customer
  deriving DecidableEq, Repr

namespace PrincipalKind

/-- Both kinds, in the order in which work over all kinds is done. -/
def all : List PrincipalKind := [staff, customer]

/-- The name under which a kind is stored and sent. -/
def name : PrincipalKind → String
  | staff => "staff"
  | customer => "customer"

/-- Reads a kind's name in any letter case. -/
def ofName? (text : String) : Option PrincipalKind :=
  all.find? (fun kind => kind.name == Text.lower text)

end PrincipalKind

/-- The number that names a principal within its kind. -/
abbrev PrincipalId := Int64

/-- What is known of a principal when its requests are decided: who it is and what it may touch.
A customer has no role and no stores. -/
structure Context where
  /-- The principal's id within its kind. -/
  principalId : PrincipalId
  /-- The kind of principal. -/
  kind : PrincipalKind
  /-- The name shown for the principal. -/
  username : String
  /-- The staff role, if there is one. -/
  role : Option Role
  /-- The stores the principal may act on. -/
  stores : StoreSet
  deriving DecidableEq

namespace Context

/-- Whether the context belongs to this principal. -/
def isFor (context : Context) (kind : PrincipalKind) (id : PrincipalId) : Bool :=
  context.kind == kind && context.principalId == id

/-- The role that counts for staff matters: none outside the staff, whatever the context holds. -/
def staffRole (context : Context) : Option Role :=
  match context.kind with
  | .staff => context.role
  | .customer => none

end Context

end Gatehouse
