import Gatehouse.Request

/-!
# Planned faults

A plan says which calls to the stores go wrong, from which time on and how often. Laid over any
world, it shows how requests get by when stores fail or answer that there is nothing.
-/

namespace Gatehouse.Faults

/-- The calls that a plan can name. -/
inductive Site where
  /-- Reading a shared entry. -/
  | get
  /-- Setting a shared entry. -/
  | set
  /-- Setting a shared entry that is absent. -/
  | setIfAbsent
  /-- Dropping a shared entry. -/
  | delete
  /-- Dropping the shared entries past their lifetime. -/
  | purge
  /-- Storing a session. -/
  | create
  /-- Finding a live session. -/
  | find
  /-- Revoking a session. -/
  | revoke
  /-- Counting the sessions of a kind that may be deleted. -/
  | countSweepable (kind : PrincipalKind)
  /-- Deleting sessions of a kind. -/
  | deleteSweepable (kind : PrincipalKind)
  /-- Finding staff by name. -/
  | findStaff
  /-- Finding staff by id. -/
  | getStaff
  /-- Listing the stores of a member of staff. -/
  | storeList
  /-- Setting a password hash. -/
  | setPasswordHash
  /-- Setting a role. -/
  | setRole
  /-- Setting whether a member of staff may sign in. -/
  | setActive
  /-- Granting stores. -/
  | grantStores
  /-- Taking grants away. -/
  | revokeStores
  /-- Finding a customer. -/
  | getCustomer
  /-- Adding a customer or bringing one up to date. -/
  | upsertCustomer
  deriving DecidableEq

/-- The name by which plans know a call. -/
def siteOf : StoreCall → Site
  | .keyValue (.get _) => .get
  | .keyValue (.set _ _ _) => .set
  | .keyValue (.setIfAbsent _ _ _) => .setIfAbsent
  | .keyValue (.delete _) => .delete
  | .keyValue .purge => .purge
  | .session (.create _) => .create
  | .session (.find _ _) => .find
  | .session (.revoke _ _) => .revoke
  | .session (.countSweepable kind) => .countSweepable kind
  | .session (.deleteSweepable kind _) => .deleteSweepable kind
  | .directory (.findStaff _) => .findStaff
  | .directory (.getStaff _) => .getStaff
  | .directory (.storeList _ _) => .storeList
  | .directory (.setPasswordHash _ _) => .setPasswordHash
  | .directory (.setRole _ _) => .setRole
  | .directory (.setActive _ _) => .setActive
  | .directory (.grantStores _ _) => .grantStores
  | .directory (.revokeStores _ _) => .revokeStores
  | .directory (.getCustomer _) => .getCustomer
  | .directory (.upsertCustomer _) => .upsertCustomer

/-- How a call goes wrong. -/
inductive Effect where
  /-- The call fails. -/
  | fail (error : StorageError)
  /-- The call answers that there is nothing, where it can. -/
  | nothing
  deriving DecidableEq

/-- A fault: the call passes a number of times and then goes wrong a number of times, or for
ever. -/
structure Fault where
  /-- The call. -/
  site : Site
  /-- How often it still passes. -/
  passes : Nat
  /-- How often it still goes wrong; without a number there is no end. -/
  times : Option Nat
  /-- How it goes wrong. -/
  effect : Effect
  deriving DecidableEq

/-- A plan: at most one fault for each call. -/
abbrev Plan := List Fault

/-- Adds a fault in the place of the one for the same call. -/
def Plan.add (plan : Plan) (fault : Fault) : Plan :=
  fault :: plan.filter (fun other => other.site != fault.site)

/-- The answer that there is nothing. -/
def nothing? : (call : StoreCall) → Option call.Value
  | .session (.deleteSweepable _ _) => some (0 : Nat)
  | .directory (.getStaff _) => some (none : Option Directory.Staff)
  | .directory (.getCustomer _) => some (none : Option Directory.Customer)
  | _ => none

/-- What becomes of a fault when its call is made, and whether the call goes wrong. -/
def Fault.meet (fault : Fault) : Bool × Fault :=
  match fault.passes, fault.times with
  | passes + 1, _ => (false, { fault with passes })
  | 0, none => (true, fault)
  | 0, some 0 => (false, fault)
  | 0, some (times + 1) => (true, { fault with times := some times })

/-- What becomes of a plan when a call is made, and how the call goes wrong if it does. -/
def Plan.meet (plan : Plan) (site : Site) : Option Effect × Plan :=
  match plan.find? (fun fault => fault.site == site) with
  | none => (none, plan)
  | some fault =>
    let (wrong, met) := fault.meet
    let plan := plan.map (fun other => if other.site == site then met else other)
    (if wrong then some fault.effect else none, plan)

/-- Makes a call in the world under a plan. -/
def passOn {σ : Type} (handler : Handler requests σ) (plan : Plan) (call : RequestCall)
    (state : σ) : Option call.Reply × (Plan × σ) :=
  let (reply, state) := handler call state
  (reply, (plan, state))

/-- Lays plans over a world. A call that goes wrong does not reach the world. -/
def overlay {σ : Type} (handler : Handler requests σ) : Handler requests (Plan × σ)
  | .outside call, (plan, state) => passOn handler plan (.outside call) state
  | .store call, (plan, state) =>
    let (effect, plan) := plan.meet (siteOf call)
    match effect with
    | none => passOn handler plan (.store call) state
    | some (.fail error) => (some (.error error), (plan, state))
    | some .nothing =>
      match nothing? call with
      | some value => (some (.ok value), (plan, state))
      | none => passOn handler plan (.store call) state

end Gatehouse.Faults
