import Gatehouse.Failure
import Gatehouse.Principal

/-!
# The directory of principals

Staff, stores, grants and customers: the rows, the calls to a directory, and the directory that is
held in memory. Staff and customers take their ids from one counter, and a grant to a batch of
stores is all or nothing.
-/

namespace Gatehouse.Directory

/-- A member of staff. -/
structure Staff where
  /-- The id. -/
  id : PrincipalId
  /-- The name to sign in with. -/
  username : String
  /-- The mail address. -/
  email : String
  /-- The stored hash of the password. -/
  passwordHash : String
  /-- The role. -/
  role : Role
  /-- Whether the member may sign in. -/
  isActive : Bool
  deriving DecidableEq, Repr

/-- A customer. -/
structure Customer where
  /-- The id. -/
  id : PrincipalId
  /-- The customer's id at the identity provider, if there is one. -/
  providerUid : Option String
  /-- The name. -/
  name : String
  /-- The mail address, if it is known. -/
  email : Option String
  deriving DecidableEq, Repr

/-- An identity that an identity provider vouches for. -/
structure Identity where
  /-- The id at the provider. -/
  providerUid : String
  /-- The name. -/
  name : String
  /-- The mail address, if it is known. -/
  email : Option String
  deriving DecidableEq, Repr

/-- A call to a directory. -/
inductive Call where
  /-- The member of staff with a name. -/
  | findStaff (username : String)
  /-- The member of staff with an id. -/
  | getStaff (id : PrincipalId)
  /-- The stores of a member of staff who has the role given. -/
  | storeList (id : PrincipalId) (role : Role)
  /-- Sets the stored password hash of a member of staff. -/
  | setPasswordHash (id : PrincipalId) (hash : String)
  /-- Sets the role of a member of staff. -/
  | setRole (id : PrincipalId) (role : Role)
  /-- Says whether a member of staff may sign in. -/
  | setActive (id : PrincipalId) (active : Bool)
  /-- Grants stores to a member of staff. -/
  | grantStores (id : PrincipalId) (stores : List StoreId)
  /-- Takes grants away from a member of staff. -/
  | revokeStores (id : PrincipalId) (stores : List StoreId)
  /-- The customer with an id. -/
  | getCustomer (id : PrincipalId)
  /-- The customer of an identity, who is added if there is none. -/
  | upsertCustomer (identity : Identity)
  deriving DecidableEq

/-- What a call gives when it succeeds. -/
def Call.Value : Call → Type
  | findStaff _ => Option Staff
  | getStaff _ => Option Staff
  | storeList _ _ => StoreSet
  | setPasswordHash _ _ => Unit
  | setRole _ _ => Unit
  | setActive _ _ => Unit
  | grantStores _ _ => Unit
  | revokeStores _ _ => Unit
  | getCustomer _ => Option Customer
  | upsertCustomer _ => Customer

/-- A store that exists. -/
structure Store where
  /-- The id. -/
  id : StoreId
  /-- Whether the store is open for business. -/
  isActive : Bool
  deriving DecidableEq, Repr

/-- A store granted to a member of staff. -/
structure Grant where
  /-- The member of staff. -/
  staff : PrincipalId
  /-- The store. -/
  store : StoreId
  deriving DecidableEq, Repr

/-- A directory held in memory. -/
structure Table where
  /-- The staff, in ascending order of ids. -/
  staff : List Staff := []
  /-- The stores; an id has at most one. -/
  stores : List Store := []
  /-- The grants, each listed once. -/
  grants : List Grant := []
  /-- The customers, in ascending order of ids. -/
  customers : List Customer := []
  /-- The id that was given last, to staff or customer. -/
  lastId : PrincipalId := 0

/-- The failure of a call that names a member of staff who is not there. -/
def noStaff (id : PrincipalId) : StorageError := .notFound ("staff " ++ toString id)

/-- The failure of a grant that names a store which is not there. -/
def noStore (id : StoreId) : StorageError := .notFound ("store " ++ toString id)

namespace Table

/-- Adds a store, or says anew whether it is open. -/
def addStore (table : Table) (id : StoreId) (active : Bool) : Table :=
  { table with stores := ⟨id, active⟩ :: table.stores.filter (fun store => store.id != id) }

/-- Adds a member of staff, and gives the new id. -/
def addStaff (table : Table) (username email passwordHash : String) (role : Role) :
    PrincipalId × Table :=
  let id := table.lastId + 1
  let member : Staff := ⟨id, username, email, passwordHash, role, true⟩
  (id, { table with staff := table.staff ++ [member], lastId := id })

/-- The member of staff with an id. -/
def staff? (table : Table) (id : PrincipalId) : Option Staff :=
  table.staff.find? (fun member => member.id == id)

/-- The member of staff with a name; of several the one with the least id. -/
def staffNamed? (table : Table) (username : String) : Option Staff :=
  table.staff.find? (fun member => member.username == username)

/-- The customer with an id. -/
def customer? (table : Table) (id : PrincipalId) : Option Customer :=
  table.customers.find? (fun customer => customer.id == id)

/-- The stores of a member of staff who has the role given: the open ones for the highest role,
and the granted ones for the others. -/
def storeList (table : Table) (id : PrincipalId) (role : Role) : StoreSet :=
  match role with
  | .superAdmin =>
    .ofList ((table.stores.filter (fun store => store.isActive)).map (fun store => store.id))
  | _ => .ofList ((table.grants.filter (fun grant => grant.staff == id)).map Grant.store)

/-- Changes a member of staff. -/
def changeStaff (table : Table) (id : PrincipalId) (change : Staff → Staff) :
    Except StorageError Unit × Table :=
  match table.staff? id with
  | none => (.error (noStaff id), table)
  | some _ =>
    let staff := table.staff.map (fun member => if member.id == id then change member else member)
    (.ok (), { table with staff })

/-- Adds a grant, once. -/
def addGrant (grants : List Grant) (grant : Grant) : List Grant :=
  if grants.contains grant then grants else grants ++ [grant]

/-- Grants a batch of stores, if the member of staff and all the stores exist. -/
def grantStores (table : Table) (id : PrincipalId) (stores : List StoreId) :
    Except StorageError Unit × Table :=
  match table.staff? id with
  | none => (.error (noStaff id), table)
  | some _ =>
    match stores.find? (fun store => !table.stores.any (fun known => known.id == store)) with
    | some missing => (.error (noStore missing), table)
    | none =>
      let grants := stores.foldl (fun grants store => addGrant grants ⟨id, store⟩) table.grants
      (.ok (), { table with grants })

/-- Takes a batch of grants away. -/
def revokeStores (table : Table) (id : PrincipalId) (stores : List StoreId) : Table :=
  let grants :=
    table.grants.filter (fun grant => !(grant.staff == id && stores.contains grant.store))
  { table with grants }

/-- Adds the customer of an identity or brings the customer up to date. A mail address that is
known is kept when the identity has none. -/
def upsertCustomer (table : Table) (identity : Identity) : Customer × Table :=
  match table.customers.find? (fun c => c.providerUid == some identity.providerUid) with
  | some known =>
    let customer : Customer :=
      { known with name := identity.name, email := identity.email.or known.email }
    let customers := table.customers.map (fun c => if c.id == known.id then customer else c)
    (customer, { table with customers })
  | none =>
    let id := table.lastId + 1
    let customer : Customer := ⟨id, some identity.providerUid, identity.name, identity.email⟩
    (customer, { table with customers := table.customers ++ [customer], lastId := id })

/-- Answers a call. -/
def answer (table : Table) : (call : Call) → Except StorageError call.Value × Table
  | .findStaff username => (.ok (table.staffNamed? username), table)
  | .getStaff id => (.ok (table.staff? id), table)
  | .storeList id role => (.ok (table.storeList id role), table)
  | .setPasswordHash id passwordHash =>
    table.changeStaff id (fun member => { member with passwordHash })
  | .setRole id role => table.changeStaff id (fun member => { member with role })
  | .setActive id isActive => table.changeStaff id (fun member => { member with isActive })
  | .grantStores id stores => table.grantStores id stores
  | .revokeStores id stores => (.ok (), table.revokeStores id stores)
  | .getCustomer id => (.ok (table.customer? id), table)
  | .upsertCustomer identity =>
    let (customer, table) := table.upsertCustomer identity
    (.ok customer, table)

end Table

end Gatehouse.Directory
