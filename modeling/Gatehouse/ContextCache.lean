import Gatehouse.Request

/-!
# The cache of contexts

Contexts are kept as JSON among the shared entries, each under a key made of its kind and id. The
cache only advises: an unreachable store counts as a cache without the entry, and an entry that does
not hold a context of the right principal is dropped and counts as absent. A context that is not
cached is built from the directory.
-/

namespace Gatehouse.ContextCache

/-- The key of a principal's entry. -/
def keyFor (kind : PrincipalKind) (id : PrincipalId) : String :=
  "auth_ctx:" ++ kind.name ++ ":" ++ toString id

/-- The context that an entry holds, if it holds one of this principal. -/
def decode? (kind : PrincipalKind) (id : PrincipalId) (value : Bytes) : Option Context :=
  (Context.read.document value).toOption.filter (fun context => context.isFor kind id)

/-- The cached context of a principal. An entry that does not hold one is dropped. -/
def get (kind : PrincipalKind) (id : PrincipalId) : Request (Option Context) := do
  match ← Request.keyValue (.get (keyFor kind id)) with
  | .error _ => return none
  | .ok none => return none
  | .ok (some value) =>
    match decode? kind id value with
    | some context => return some context
    | none =>
      discard (Request.keyValue (.delete (keyFor kind id)))
      return none

/-- Caches a context under a principal. -/
def set (kind : PrincipalKind) (id : PrincipalId) (context : Context) (ttl : Duration) :
    Request (Except StorageError Unit) :=
  Request.keyValue (.set (keyFor kind id) context.write ttl)

/-- Caches a context under its own principal; a failure is let pass. -/
def prime (ttl : Duration) (context : Context) : Request Unit :=
  discard (set context.kind context.principalId context ttl)

/-- Drops the entry of a principal. -/
def invalidate (kind : PrincipalKind) (id : PrincipalId) : Request (Except StorageError Unit) :=
  Request.keyValue (.delete (keyFor kind id))

/-- The context of an active member of staff, from the directory. -/
def loadStaff (id : PrincipalId) : Action Context := do
  let found ← Action.directory (.getStaff id)
  let staff ← Action.require .principalNotFound
    (found.filter (fun member : Directory.Staff => member.isActive))
  let stores ← Action.directory (.storeList staff.id staff.role)
  return ⟨staff.id, .staff, staff.username, some staff.role, stores⟩

/-- The context of a customer, from the directory. -/
def loadCustomer (id : PrincipalId) : Action Context := do
  let found ← Action.directory (.getCustomer id)
  let customer : Directory.Customer ← Action.require .principalNotFound found
  return ⟨customer.id, .customer, customer.name, none, .empty⟩

/-- The context of a principal, from the directory. Principals that are missing or not active have
none. -/
def load (kind : PrincipalKind) (id : PrincipalId) : Action Context :=
  match kind with
  | .staff => loadStaff id
  | .customer => loadCustomer id

/-- The cached context of a principal, or else the one from the directory, which is then cached. -/
def resolve (ttl : Duration) (kind : PrincipalKind) (id : PrincipalId) : Action Context := do
  match ← Action.always (get kind id) with
  | some context => return context
  | none =>
    let context ← load kind id
    Action.always (prime ttl context)
    return context

end Gatehouse.ContextCache
