import Gatehouse.Proofs.History

/-!
# The calls of an operation

Which calls each operation can make, going by the replies it was given: every operation looks
around, keeps and drops cached contexts, and makes the writes that are its own, each only after the
replies that justify it. Main statement: an operation that is licensed to do so stays within these
bounds (`Operation.within`), so what such calls keep is kept by every run of it and by every step.
-/

namespace Gatehouse

/-- Whether a call leaves the directory as it is. -/
def Directory.Call.reads : Directory.Call → Bool
  | findStaff _ => true
  | getStaff _ => true
  | storeList _ _ => true
  | getCustomer _ => true
  | _ => false

/-- Whether a call only looks at sessions, directory or the outside: it changes no store, and lets
no time pass. -/
def RequestCall.looks : RequestCall → Bool
  | .store (.session (.find _ _)) => true
  | .store (.directory call) => call.reads
  | .store _ => false
  | .outside (.pause _) => false
  | .outside _ => true

section Replies

variable (expected : (call : RequestCall) → call.Reply → Prop)

/-- The directory may be expected to answer a call with a value. -/
def Says (call : Directory.Call) (value : call.Value) : Prop :=
  expected (.store (.directory call)) (.ok value)

/-- A context as the cache may be expected to hold it. -/
def Cached (kind : PrincipalKind) (id : PrincipalId) (context : Context) : Prop :=
  ∃ value : Bytes,
    expected (.store (.keyValue (.get (ContextCache.keyFor kind id)))) (.ok (some value)) ∧
      ContextCache.decode? kind id value = some context

/-- A context made of what the directory may be expected to answer. -/
def Loaded (kind : PrincipalKind) (id : PrincipalId) (context : Context) : Prop :=
  match kind with
  | .staff =>
    ∃ (staff : Directory.Staff) (stores : StoreSet),
      Says expected (.getStaff id) (some staff) ∧ staff.isActive = true ∧
        Says expected (.storeList staff.id staff.role) stores ∧
          context = ⟨staff.id, .staff, staff.username, some staff.role, stores⟩
  | .customer =>
    ∃ customer : Directory.Customer,
      Says expected (.getCustomer id) (some customer) ∧
        context = ⟨customer.id, .customer, customer.name, none, .empty⟩

/-- A context that a request may go by: from the cache, or from the directory. -/
def Resolved (kind : PrincipalKind) (id : PrincipalId) (context : Context) : Prop :=
  Cached expected kind id context ∨ Loaded expected kind id context

/-- Why a caller may manage a member of staff: the caller's role, who is someone else's, manages
that of the member, and reaches every store of the member if it is bound to stores. -/
structure Manages (caller : Context) (target : PrincipalId) (role : Role)
    (staff : Directory.Staff) : Prop where
  /-- The caller has the role. -/
  role_eq : caller.staffRole = some role
  /-- The caller is someone else. -/
  other : caller.isFor .staff target = false
  /-- The member is there. -/
  found : Says expected (.getStaff target) (some staff)
  /-- The role manages that of the member. -/
  canManage : role.canManage staff.role = true
  /-- The stores of the member are within reach. -/
  reaches : role ≠ .superAdmin → ∃ stores : StoreSet,
    Says expected (.storeList staff.id staff.role) stores ∧
      role.canAccessAll caller.stores stores.ids = true

/-- Why a caller may set the password of a member of staff: the member is the caller, or one whom
the highest role manages and the caller has that role. -/
structure SetsPassword (caller : Context) (target : PrincipalId) (staff : Directory.Staff) :
    Prop where
  /-- The caller has a role. -/
  hasRole : ∃ role, caller.staffRole = some role
  /-- The member is there. -/
  found : Says expected (.getStaff target) (some staff)
  /-- The member is the caller, or below the caller. -/
  own_or_managed : caller.isFor .staff target = true ∨
    (caller.staffRole = some .superAdmin ∧ Role.canManage .superAdmin staff.role = true)

/-- The calls by which an operation may change sessions and directory, each with the replies that
justify it. -/
def Operation.MayWrite : Operation → StoreCall → Prop
  | signInStaff _ _ _, call => ∃ new : Session.New, call = .session (.create new)
  | signInCustomer _ _, call =>
    (∃ new : Session.New, call = .session (.create new)) ∨
      ∃ identity : Directory.Identity, call = .directory (.upsertCustomer identity)
  | refresh _ _, _ => False
  | signOut kind token, call => call = .session (.revoke kind token)
  | permissions _, _ => False
  | authorize _ _, _ => False
  | changePassword claims target _ _, call =>
    ∃ caller staff hash, Resolved expected claims.kind claims.subject caller ∧
      SetsPassword expected caller target staff ∧
        call = .directory (.setPasswordHash target hash)
  | changeRole claims target newRole, call =>
    ∃ caller role staff, Resolved expected claims.kind claims.subject caller ∧
      Manages expected caller target role staff ∧ role.canManage newRole = true ∧
        call = .directory (.setRole target newRole)
  | setActive claims target active, call =>
    ∃ caller role staff, Resolved expected claims.kind claims.subject caller ∧
      Manages expected caller target role staff ∧ call = .directory (.setActive target active)
  | grantStores claims target stores, call =>
    ∃ caller role staff, Resolved expected claims.kind claims.subject caller ∧
      Manages expected caller target role staff ∧
        role.canAccessAll caller.stores stores = true ∧
          call = .directory (.grantStores target stores)
  | revokeStores claims target stores, call =>
    ∃ caller role staff, Resolved expected claims.kind claims.subject caller ∧
      Manages expected caller target role staff ∧
        role.canAccessAll caller.stores stores = true ∧
          call = .directory (.revokeStores target stores)

end Replies

/-- What every operation of the service may do: look around, read and drop cached contexts, and
cache a context that the directory gave. -/
structure Service.Licence (service : Service) (allowed : RequestCall → Prop)
    (expected : (call : RequestCall) → call.Reply → Prop) : Prop where
  /-- To look around. -/
  look : ∀ call : RequestCall, call.looks = true → allowed call
  /-- To read a cached context. -/
  consult : ∀ kind id, allowed (.store (.keyValue (.get (ContextCache.keyFor kind id))))
  /-- To drop a cached context. -/
  drop : ∀ kind id, allowed (.store (.keyValue (.delete (ContextCache.keyFor kind id))))
  /-- To cache a context that the directory gave. -/
  keep : ∀ kind id context, Loaded expected kind id context →
    allowed (.store (.keyValue (.set
      (ContextCache.keyFor context.kind context.principalId) context.write service.contextTtl)))

variable {service : Service} {allowed : RequestCall → Prop}
  {expected : (call : RequestCall) → call.Reply → Prop}

/-- To look around is to read the directory, too. -/
theorem Service.Licence.read (licence : service.Licence allowed expected) (call : Directory.Call)
    (h : call.reads = true) : allowed (.store (.directory call)) :=
  licence.look _ h

/-! ## The cache of contexts -/

/-- A context belongs to a principal if it has the principal's kind and id. -/
theorem Context.isFor_iff {context : Context} {kind : PrincipalKind} {id : PrincipalId} :
    context.isFor kind id = true ↔ context.kind = kind ∧ context.principalId = id := by
  simp [Context.isFor]

namespace ContextCache

/-- What is decoded for a principal is a context of that principal. -/
theorem isFor_of_decode? {kind : PrincipalKind} {id : PrincipalId} {value : Bytes}
    {context : Context} (h : decode? kind id value = some context) :
    context.isFor kind id = true :=
  (Option.filter_eq_some_iff.1 h).2

/-- Reading the cache gives only contexts that it may be expected to hold. -/
theorem get_within {kind : PrincipalKind} {id : PrincipalId}
    (hconsult : allowed (.store (.keyValue (.get (keyFor kind id)))))
    (hdrop : allowed (.store (.keyValue (.delete (keyFor kind id))))) :
    Program.Within (I := requests) allowed expected
      (fun found => ∀ context, found = some context → Cached expected kind id context)
      (get kind id) := by
  rw [get]
  refine Program.Within.bind (Program.within_call (I := requests) hconsult (fun _ h => h)) ?_
  rintro (error | _ | value) hreply
  · exact Program.within_pure (by rintro _ ⟨⟩)
  · exact Program.within_pure (by rintro _ ⟨⟩)
  · dsimp only
    split
    · rename_i context hdecode
      refine Program.within_pure ?_
      rintro _ ⟨⟩
      exact ⟨value, hreply, hdecode⟩
    -- an entry that does not hold a context of this principal is dropped
    · refine Program.Within.andThen ?_ ?_
      · exact ⟨hdrop, fun _ _ => trivial⟩
      · exact fun _ => Program.within_pure (by rintro _ ⟨⟩)

/-- Caching a context stays within bounds if that may be done. -/
theorem prime_within {ttl : Duration} {context : Context}
    (h : allowed (.store (.keyValue (.set
      (keyFor context.kind context.principalId) context.write ttl)))) :
    Program.Within (I := requests) allowed expected (fun _ => True) (prime ttl context) := by
  refine Program.Within.andThen ?_ (fun _ => trivial)
  exact ⟨h, fun _ _ => trivial⟩

/-- A context from the directory is made of what the directory may be expected to answer. -/
theorem load_within
    (hread : ∀ call : Directory.Call, call.reads = true → allowed (.store (.directory call)))
    (kind : PrincipalKind) (id : PrincipalId) :
    Action.Within allowed expected (Loaded expected kind id) (load kind id) := by
  cases kind with
  | staff =>
    refine Action.Within.bind (Action.within_directory (hread _ rfl) (fun _ h => h)) ?_
    intro found hfound
    refine Action.Within.bind (Action.within_require (fun _ h => h)) ?_
    intro staff hstaff
    obtain ⟨rfl, hactive⟩ := Option.filter_eq_some_iff.1 hstaff
    refine Action.Within.bind (Action.within_directory (hread _ rfl) (fun _ h => h)) ?_
    intro stores hstores
    exact Action.within_pure ⟨staff, stores, hfound, hactive, hstores, rfl⟩
  | customer =>
    refine Action.Within.bind (Action.within_directory (hread _ rfl) (fun _ h => h)) ?_
    intro found hfound
    refine Action.Within.bind (Action.within_require (fun _ h => h)) ?_
    rintro customer rfl
    exact Action.within_pure ⟨customer, hfound, rfl⟩

/-- A resolved context comes from the cache or from the directory. -/
theorem resolve_within {ttl : Duration} {kind : PrincipalKind} {id : PrincipalId}
    (hconsult : allowed (.store (.keyValue (.get (keyFor kind id)))))
    (hdrop : allowed (.store (.keyValue (.delete (keyFor kind id)))))
    (hread : ∀ call : Directory.Call, call.reads = true → allowed (.store (.directory call)))
    (hkeep : ∀ context, Loaded expected kind id context →
      allowed (.store (.keyValue (.set
        (keyFor context.kind context.principalId) context.write ttl)))) :
    Action.Within allowed expected (Resolved expected kind id) (resolve ttl kind id) := by
  refine Action.Within.bind (Action.within_always (get_within hconsult hdrop)) ?_
  -- a context that was not in the cache is loaded, and cached if it can be
  rintro (_ | context) hfound
  · refine Action.Within.bind (load_within hread kind id) ?_
    intro context hloaded
    refine Action.Within.bind (Action.within_always (prime_within (hkeep _ hloaded))) ?_
    exact fun _ _ => Action.within_pure (.inr hloaded)
  · exact Action.within_pure (.inl (hfound context rfl))

end ContextCache

/-- To read, drop and cache contexts is to resolve them. -/
theorem Service.Licence.resolve (licence : service.Licence allowed expected) (kind : PrincipalKind)
    (id : PrincipalId) :
    Action.Within allowed expected (Resolved expected kind id)
      (ContextCache.resolve service.contextTtl kind id) :=
  ContextCache.resolve_within (licence.consult kind id) (licence.drop kind id) licence.read
    (licence.keep kind id)

/-- A context that a request goes by has the kind that it was asked for. -/
theorem Resolved.kind_eq {kind : PrincipalKind} {id : PrincipalId} {context : Context}
    (h : Resolved expected kind id context) : context.kind = kind := by
  rcases h with ⟨value, -, hdecode⟩ | hloaded
  · exact (Context.isFor_iff.1 (ContextCache.isFor_of_decode? hdecode)).1
  · cases kind with
    | staff =>
      obtain ⟨staff, stores, -, -, -, rfl⟩ := hloaded
      rfl
    | customer =>
      obtain ⟨customer, -, rfl⟩ := hloaded
      rfl

/-- A context of staff that a request goes by has the id that it was asked for, if the directory
answers with the member of that id. -/
theorem Resolved.principalId_eq {id : PrincipalId} {context : Context}
    (h : Resolved expected .staff id context)
    (hstaff : ∀ staff, Says expected (.getStaff id) (some staff) → staff.id = id) :
    context.principalId = id := by
  rcases h with ⟨value, -, hdecode⟩ | ⟨staff, stores, hfound, -, -, rfl⟩
  · exact (Context.isFor_iff.1 (ContextCache.isFor_of_decode? hdecode)).2
  · exact hstaff staff hfound

/-! ## What operations share -/

namespace Service

/-- Dropping a cached context is always within bounds. -/
theorem forget_within (licence : service.Licence allowed expected) (kind : PrincipalKind)
    (id : PrincipalId) :
    Action.Within allowed expected (fun _ => True) (forget kind id) := by
  refine Action.within_always (Program.Within.andThen ?_ (fun _ => trivial))
  exact ⟨licence.drop kind id, fun _ _ => trivial⟩

/-- Issuing an access token only looks. -/
theorem issue_within (hlook : ∀ call : RequestCall, call.looks = true → allowed call)
    (context : Context) :
    Action.Within allowed expected (fun _ => True) (service.issue context) := by
  refine Action.Within.bind (Action.within_outside (hlook _ rfl) (fun _ _ => trivial)) ?_
  intro now _
  refine Action.Within.bind (Action.within_outside (hlook _ rfl) (fun _ _ => trivial)) ?_
  exact fun _ _ => Action.within_pure trivial

/-- The context of a caller is one that the request may go by. -/
theorem permissions_within (licence : service.Licence allowed expected) (claims : Token.Claims) :
    Action.Within allowed expected (Resolved expected claims.kind claims.subject)
      (service.permissions claims) :=
  licence.resolve claims.kind claims.subject

/-- A caller's role is that of the caller's context. -/
theorem roleOf_within (caller : Context) :
    Action.Within allowed expected (fun role => caller.staffRole = some role) (roleOf caller) :=
  Action.within_require (fun _ h => h)

/-- A member of staff who is required is one that the directory may be expected to answer. -/
theorem requireStaff_within
    (hread : ∀ call : Directory.Call, call.reads = true → allowed (.store (.directory call)))
    (id : PrincipalId) :
    Action.Within allowed expected
      (fun staff => Says expected (.getStaff id) (some staff)) (requireStaff id) := by
  refine Action.Within.bind (Action.within_directory (hread _ rfl) (fun _ h => h)) ?_
  rintro found hfound
  refine Action.within_require ?_
  rintro staff rfl
  exact hfound

/-- A managed target is one whom the caller may manage, going by the replies. -/
theorem managedTarget_within
    (hread : ∀ call : Directory.Call, call.reads = true → allowed (.store (.directory call)))
    (caller : Context) (target : PrincipalId) :
    Action.Within allowed expected
      (fun managed => Manages expected caller target managed.1 managed.2)
      (managedTarget caller target) := by
  refine Action.Within.bind (roleOf_within caller) ?_
  intro role hrole
  refine Action.within_check ?_
  intro hother
  refine Action.Within.bind (requireStaff_within hread target) ?_
  intro staff hfound
  refine Action.within_check ?_
  intro hmanage
  have hother : caller.isFor .staff target = false := by simpa using hother
  have hmanage : role.canManage staff.role = true := by simpa using hmanage
  dsimp only
  split
  · refine Action.Within.bind (Action.within_directory (hread _ rfl) (fun _ h => h)) ?_
    intro stores hstores
    refine Action.within_check ?_
    intro hreach
    exact Action.within_pure ⟨hrole, hother, hfound, hmanage,
      fun _ => ⟨stores, hstores, by simpa using hreach⟩⟩
  · rename_i hrank
    exact Action.within_pure ⟨hrole, hother, hfound, hmanage, fun h => absurd h hrank⟩

/-- A batch that was checked is within the caller's reach, as is the member of staff. -/
theorem checkBatch_within
    (hread : ∀ call : Directory.Call, call.reads = true → allowed (.store (.directory call)))
    (caller : Context) (target : PrincipalId) (stores : List StoreId) :
    Action.Within allowed expected
      (fun _ => ∃ role staff, Manages expected caller target role staff ∧
        role.canAccessAll caller.stores stores = true)
      (checkBatch caller target stores) := by
  rw [checkBatch]
  refine Action.within_check ?_
  intro _
  refine Action.Within.bind (managedTarget_within hread caller target) ?_
  rintro ⟨role, staff⟩ hmanages
  dsimp only
  split
  · exact Action.within_throw _
  · rename_i hreach
    exact Action.within_pure ⟨role, staff, hmanages, by simpa using hreach⟩

/-! ## The operations -/

/-- Opening a session creates it and caches the context. -/
theorem openSession_within (licence : service.Licence allowed expected) {context : Context}
    {kind : PrincipalKind} {id : PrincipalId} (hloaded : Loaded expected kind id context)
    (hcreate : ∀ new : Session.New, allowed (.store (.session (.create new))))
    (client : ClientInfo) :
    Action.Within allowed expected (fun _ => True) (service.openSession context client) := by
  refine Action.Within.bind (issue_within licence.look context) ?_
  intro access _
  refine Action.Within.bind (Action.within_outside (licence.look _ rfl) (fun _ _ => trivial)) ?_
  intro entropy _
  refine Action.Within.andThen ?_ ?_
  · exact Action.Within.map (Action.within_session (hcreate _) (fun _ _ => trivial))
      (fun _ _ => trivial)
  intro _
  refine Action.Within.bind
    (Action.within_always (ContextCache.prime_within (licence.keep _ _ _ hloaded))) ?_
  exact fun _ _ => Action.within_pure trivial

/-- Signing in a member of staff writes nothing but a session. -/
theorem signInStaff_within (licence : service.Licence allowed expected)
    (hcreate : ∀ new : Session.New, allowed (.store (.session (.create new))))
    (username password : String) (client : ClientInfo) :
    Action.Within allowed expected (fun _ => True)
      (service.signInStaff username password client) := by
  refine Action.Within.andThen
    (Action.within_directory (licence.look _ rfl) (fun _ _ => trivial)) ?_
  intro found
  refine Action.Within.andThen (Action.within_require (fun _ _ => trivial)) ?_
  intro staff
  refine Action.Within.andThen
    (Action.within_outside (licence.look _ rfl) (fun _ _ => trivial)) ?_
  intro fits
  refine Action.within_check ?_
  intro _
  refine Action.Within.bind (ContextCache.load_within licence.read .staff staff.id).mapFailure ?_
  intro context hloaded
  exact openSession_within licence hloaded hcreate client

/-- Signing in a customer writes nothing but the customer and a session. -/
theorem signInCustomer_within (licence : service.Licence allowed expected)
    (hcreate : ∀ new : Session.New, allowed (.store (.session (.create new))))
    (hupsert : ∀ identity, allowed (.store (.directory (.upsertCustomer identity))))
    (idToken : String) (client : ClientInfo) :
    Action.Within allowed expected (fun _ => True) (service.signInCustomer idToken client) := by
  rw [signInCustomer]
  refine Action.within_check ?_
  intro _
  refine Action.Within.andThen (Action.within_ofRequest
    (Program.within_call (I := requests) (licence.look _ rfl) (fun _ _ _ _ => trivial))) ?_
  intro identity
  refine Action.Within.andThen
    (Action.within_directory (hupsert identity) (fun _ _ => trivial)) ?_
  intro customer
  refine Action.Within.bind (ContextCache.load_within licence.read .customer customer.id) ?_
  intro context hloaded
  exact openSession_within licence hloaded hcreate client

/-- Refreshing writes nothing. -/
theorem refresh_within (licence : service.Licence allowed expected) (kind : PrincipalKind)
    (token : String) :
    Action.Within allowed expected (fun _ => True) (service.refresh kind token) := by
  refine Action.Within.andThen (Action.within_ofRequest
    (Program.within_call (I := requests) (licence.look _ rfl) (fun _ _ _ _ => trivial))) ?_
  intro session
  refine Action.Within.bind
    (licence.resolve kind session.principalId).mapFailure ?_
  intro context _
  refine Action.Within.bind (issue_within licence.look context) ?_
  exact fun _ _ => Action.within_pure trivial

/-- Signing out writes nothing but the end of the session. -/
theorem signOut_within (licence : service.Licence allowed expected) (kind : PrincipalKind)
    (token : String) (hrevoke : allowed (.store (.session (.revoke kind token)))) :
    Action.Within allowed expected (fun _ => True) (signOut kind token) := by
  refine Action.Within.andThen
    (Action.within_session hrevoke (fun _ _ => trivial)) ?_
  rintro (_ | owner)
  · exact Action.within_pure trivial
  · exact forget_within licence kind owner

/-- Authorizing gives the context that the request may go by. -/
theorem authorize_within (licence : service.Licence allowed expected) (claims : Token.Claims)
    (requirement : Requirement) :
    Action.Within allowed expected (Resolved expected claims.kind claims.subject)
      (service.authorize claims requirement) := by
  refine Action.Within.bind (permissions_within licence claims) ?_
  intro context hresolved
  split
  · exact Action.within_pure hresolved
  · exact Action.within_throw _

/-- A write to the directory and the dropping of a context stay within bounds if the write does. -/
theorem write_forget_within (licence : service.Licence allowed expected) {call : Directory.Call}
    (hcall : allowed (.store (.directory call))) (target : PrincipalId) :
    Action.Within allowed expected (fun _ => True)
      (do discard (Action.directory call); forget .staff target) := by
  refine Action.Within.andThen ?_ (fun _ => forget_within licence _ _)
  exact Action.Within.map (Action.within_directory hcall (fun _ _ => trivial)) (fun _ _ => trivial)

/-- Changing a password writes nothing but the hash, and only for a caller who may do so. -/
theorem changePassword_within (licence : service.Licence allowed expected) (claims : Token.Claims)
    (target : PrincipalId) (oldPassword : Option String) (newPassword : String)
    (hwrite : ∀ caller staff hash, Resolved expected claims.kind claims.subject caller →
      SetsPassword expected caller target staff →
        allowed (.store (.directory (.setPasswordHash target hash)))) :
    Action.Within allowed expected (fun _ => True)
      (service.changePassword claims target oldPassword newPassword) := by
  refine Action.Within.bind (permissions_within licence claims) ?_
  intro caller hcaller
  refine Action.Within.bind (roleOf_within caller) ?_
  intro role hrole
  refine Action.Within.bind (requireStaff_within licence.read target) ?_
  intro staff hfound
  -- both branches of the check on the caller go on with the replacement
  extract_lets replace proceed
  have hproceed (hright : SetsPassword expected caller target staff) :
      Action.Within allowed expected (fun _ => True) (proceed ()) := by
    refine Action.within_check ?_
    intro _
    refine Action.Within.andThen (Action.within_ofRequest
      (Program.within_call (I := requests) (licence.look _ rfl) (fun _ _ _ _ => trivial))) ?_
    intro hash
    exact write_forget_within licence (hwrite caller staff hash hcaller hright) target
  split
  · rename_i hown
    refine Action.Within.andThen (Action.within_require (fun _ _ => trivial)) ?_
    intro old
    refine Action.Within.andThen
      (Action.within_outside (licence.look _ rfl) (fun _ _ => trivial)) ?_
    intro fits
    refine Action.within_check ?_
    intro _
    exact hproceed ⟨⟨role, hrole⟩, hfound, .inl hown⟩
  · refine Action.within_check ?_
    intro hrank
    obtain ⟨rfl, hmanage⟩ : role = .superAdmin ∧ Role.canManage .superAdmin staff.role = true := by
      simpa using hrank
    exact hproceed ⟨⟨.superAdmin, hrole⟩, hfound, .inr ⟨hrole, hmanage⟩⟩

/-- Changing a role writes nothing but the role, and only for a caller who may do so. -/
theorem changeRole_within (licence : service.Licence allowed expected) (claims : Token.Claims)
    (target : PrincipalId) (newRole : Role)
    (hwrite : ∀ caller role staff, Resolved expected claims.kind claims.subject caller →
      Manages expected caller target role staff → role.canManage newRole = true →
        allowed (.store (.directory (.setRole target newRole)))) :
    Action.Within allowed expected (fun _ => True)
      (service.changeRole claims target newRole) := by
  refine Action.Within.bind (permissions_within licence claims) ?_
  intro caller hcaller
  refine Action.Within.bind (managedTarget_within licence.read caller target) ?_
  rintro ⟨role, staff⟩ hmanages
  refine Action.within_check ?_
  intro hassign
  have hassign : role.canManage newRole = true := by simpa using hassign
  exact write_forget_within licence (hwrite caller role staff hcaller hmanages hassign) target

/-- Saying whether a member may sign in writes nothing else, and only for a caller who may do so. -/
theorem setActive_within (licence : service.Licence allowed expected) (claims : Token.Claims)
    (target : PrincipalId) (active : Bool)
    (hwrite : ∀ caller role staff, Resolved expected claims.kind claims.subject caller →
      Manages expected caller target role staff →
        allowed (.store (.directory (.setActive target active)))) :
    Action.Within allowed expected (fun _ => True) (service.setActive claims target active) := by
  refine Action.Within.bind (permissions_within licence claims) ?_
  intro caller hcaller
  have hmanaged : Action.Within allowed expected
      (fun _ : Unit => ∃ role staff, Manages expected caller target role staff)
      (discard (managedTarget caller target)) :=
    Action.Within.map (managedTarget_within licence.read caller target)
      (fun managed hmanages => ⟨managed.1, managed.2, hmanages⟩)
  refine Action.Within.bind hmanaged ?_
  rintro _ ⟨role, staff, hmanages⟩
  exact write_forget_within licence (hwrite caller role staff hcaller hmanages) target

/-- Granting stores writes nothing but grants, and only for a caller who may do so. -/
theorem grantStores_within (licence : service.Licence allowed expected) (claims : Token.Claims)
    (target : PrincipalId) (stores : List StoreId)
    (hwrite : ∀ caller role staff, Resolved expected claims.kind claims.subject caller →
      Manages expected caller target role staff → role.canAccessAll caller.stores stores = true →
        allowed (.store (.directory (.grantStores target stores)))) :
    Action.Within allowed expected (fun _ => True)
      (service.grantStores claims target stores) := by
  refine Action.Within.bind (permissions_within licence claims) ?_
  intro caller hcaller
  refine Action.Within.bind (checkBatch_within licence.read caller target stores) ?_
  rintro _ ⟨role, staff, hmanages, hreach⟩
  refine Action.Within.andThen (Action.within_ofRequest
    (Program.within_call (I := requests) (hwrite caller role staff hcaller hmanages hreach)
      (fun _ _ _ _ => trivial))) ?_
  exact fun _ => forget_within licence .staff target

/-- Taking grants away writes nothing but grants, and only for a caller who may do so. -/
theorem revokeStores_within (licence : service.Licence allowed expected) (claims : Token.Claims)
    (target : PrincipalId) (stores : List StoreId)
    (hwrite : ∀ caller role staff, Resolved expected claims.kind claims.subject caller →
      Manages expected caller target role staff → role.canAccessAll caller.stores stores = true →
        allowed (.store (.directory (.revokeStores target stores)))) :
    Action.Within allowed expected (fun _ => True)
      (service.revokeStores claims target stores) := by
  refine Action.Within.bind (permissions_within licence claims) ?_
  intro caller hcaller
  refine Action.Within.bind (checkBatch_within licence.read caller target stores) ?_
  rintro _ ⟨role, staff, hmanages, hreach⟩
  exact write_forget_within licence (hwrite caller role staff hcaller hmanages hreach) target

end Service

/-- An operation that may look around, cache what it loaded, and make the writes that are its own,
makes no other call. -/
theorem Operation.within (licence : service.Licence allowed expected) (operation : Operation)
    (hwrite : ∀ call, operation.MayWrite expected call → allowed (.store call)) :
    Action.Within allowed expected (fun _ => True) (operation.action service) := by
  cases operation with
  | signInStaff username password client =>
    exact (Service.signInStaff_within licence (fun new => hwrite _ ⟨new, rfl⟩)
      username password client).map (fun _ _ => trivial)
  | signInCustomer idToken client =>
    exact (Service.signInCustomer_within licence (fun new => hwrite _ (.inl ⟨new, rfl⟩))
      (fun identity => hwrite _ (.inr ⟨identity, rfl⟩)) idToken client).map (fun _ _ => trivial)
  | refresh kind token =>
    exact (Service.refresh_within licence kind token).map (fun _ _ => trivial)
  | signOut kind token =>
    exact (Service.signOut_within licence kind token (hwrite _ rfl)).map (fun _ _ => trivial)
  | permissions claims =>
    exact (Service.permissions_within licence claims).map (fun _ _ => trivial)
  | authorize claims requirement =>
    exact (Service.authorize_within licence claims requirement).map (fun _ _ => trivial)
  | changePassword claims target oldPassword newPassword =>
    exact (Service.changePassword_within licence claims target oldPassword newPassword
      (fun caller staff hash hcaller hright =>
        hwrite _ ⟨caller, staff, hash, hcaller, hright, rfl⟩)).map (fun _ _ => trivial)
  | changeRole claims target newRole =>
    exact (Service.changeRole_within licence claims target newRole
      (fun caller role staff hcaller hmanages hassign =>
        hwrite _ ⟨caller, role, staff, hcaller, hmanages, hassign, rfl⟩)).map (fun _ _ => trivial)
  | setActive claims target active =>
    exact (Service.setActive_within licence claims target active
      (fun caller role staff hcaller hmanages =>
        hwrite _ ⟨caller, role, staff, hcaller, hmanages, rfl⟩)).map (fun _ _ => trivial)
  | grantStores claims target stores =>
    exact (Service.grantStores_within licence claims target stores
      (fun caller role staff hcaller hmanages hreach =>
        hwrite _ ⟨caller, role, staff, hcaller, hmanages, hreach, rfl⟩)).map (fun _ _ => trivial)
  | revokeStores claims target stores =>
    exact (Service.revokeStores_within licence claims target stores
      (fun caller role staff hcaller hmanages hreach =>
        hwrite _ ⟨caller, role, staff, hcaller, hmanages, hreach, rfl⟩)).map (fun _ _ => trivial)

/-! ## Sweeps -/

/-- The calls of a sweep: to its lock, to drop dead entries and dead sessions, and to pause. -/
def SweepSettings.MayCall (settings : SweepSettings) : RequestCall → Prop
  | .store (.keyValue call) =>
    call = .setIfAbsent (Lock.keyFor settings.job) Lock.heldValue settings.lockTtl ∨
      call = .delete (Lock.keyFor settings.job) ∨ call = .purge
  | .store (.session call) =>
    ∃ kind, call = .countSweepable kind ∨ call = .deleteSweepable kind settings.batchSize
  | .store (.directory _) => False
  | .outside call => call = .pause settings.pause

/-- The calls that sweep a kind: to count and delete its dead sessions, and to pause. -/
def SweepSettings.Sweeps (settings : SweepSettings) (kind : PrincipalKind) : RequestCall → Prop
  | .store (.session call) =>
    call = .countSweepable kind ∨ call = .deleteSweepable kind settings.batchSize
  | .outside call => call = .pause settings.pause
  | _ => False

/-- A sweep may sweep each kind. -/
theorem SweepSettings.mayCall_of_sweeps {settings : SweepSettings} {kind : PrincipalKind}
    {call : RequestCall} (h : settings.Sweeps kind call) : settings.MayCall call := by
  rcases call with (call | call | call) | call
  · cases h
  · exact ⟨kind, h⟩
  · cases h
  · exact h

namespace Sweep

variable {settings : SweepSettings}

section

variable {kind : PrincipalKind} (h : ∀ call, settings.Sweeps kind call → allowed call)

include h

/-- Deleting batches deletes and pauses. -/
theorem deleteBatches_within (limit remaining : Nat) (report : KindReport) :
    Program.Within (I := requests) allowed expected (fun _ => True)
      (deleteBatches settings kind limit remaining report) := by
  -- over the number of batches that may still be deleted
  induction limit generalizing remaining report with
  | zero => trivial
  | succ limit ih =>
    refine Program.Within.andThen ⟨h _ (.inr rfl), fun _ _ => trivial⟩ ?_
    rintro (error | deleted)
    · trivial
    dsimp only
    split
    · trivial
    split
    · trivial
    split
    · refine Program.Within.andThen ⟨h _ rfl, fun _ _ => trivial⟩ ?_
      exact fun _ => ih _ _
    · exact ih _ _

/-- Sweeping a kind counts, deletes and pauses. -/
theorem sweepKind_within :
    Program.Within (I := requests) allowed expected (fun _ => True)
      (sweepKind settings kind) := by
  refine Program.Within.andThen ⟨h _ (.inl rfl), fun _ _ => trivial⟩ ?_
  rintro (error | found)
  · trivial
  dsimp only
  split
  · trivial
  · exact deleteBatches_within h found found _

end

/-- What a sweep does once it has its lock. -/
def sweepLocked (settings : SweepSettings) (purges : Bool) : Request Outcome := do
  let staff ← sweepKind settings .staff
  let customers ← sweepKind settings .customer
  let purged ← if purges then purge else pure 0
  discard (Lock.release (Lock.keyFor settings.job))
  return .completed ⟨[staff, customers], purged⟩

/-- A sweep that has its lock sweeps each kind, drops shared entries and releases the lock. -/
theorem sweepLocked_within
    (hsweeps : ∀ (kind : PrincipalKind) (call : RequestCall), settings.Sweeps kind call →
      allowed call)
    (hpurges : allowed (.store (.keyValue .purge)))
    (hreleases : allowed (.store (.keyValue (.delete (Lock.keyFor settings.job)))))
    (purges : Bool) :
    Program.Within (I := requests) allowed expected (fun _ => True)
      (sweepLocked settings purges) := by
  have hpurge : Program.Within (I := requests) allowed expected (fun _ => True) purge := by
    refine Program.Within.andThen ⟨hpurges, fun _ _ => trivial⟩ ?_
    rintro (error | count) <;> trivial
  have hrelease (report : Report) : Program.Within (I := requests) allowed expected (fun _ => True)
      (do discard (Lock.release (Lock.keyFor settings.job)); return Outcome.completed report) := by
    refine Program.Within.andThen ?_ (fun _ => trivial)
    exact ⟨hreleases, fun _ _ => trivial⟩
  refine Program.Within.bind (sweepKind_within (hsweeps .staff)) ?_
  intro staff _
  refine Program.Within.bind (sweepKind_within (hsweeps .customer)) ?_
  intro customers _
  dsimp only
  split
  · exact Program.Within.bind hpurge (fun count _ => hrelease ⟨[staff, customers], count⟩)
  · exact hrelease ⟨[staff, customers], 0⟩

/-- A sweep makes no other calls. -/
theorem runOnce_within (h : ∀ call, settings.MayCall call → allowed call) (purges : Bool) :
    Program.Within (I := requests) allowed expected (fun _ => True)
      (runOnce settings purges) := by
  have hlock : Program.Within (I := requests) allowed expected
      (fun outcome => ∀ key, outcome = .ok (some key) → key = Lock.keyFor settings.job)
      (Lock.acquire settings.job settings.lockTtl) := by
    refine Program.Within.andThen
      ⟨h _ (.inl rfl), fun _ _ => trivial⟩ ?_
    rintro (error | _ | _)
    · rintro _ ⟨⟩
    · rintro _ ⟨⟩
    · rintro _ ⟨⟩
      rfl
  refine Program.Within.bind hlock ?_
  rintro (error | _ | key) hkey
  · trivial
  · trivial
  obtain rfl := hkey key rfl
  exact sweepLocked_within (fun kind call hcall => h call (SweepSettings.mayCall_of_sweeps hcall))
    (h _ (.inr (.inr rfl))) (h _ (.inr (.inl rfl))) purges

end Sweep

end Gatehouse
