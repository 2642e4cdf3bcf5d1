import Gatehouse.Proofs.Administration
import Gatehouse.Proofs.Schedule

/-!
# What a directory decides

What comes of a request to change the access of staff, as a function of the directory alone: whether
the checks on the caller and the target let it pass, and what is then written. Main statement: a
request decides by one directory of those that its replies were read from, also if every reply comes
from another of them (`StaffRequest.deciding_ends`).
-/

namespace Gatehouse

/-! ## Decisions -/

namespace Directory.Table

/-- What the checks of a caller against a target come to: the caller's role, or the first failure.
-/
def judge (directory : Table) (caller : Context) (target : PrincipalId) : Except AuthError Role :=
  match caller.staffRole with
  | none => .error (.permissionDenied "staff role required")
  | some role =>
    if caller.isFor .staff target then
      .error (.permissionDenied "staff cannot modify their own access")
    else
      match directory.staff? target with
      | none => .error .principalNotFound
      | some member =>
        if !role.canManage member.role then
          .error (.permissionDenied (role.name ++ " cannot manage " ++ member.role.name))
        else if role ≠ .superAdmin ∧
            !role.canAccessAll caller.stores (directory.storeList target member.role).ids then
          .error (.permissionDenied
            ("staff " ++ toString target ++ " works in stores outside the caller's grants"))
        else .ok role

/-- What the checks of a caller against a target and a batch of stores come to. -/
def judgeBatch (directory : Table) (caller : Context) (target : PrincipalId)
    (stores : List StoreId) : Except AuthError Unit :=
  if stores.isEmpty then .error (.invalidRequest "storeIds must not be empty")
  else
    match directory.judge caller target with
    | .error error => .error error
    | .ok role =>
      if !role.canAccessAll caller.stores stores then
        .error (.permissionDenied "batch includes stores outside the caller's grants")
      else .ok ()

end Directory.Table

namespace StaffChange

/-- What the checks of a caller against a target come to for a change. -/
def vet (directory : Directory.Table) (caller : Context) (target : PrincipalId) :
    StaffChange → Except AuthError Unit
  | role newRole =>
    match directory.judge caller target with
    | .error error => .error error
    | .ok managing =>
      if !managing.canManage newRole then
        .error (.permissionDenied (managing.name ++ " cannot assign " ++ newRole.name))
      else .ok ()
  | active _ => (directory.judge caller target).map fun _ => ()
  | grant stores => directory.judgeBatch caller target stores
  | revoke stores => directory.judgeBatch caller target stores

/-- The call that writes a change. -/
def call (target : PrincipalId) : StaffChange → Directory.Call
  | role newRole => .setRole target newRole
  | active isActive => .setActive target isActive
  | grant stores => .grantStores target stores
  | revoke stores => .revokeStores target stores

/-- What a failure to grant stores is reported as. -/
def grantFailure : StorageError → AuthError
  | .notFound what => .invalidRequest ("unknown " ++ what)
  | error => .storage error

/-- What a failure to write a change is reported as. -/
def failure : StaffChange → StorageError → AuthError
  | grant _ => grantFailure
  | _ => .storage

/-- The outcome of writing a change, by the reply to the call that writes it. -/
def outcome (target : PrincipalId) (change : StaffChange)
    (reply : Except StorageError (change.call target).Value) : Except AuthError Unit :=
  (reply.mapError change.failure).map fun _ => ()

/-- What comes of writing a change: the outcome, and the directory after it. -/
def carry (directory : Directory.Table) (target : PrincipalId) (change : StaffChange) :
    Except AuthError Unit × Directory.Table :=
  (change.outcome target (directory.answer (change.call target)).1,
    (directory.answer (change.call target)).2)

end StaffChange

/-- A request to change the access of a member of staff. -/
structure StaffRequest where
  /-- The claims of the caller. -/
  claims : Token.Claims
  /-- The member of staff. -/
  target : PrincipalId
  /-- The change. -/
  change : StaffChange

namespace StaffRequest

/-- The operation that is asked for. -/
def operation (request : StaffRequest) : Operation :=
  request.change.operation request.claims request.target

/-- What a directory decides about a request. -/
def verdict (request : StaffRequest) (directory : Directory.Table) : Except AuthError Unit :=
  match directory.context? request.claims.kind request.claims.subject with
  | none => .error .principalNotFound
  | some caller => request.change.vet directory caller request.target

/-- What comes of a request about which something has been decided: a request that passes is written
to the directory. -/
def settle (request : StaffRequest) (verdict : Except AuthError Unit)
    (directory : Directory.Table) : Except AuthError Unit × Directory.Table :=
  match verdict with
  | .error error => (.error error, directory)
  | .ok () => request.change.carry directory request.target

/-- What comes of a request about which the directory decides that it is written to. -/
def serve (request : StaffRequest) (directory : Directory.Table) :
    Except AuthError Unit × Directory.Table :=
  request.settle (request.verdict directory) directory

end StaffRequest

/-! ## A request in two parts -/

namespace StaffChange

/-- The checks for a change. -/
def vetting (caller : Context) (target : PrincipalId) : StaffChange → Action Unit
  | role newRole => do
    let managed ← Service.managedTarget caller target
    if !managed.1.canManage newRole then
      throw (.permissionDenied (managed.1.name ++ " cannot assign " ++ newRole.name))
  | active _ => discard (Service.managedTarget caller target)
  | grant stores => Service.checkBatch caller target stores
  | revoke stores => Service.checkBatch caller target stores

/-- Writing a change, and dropping the context of whom it was made to. -/
def writing (target : PrincipalId) : StaffChange → Action Unit
  | role newRole => do
    discard (Action.directory (.setRole target newRole))
    Service.forget .staff target
  | active isActive => do
    discard (Action.directory (.setActive target isActive))
    Service.forget .staff target
  | grant stores => do
    Action.ofRequest grantFailure (Request.directory (.grantStores target stores))
    Service.forget .staff target
  | revoke stores => do
    discard (Action.directory (.revokeStores target stores))
    Service.forget .staff target

end StaffChange

/-- The part of a request that decides. -/
def StaffRequest.deciding (service : Service) (request : StaffRequest) : Action Unit := do
  let caller ← service.permissions request.claims
  request.change.vetting caller request.target

/-- A request decides first and writes then. -/
theorem StaffRequest.action_eq (service : Service) (request : StaffRequest) :
    request.change.action service request.claims request.target =
      request.deciding service >>= fun _ => request.change.writing request.target := by
  rw [deciding, bind_assoc]
  cases hchange : request.change with
  | role newRole =>
    refine congrArg (service.permissions request.claims >>= ·) (funext fun caller => ?_)
    rw [StaffChange.vetting, bind_assoc]
    refine congrArg (Service.managedTarget caller request.target >>= ·) (funext fun managed => ?_)
    dsimp only
    split
    · rfl
    · rfl
  | active isActive => rfl
  | grant stores => rfl
  | revoke stores => rfl

/-! ## Readings from several directories -/

section Found

variable {α ε : Type} {found : Option α} {error error' : ε}

/-- A success is the value that was found. -/
theorem ok_eq_elim {value : α} :
    (.ok value : Except ε α) = found.elim (.error error) .ok ↔ found = some value := by
  cases found <;> simp [eq_comm]

/-- A failure says that nothing was found. -/
theorem error_eq_elim :
    (.error error' : Except ε α) = found.elim (.error error) .ok ↔
      found = none ∧ error' = error := by
  cases found <;> simp

end Found

/-- A directory says of a member of staff what another one says. -/
def Directory.Table.Agrees (directory other : Table) (id : PrincipalId) : Prop :=
  directory.staff? id = other.staff? id ∧ directory.storeList id = other.storeList id

/-- Whatever is read of two members of staff from some directories is read from one of them. -/
structure Untorn (among : List Directory.Table) : Prop where
  /-- There is a directory. -/
  nonempty : ∃ directory, directory ∈ among
  /-- The customers are the same in all. -/
  customers : ∀ directory ∈ among, ∀ other ∈ among, directory.customers = other.customers
  /-- A row and the stores are read from one directory. -/
  own : ∀ directory ∈ among, ∀ other ∈ among, ∀ id, ∃ both ∈ among,
    both.staff? id = directory.staff? id ∧ both.storeList id = other.storeList id
  /-- What is said of two members is read from one directory. -/
  apart : ∀ directory ∈ among, ∀ other ∈ among, ∀ id otherId, id ≠ otherId → ∃ both ∈ among,
    both.Agrees directory id ∧ both.Agrees other otherId

/-- A value is the context of a principal as one of some directories gives it. -/
def Echoes (among : List Directory.Table) (kind : PrincipalKind) (id : PrincipalId)
    (value : Bytes) : Prop :=
  ∃ directory ∈ among, ∃ context, directory.context? kind id = some context ∧
    value = context.write

/-- The calls that cache only contexts that some directories give. -/
def Keeps (among : List Directory.Table) : RequestCall → Prop
  | .store (.keyValue call) =>
    ∀ kind id value, call.Sets (ContextCache.keyFor kind id) value → Echoes among kind id value
  | _ => True

/-- The replies that some directories give, and a cache that holds only their contexts. -/
def Seen (among : List Directory.Table) : (call : RequestCall) → call.Reply → Prop
  | .store (.keyValue (.get key)), reply =>
    ∀ value : Bytes, reply = (.ok (some value) : Except StorageError (Option _)) →
      ∀ kind id, key = ContextCache.keyFor kind id → Echoes among kind id value
  | .store (.directory call), reply => ∃ directory ∈ among, reply = (directory.answer call).1
  | _, _ => True

section Readings

variable {among : List Directory.Table} {directory other : Directory.Table}
  {caller : Context} {target : PrincipalId}

/-- What some directories give is given by more. -/
theorem Echoes.mono {more : List Directory.Table} (hsub : ∀ directory ∈ among, directory ∈ more)
    {kind : PrincipalKind} {id : PrincipalId} {value : Bytes} (h : Echoes among kind id value) :
    Echoes more kind id value := by
  obtain ⟨directory, hmem, hcontext⟩ := h
  exact ⟨directory, hsub directory hmem, hcontext⟩

/-- What is seen of some directories is seen of more. -/
theorem Seen.mono {more : List Directory.Table} (hsub : ∀ directory ∈ among, directory ∈ more)
    {call : RequestCall} {reply : call.Reply} (h : Seen among call reply) :
    Seen more call reply := by
  rcases call with (call | call | call) | call
  · cases call with
    | get key => exact fun value hvalue kind id hkey => (h value hvalue kind id hkey).mono hsub
    | _ => trivial
  · trivial
  · obtain ⟨directory, hmem, hreply⟩ := h
    exact ⟨directory, hsub directory hmem, hreply⟩
  · trivial

/-- Nothing is torn where there is one directory. -/
theorem untorn_singleton (directory : Directory.Table) : Untorn [directory] := by
  refine ⟨⟨directory, List.mem_singleton_self directory⟩, ?_, ?_, ?_⟩
  · intro first hfirst second hsecond
    rw [List.mem_singleton.1 hfirst, List.mem_singleton.1 hsecond]
  · intro first hfirst second hsecond id
    obtain rfl := List.mem_singleton.1 hfirst
    obtain rfl := List.mem_singleton.1 hsecond
    exact ⟨_, List.mem_singleton_self _, rfl, rfl⟩
  · intro first hfirst second hsecond id otherId _
    obtain rfl := List.mem_singleton.1 hfirst
    obtain rfl := List.mem_singleton.1 hsecond
    exact ⟨_, List.mem_singleton_self _, ⟨rfl, rfl⟩, rfl, rfl⟩

/-- Nothing is torn between two directories that differ in what they say of one member of staff, and
there either in the row or in the stores. -/
theorem untorn_pair (id : PrincipalId) (hcustomers : other.customers = directory.customers)
    (hagrees : ∀ otherId, otherId ≠ id → other.Agrees directory otherId)
    (hhalf : (∀ id, other.staff? id = directory.staff? id) ∨
      ∀ id, other.storeList id = directory.storeList id) :
    Untorn [directory, other] := by
  -- what holds of the other directory and the first holds of any two of the pair
  have hpair {motive : Directory.Table → Directory.Table → Prop}
      (hsame : ∀ directory, motive directory directory) (hleft : motive directory other)
      (hright : motive other directory) :
      ∀ first ∈ [directory, other], ∀ second ∈ [directory, other], motive first second := by
    intro first hfirst second hsecond
    simp only [List.mem_cons, List.not_mem_nil, or_false] at hfirst hsecond
    rcases hfirst with rfl | rfl <;> rcases hsecond with rfl | rfl
    · exact hsame _
    · exact hleft
    · exact hright
    · exact hsame _
  have hagrees (otherId : PrincipalId) (hne : otherId ≠ id) :
      ∀ first ∈ [directory, other], ∀ second ∈ [directory, other],
        first.Agrees second otherId :=
    hpair (fun _ => ⟨rfl, rfl⟩) ⟨(hagrees otherId hne).1.symm, (hagrees otherId hne).2.symm⟩
      (hagrees otherId hne)
  refine ⟨⟨directory, List.mem_cons_self⟩, hpair (fun _ => rfl) hcustomers.symm hcustomers, ?_, ?_⟩
  · intro first hfirst second hsecond otherId
    rcases hhalf with hrows | hlists
    · have hrow : ∀ first ∈ [directory, other], ∀ second ∈ [directory, other],
          first.staff? otherId = second.staff? otherId :=
        hpair (fun _ => rfl) (hrows otherId).symm (hrows otherId)
      exact ⟨second, hsecond, hrow second hsecond first hfirst, rfl⟩
    · have hlist : ∀ first ∈ [directory, other], ∀ second ∈ [directory, other],
          first.storeList otherId = second.storeList otherId :=
        hpair (fun _ => rfl) (hlists otherId).symm (hlists otherId)
      exact ⟨first, hfirst, rfl, hlist first hfirst second hsecond⟩
  · intro first hfirst second hsecond firstId secondId hne
    by_cases hown : firstId = id
    · refine ⟨first, hfirst, ⟨rfl, rfl⟩, hagrees secondId ?_ first hfirst second hsecond⟩
      exact fun heq => hne (hown.trans heq.symm)
    · exact ⟨second, hsecond, hagrees firstId hown second hsecond first hfirst, rfl, rfl⟩

/-- Directories that agree on a member of staff give the same context. -/
theorem Directory.Table.Agrees.context?_eq {id : PrincipalId} (h : directory.Agrees other id) :
    directory.context? .staff id = other.context? .staff id := by
  simp only [Directory.Table.context?, h.1]
  refine Option.map_congr ?_
  intro member hmember
  have hid := Directory.Table.staff?_id (Option.filter_eq_some_iff.1 hmember).1
  rw [hid, h.2]

/-- Directories that agree on the target judge alike. -/
theorem Directory.Table.Agrees.judge_eq (h : directory.Agrees other target) :
    directory.judge caller target = other.judge caller target := by
  simp only [Directory.Table.judge, h.1, h.2]

/-- All directories judge alike about the caller's own access. -/
theorem Directory.Table.judge_of_isFor (h : caller.isFor .staff target = true) :
    directory.judge caller target = other.judge caller target := by
  simp only [Directory.Table.judge, h, if_true]

/-- Directories that judge alike vet alike. -/
theorem StaffChange.vet_congr (h : directory.judge caller target = other.judge caller target)
    (change : StaffChange) :
    change.vet directory caller target = change.vet other caller target := by
  cases change <;> simp only [vet, Directory.Table.judgeBatch, h]

/-- A context is loaded from one of the directories that its replies were read from. -/
theorem Loaded.exists_context? (huntorn : Untorn among) {kind : PrincipalKind} {id : PrincipalId}
    {context : Context} (h : Loaded (Seen among) kind id context) :
    ∃ directory ∈ among, directory.context? kind id = some context := by
  cases kind with
  | staff =>
    obtain ⟨member, stores, ⟨first, hfirst, hfound⟩, hactive, ⟨second, hsecond, hstores⟩, rfl⟩ := h
    have hid := Directory.Table.staff?_id (Except.ok.inj hfound).symm
    obtain ⟨both, hboth, hrow, hlist⟩ := huntorn.own first hfirst second hsecond id
    refine ⟨both, hboth, ?_⟩
    have hstores := Except.ok.inj hstores
    rw [StaffChange.context?_eq (hrow.trans (Except.ok.inj hfound).symm) hactive, hid, hlist,
      ← hid, hstores]
  | customer =>
    obtain ⟨customer, ⟨first, hfirst, hfound⟩, rfl⟩ := h
    refine ⟨first, hfirst, ?_⟩
    rw [Directory.Table.context?, ← Except.ok.inj hfound]
    rfl

/-- The context that one of the directories gives can be loaded. -/
theorem Loaded.of_context? (hmem : directory ∈ among) {kind : PrincipalKind} {id : PrincipalId}
    {context : Context} (h : directory.context? kind id = some context) :
    Loaded (Seen among) kind id context := by
  have hloaded := loaded_iff.2 h
  cases kind with
  | staff =>
    obtain ⟨member, stores, hfound, hactive, hstores, rfl⟩ := hloaded
    exact ⟨member, stores, ⟨directory, hmem, hfound⟩, hactive, ⟨directory, hmem, hstores⟩, rfl⟩
  | customer =>
    obtain ⟨customer, hfound, rfl⟩ := hloaded
    exact ⟨customer, ⟨directory, hmem, hfound⟩, rfl⟩

/-- The service may look around, drop contexts and cache what it loaded. -/
theorem keeps_licence (service : Service) (huntorn : Untorn among) :
    service.Licence (Keeps among) (Seen among) := by
  refine ⟨?_, ?_, ?_, ?_⟩
  · rintro ((_ | _ | call) | _) hlooks
    · cases hlooks
    all_goals trivial
  -- reading and dropping set no key
  · rintro _ _ _ _ _ ⟨⟩
  · rintro _ _ _ _ _ ⟨⟩
  · rintro kind id context hloaded otherKind otherId value ⟨hkey, rfl⟩
    obtain ⟨directory, hmem, hcontext⟩ := hloaded.exists_context? huntorn
    obtain ⟨hkind, hid⟩ := ContextCache.keyFor_inj.1 hkey
    obtain ⟨rfl, rfl⟩ := Context.isFor_iff.1 (Directory.Table.isFor_of_context? hcontext)
    exact ⟨directory, hmem, context, hkind ▸ hid ▸ hcontext, rfl⟩

/-- Every operation caches only contexts that the directories give from which it reads. -/
theorem Operation.keeps (service : Service) (huntorn : Untorn among) (operation : Operation) :
    Action.Within (Keeps among) (Seen among) (fun _ => True) (operation.action service) := by
  refine Operation.within (keeps_licence service huntorn) operation ?_
  rintro (call | call | call) hcall
  -- operations write to sessions and directory only
  · cases operation <;> simp [Operation.MayWrite] at hcall
  · trivial
  · trivial

/-- A context that is found in the cache is one that one of the directories gives. -/
theorem Cached.exists_context? {kind : PrincipalKind} {id : PrincipalId} {context : Context}
    (h : Cached (Seen among) kind id context) :
    ∃ directory ∈ among, directory.context? kind id = some context := by
  obtain ⟨value, hvalue, hdecode⟩ := h
  obtain ⟨directory, hmem, found, hfound, rfl⟩ := hvalue value rfl kind id rfl
  rw [ContextCache.decode?_write, if_pos (Directory.Table.isFor_of_context? hfound)] at hdecode
  exact ⟨directory, hmem, hfound.trans hdecode⟩

/-! ## Deciding -/

variable {service : Service} {allowed : RequestCall → Prop}

/-- A question to the directory is answered by one of the directories, and what follows goes on with
that answer. -/
theorem ends_ask {α : Type} {call : Directory.Call} {next : call.Value → Action α}
    {post : Except AuthError α → Prop} (value : Directory.Table → call.Value)
    (hcall : allowed (.store (.directory call)))
    (hvalue : ∀ directory : Directory.Table, (directory.answer call).1 = .ok (value directory))
    (hnext : ∀ directory ∈ among, Action.Ends allowed (Seen among) post (next (value directory))) :
    Action.Ends allowed (Seen among) post (Action.directory call >>= next) := by
  have hask : Action.Ends allowed (Seen among) (fun outcome => ∃ directory ∈ among,
      outcome = .ok (value directory)) (Action.directory call) := by
    refine Action.ends_directory hcall ?_
    rintro _ ⟨directory, hmem, rfl⟩
    exact ⟨directory, hmem, by rw [hvalue]; rfl⟩
  refine hask.bind (by rintro error ⟨directory, -, ⟨⟩⟩) ?_
  rintro _ ⟨directory, hmem, heq⟩
  rw [Except.ok.inj heq]
  exact hnext directory hmem

/-- Loading gives the context that one of the directories gives, or fails as that says. -/
theorem ContextCache.load_ends (licence : service.Licence allowed (Seen among))
    (huntorn : Untorn among) (kind : PrincipalKind) (id : PrincipalId) :
    Action.Ends allowed (Seen among) (fun outcome => ∃ directory ∈ among,
      outcome = (directory.context? kind id).elim (.error .principalNotFound) .ok)
      (load kind id) := by
  cases kind with
  | staff =>
    refine ends_ask (fun directory => directory.staff? id) (licence.read _ rfl) (fun _ => rfl) ?_
    intro directory hmem
    rcases hfound : (directory.staff? id).filter (fun member => member.isActive) with _ | member
    · rw [hfound]
      refine Action.ends_throw ⟨directory, hmem, ?_⟩
      rw [Directory.Table.context?, hfound]
      rfl
    · rw [hfound]
      refine ends_ask (fun other => other.storeList member.id member.role) (licence.read _ rfl)
        (fun _ => rfl) ?_
      intro other hother
      obtain ⟨hrow, hactive⟩ := Option.filter_eq_some_iff.1 hfound
      have hloaded : Loaded (Seen among) .staff id ⟨member.id, .staff, member.username,
          some member.role, other.storeList member.id member.role⟩ :=
        ⟨member, _, ⟨directory, hmem, congrArg Except.ok hrow.symm⟩, hactive,
          ⟨other, hother, rfl⟩, rfl⟩
      obtain ⟨both, hboth, hcontext⟩ := hloaded.exists_context? huntorn
      refine Action.ends_pure ⟨both, hboth, ?_⟩
      rw [hcontext]
      rfl
  | customer =>
    refine ends_ask (fun directory => directory.customer? id) (licence.read _ rfl) (fun _ => rfl) ?_
    intro directory hmem
    rcases hfound : directory.customer? id with _ | customer
    · refine Action.ends_throw ⟨directory, hmem, ?_⟩
      rw [Directory.Table.context?, hfound]
      rfl
    · refine Action.ends_pure ⟨directory, hmem, ?_⟩
      rw [Directory.Table.context?, hfound]
      rfl

/-- Resolving gives the context that one of the directories gives, or fails as that says. -/
theorem ContextCache.resolve_ends (licence : service.Licence allowed (Seen among))
    (huntorn : Untorn among) (kind : PrincipalKind) (id : PrincipalId) :
    Action.Ends allowed (Seen among) (fun outcome => ∃ directory ∈ among,
      outcome = (directory.context? kind id).elim (.error .principalNotFound) .ok)
      (resolve service.contextTtl kind id) := by
  have hget : Action.Ends allowed (Seen among) (fun outcome => ∃ found, outcome = .ok found ∧
      ∀ context, found = some context → Cached (Seen among) kind id context)
      (Action.always (get kind id)) :=
    Action.ends_always ((get_within (licence.consult kind id) (licence.drop kind id)).mono
      (fun found hfound => ⟨found, rfl, hfound⟩))
  refine hget.bind (by rintro error ⟨found, ⟨⟩, -⟩) ?_
  rintro (_ | context) ⟨_, ⟨⟩, hfound⟩
  · refine (load_ends licence huntorn kind id).bind (fun _ h => h) ?_
    rintro context ⟨directory, hmem, houtcome⟩
    -- a context that was loaded is cached before it is given
    have hprime : Action.Ends allowed (Seen among) (fun outcome => ∃ value, outcome = .ok value)
        (Action.always (prime service.contextTtl context)) :=
      Action.ends_always ((prime_within (licence.keep _ _ _
        (.of_context? hmem (ok_eq_elim.1 houtcome)))).mono (fun value _ => ⟨value, rfl⟩))
    refine hprime.bind (by rintro error ⟨value, ⟨⟩⟩) ?_
    exact fun _ _ => Action.ends_pure ⟨directory, hmem, houtcome⟩
  · obtain ⟨directory, hmem, hcontext⟩ := (hfound context rfl).exists_context?
    refine Action.ends_pure ⟨directory, hmem, ?_⟩
    rw [hcontext]
    rfl

/-- The checks against a target come to what one of the directories says. -/
theorem Service.managedTarget_ends (licence : service.Licence allowed (Seen among))
    (huntorn : Untorn among) (caller : Context) (target : PrincipalId) :
    Action.Ends allowed (Seen among) (fun outcome => ∃ directory ∈ among,
      outcome.map Prod.fst = directory.judge caller target) (managedTarget caller target) := by
  obtain ⟨some, hsome⟩ := huntorn.nonempty
  rw [managedTarget, roleOf]
  rcases hrole : caller.staffRole with _ | role
  · refine Action.ends_throw ⟨some, hsome, ?_⟩
    rw [Directory.Table.judge, hrole]
    rfl
  rw [Action.require, pure_bind]
  refine Action.ends_check ?_ ?_
  · intro hself
    refine ⟨some, hsome, ?_⟩
    simp only [Directory.Table.judge, hrole, hself, if_true]
    rfl
  intro hother
  have hother : caller.isFor .staff target = false := by simpa using hother
  rw [requireStaff, bind_assoc]
  refine ends_ask (fun directory => directory.staff? target) (licence.read _ rfl) (fun _ => rfl) ?_
  intro directory hmem
  rcases hfound : directory.staff? target with _ | member
  · refine Action.ends_throw ⟨directory, hmem, ?_⟩
    simp only [Directory.Table.judge, hrole, hother, hfound]
    rfl
  rw [Action.require, pure_bind]
  refine Action.ends_check ?_ ?_
  · intro hmanage
    refine ⟨directory, hmem, ?_⟩
    simp only [Directory.Table.judge, hrole, hother, hfound, hmanage, if_true]
    rfl
  intro hmanage
  have hmanage : role.canManage member.role = true := by simpa using hmanage
  dsimp only
  split
  · rename_i hbound
    refine ends_ask (fun other => other.storeList member.id member.role) (licence.read _ rfl)
      (fun _ => rfl) ?_
    intro other hother'
    -- the row and the stores are said by one directory
    obtain ⟨both, hboth, hrow, hlist⟩ := huntorn.own directory hmem other hother' target
    have hid := Directory.Table.staff?_id hfound
    refine Action.ends_check ?_ ?_
    · intro hreach
      refine ⟨both, hboth, ?_⟩
      rw [hid, ← hlist] at hreach
      simp [Directory.Table.judge, hrole, hother, hrow.trans hfound, hmanage, hbound, hreach,
        Except.map]
    · intro hreach
      refine Action.ends_pure ⟨both, hboth, ?_⟩
      rw [hid, ← hlist] at hreach
      simp [Directory.Table.judge, hrole, hother, hrow.trans hfound, hmanage, hbound, hreach,
        Except.map]
  · rename_i hrank
    refine Action.ends_pure ⟨directory, hmem, ?_⟩
    simp [Directory.Table.judge, hrole, hother, hfound, hmanage, hrank, Except.map]

/-- The checks against a target and a batch come to what one of the directories says. -/
theorem Service.checkBatch_ends (licence : service.Licence allowed (Seen among))
    (huntorn : Untorn among) (caller : Context) (target : PrincipalId) (stores : List StoreId) :
    Action.Ends allowed (Seen among) (fun outcome => ∃ directory ∈ among,
      outcome = directory.judgeBatch caller target stores) (checkBatch caller target stores) := by
  obtain ⟨some, hsome⟩ := huntorn.nonempty
  rw [checkBatch]
  refine Action.ends_check ?_ ?_
  · intro hempty
    refine ⟨some, hsome, ?_⟩
    rw [Directory.Table.judgeBatch, if_pos hempty]
  intro hempty
  refine (managedTarget_ends licence huntorn caller target).bind ?_ ?_
  · rintro error ⟨directory, hmem, hjudge⟩
    refine ⟨directory, hmem, ?_⟩
    rw [Directory.Table.judgeBatch, if_neg hempty, ← hjudge]
    rfl
  · rintro ⟨role, member⟩ ⟨directory, hmem, hjudge⟩
    have hjudge : directory.judge caller target = .ok role := hjudge.symm
    dsimp only
    split
    · rename_i hreach
      refine Action.ends_throw ⟨directory, hmem, ?_⟩
      simp only [Directory.Table.judgeBatch, if_neg hempty, hjudge, if_pos hreach]
    · rename_i hreach
      refine Action.ends_pure ⟨directory, hmem, ?_⟩
      simp only [Directory.Table.judgeBatch, if_neg hempty, hjudge, if_neg hreach]

/-- The checks for a change come to what one of the directories says. -/
theorem StaffChange.vetting_ends (licence : service.Licence allowed (Seen among))
    (huntorn : Untorn among) (caller : Context) (target : PrincipalId) (change : StaffChange) :
    Action.Ends allowed (Seen among) (fun outcome => ∃ directory ∈ among,
      outcome = change.vet directory caller target) (change.vetting caller target) := by
  cases change with
  | role newRole =>
    refine (Service.managedTarget_ends licence huntorn caller target).bind ?_ ?_
    · rintro error ⟨directory, hmem, hjudge⟩
      refine ⟨directory, hmem, ?_⟩
      rw [vet, ← hjudge]
      rfl
    · rintro ⟨managing, member⟩ ⟨directory, hmem, hjudge⟩
      have hjudge : directory.judge caller target = .ok managing := hjudge.symm
      dsimp only
      split
      · rename_i hassign
        refine Action.ends_throw ⟨directory, hmem, ?_⟩
        simp only [vet, hjudge, if_pos hassign]
      · rename_i hassign
        refine Action.ends_pure ⟨directory, hmem, ?_⟩
        simp only [vet, hjudge, if_neg hassign]
  | active isActive =>
    refine (Service.managedTarget_ends licence huntorn caller target).map ?_
    rintro outcome ⟨directory, hmem, hjudge⟩
    refine ⟨directory, hmem, ?_⟩
    rw [vet, ← hjudge]
    cases outcome <;> rfl
  | grant stores => exact Service.checkBatch_ends licence huntorn caller target stores
  | revoke stores => exact Service.checkBatch_ends licence huntorn caller target stores

/-- A request decides by one of the directories that its replies are read from, also if every reply
comes from another one. -/
theorem StaffRequest.deciding_ends (licence : service.Licence allowed (Seen among))
    (huntorn : Untorn among) (request : StaffRequest) :
    Action.Ends allowed (Seen among) (fun outcome => ∃ directory ∈ among,
      outcome = request.verdict directory) (request.deciding service) := by
  refine (ContextCache.resolve_ends licence huntorn _ _).bind ?_ ?_
  · rintro error ⟨directory, hmem, houtcome⟩
    refine ⟨directory, hmem, ?_⟩
    rw [verdict]
    obtain ⟨hcontext, rfl⟩ := error_eq_elim.1 houtcome
    rw [hcontext]
  · rintro caller ⟨directory, hmem, houtcome⟩
    have hcontext := ok_eq_elim.1 houtcome
    refine (StaffChange.vetting_ends licence huntorn caller request.target request.change).mono ?_
    rintro _ ⟨other, hother, rfl⟩
    have hverdict {both : Directory.Table}
        (hcaller : both.context? request.claims.kind request.claims.subject = some caller)
        (hjudge : both.judge caller request.target = other.judge caller request.target) :
        request.change.vet other caller request.target = request.verdict both := by
      simp only [verdict, hcaller, StaffChange.vet_congr hjudge]
    have hcallerFor := Directory.Table.isFor_of_context? hcontext
    by_cases hself : caller.isFor .staff request.target = true
    -- about the caller's own access nothing is read of the target
    · exact ⟨directory, hmem, hverdict hcontext (Directory.Table.judge_of_isFor hself)⟩
    cases hkind : request.claims.kind with
    | staff =>
      rw [hkind] at hcontext hcallerFor
      have hne : request.claims.subject ≠ request.target := fun heq => hself (heq ▸ hcallerFor)
      obtain ⟨both, hboth, hcaller, htarget⟩ := huntorn.apart directory hmem other hother _ _ hne
      refine ⟨both, hboth, hverdict ?_ htarget.judge_eq⟩
      rw [hkind, hcaller.context?_eq, hcontext]
    | customer =>
      refine ⟨other, hother, hverdict ?_ rfl⟩
      rw [hkind] at hcontext ⊢
      rw [← hcontext]
      refine Directory.Table.context?_customer_congr ?_
      simp only [Directory.Table.customer?, huntorn.customers directory hmem other hother]

end Readings

end Gatehouse
