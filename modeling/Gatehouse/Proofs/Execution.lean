import Gatehouse.Proofs.Coherence

/-!
# How the parts of the service run

What comes of the parts that operations are made of when they run in a world: loading and resolving
a context, and opening a session, in whatever way sessions are stored. Main statements: where the
cache is coherent, a resolved context is the one that the directory gives (`resolve_cases`), and a
session is opened exactly if it can be stored (`perform_openSession_storing`), in memory if its
refresh token is not taken (`perform_openSession`).
-/

namespace Gatehouse

/-- The world when a context has been cached until a deadline. -/
def World.caching (world : World) (context : Context) (deadline : Instant) : World :=
  let key := ContextCache.keyFor context.kind context.principalId
  { world with keyValue := world.keyValue.put ⟨key, context.write, deadline⟩ }

/-- A context that has been cached is read until the deadline. -/
theorem World.get_caching (world : World) (context : Context) (deadline now : Instant) :
    (world.caching context deadline).keyValue.get now
        (ContextCache.keyFor context.kind context.principalId) =
      if now.nanos < deadline.nanos then some context.write else none := by
  rw [caching, KeyValue.Table.get_eq_map_live?]
  dsimp only
  rw [KeyValue.Table.live?_put_self ⟨_, context.write, deadline⟩, Option.filter_some]
  by_cases hlive : now.nanos < deadline.nanos <;> simp [KeyValue.Entry.isLiveAt, hlive]

variable {trusted : PrincipalKind → PrincipalId → Prop} (around : Surroundings) (world : World)

namespace ContextCache

/-- Loading gives the context that the directory gives, and changes nothing. -/
theorem perform_load (kind : PrincipalKind) (id : PrincipalId) :
    Action.perform (World.handler around) (load kind id) world =
      (some ((world.directory.context? kind id).elim (.error .principalNotFound) .ok), world) := by
  cases kind with
  | staff =>
    have hload : Action.perform (World.handler around) (load .staff id) world =
        Action.perform (World.handler around)
          (do
            let staff ← Action.require .principalNotFound
              ((world.directory.staff? id).filter (fun member => member.isActive))
            let stores ← Action.directory (.storeList staff.id staff.role)
            return ⟨staff.id, .staff, staff.username, some staff.role, stores⟩) world := rfl
    rw [hload, Directory.Table.context?]
    cases (world.directory.staff? id).filter (fun member => member.isActive) <;> rfl
  | customer =>
    have hload : Action.perform (World.handler around) (load .customer id) world =
        Action.perform (World.handler around)
          (do
            let customer ← Action.require .principalNotFound (world.directory.customer? id)
            return ⟨customer.id, .customer, customer.name, none, .empty⟩) world := rfl
    rw [hload, Directory.Table.context?]
    rcases world.directory.customer? id with _ | customer <;> rfl

/-- Reading the cache gives what is decoded from a live entry. What cannot be decoded is dropped. -/
theorem run_get (kind : PrincipalKind) (id : PrincipalId) :
    (get kind id).run (World.handler around) world =
      match world.keyValue.get world.clock.instant (keyFor kind id) with
      | none => (some none, world)
      | some value =>
        match decode? kind id value with
        | some context => (some (some context), world)
        | none =>
          (some none, { world with keyValue := world.keyValue.erase (keyFor kind id) }) := by
  have hcall : (Request.keyValue (.get (keyFor kind id))).run (World.handler around) world =
      (some (.ok (world.keyValue.get world.clock.instant (keyFor kind id))), world) := rfl
  rw [get, Program.run_bind', hcall]
  rcases world.keyValue.get world.clock.instant (keyFor kind id) with _ | value
  · rfl
  · dsimp only
    cases decode? kind id value <;> rfl

/-- Caching a context puts it under its own principal's key, unless the clock cannot show the end of
its lifetime. -/
theorem run_prime (ttl : Duration) (context : Context) :
    (prime ttl context).run (World.handler around) world =
      match world.clock.instant.plus? ttl with
      | none => (none, world)
      | some deadline => (some (), world.caching context deadline) := by
  have hset : (set context.kind context.principalId context ttl).run (World.handler around) world =
      match world.clock.instant.plus? ttl with
      | none => (none, world)
      | some deadline => (some (.ok ()), world.caching context deadline) := by
    refine (Program.run_call (World.handler around) _ world).trans ?_
    simp only [World.handler, World.answerStore, KeyValue.Table.answer, KeyValue.Table.set]
    cases world.clock.instant.plus? ttl <;> rfl
  rw [prime, Program.run_discard, hset]
  cases world.clock.instant.plus? ttl <;> rfl

/-- What comes of loading a context and caching it. -/
def fetched (ttl : Duration) (kind : PrincipalKind) (id : PrincipalId) :
    Option (Except AuthError Context) × World :=
  match world.directory.context? kind id with
  | none => (some (.error .principalNotFound), world)
  | some context =>
    match world.clock.instant.plus? ttl with
    | none => (none, world)
    | some deadline => (some (.ok context), world.caching context deadline)

/-- A context that is not cached is loaded and cached. -/
theorem perform_resolve (ttl : Duration) (kind : PrincipalKind) (id : PrincipalId) :
    Action.perform (World.handler around) (resolve ttl kind id) world =
      match (get kind id).run (World.handler around) world with
      | (some (some context), after) => (some (.ok context), after)
      | (some none, after) => fetched after ttl kind id
      | (none, after) => (none, after) := by
  rw [resolve, Action.perform_bind, Action.perform_always]
  rcases (get kind id).run (World.handler around) world with ⟨_ | _ | context, after⟩
  · rfl
  · simp only [Option.map_some, Action.perform_bind, perform_load, fetched]
    cases after.directory.context? kind id with
    | none => rfl
    | some context =>
      simp only [Option.elim_some, Action.perform_always, run_prime]
      cases after.clock.instant.plus? ttl <;> rfl
  · rfl

/-- Fetching fails for a principal whom the directory does not know, breaks off where the clock
cannot show the end of a lifetime, and caches the context otherwise. -/
theorem fetched_cases (ttl : Duration) (kind : PrincipalKind) (id : PrincipalId) :
    (world.directory.context? kind id = none ∧
        fetched world ttl kind id = (some (.error .principalNotFound), world)) ∨
      ∃ context, world.directory.context? kind id = some context ∧
        ((¬ world.clock.CanShow ttl ∧ fetched world ttl kind id = (none, world)) ∨
          ∃ deadline, fetched world ttl kind id =
            (some (.ok context), world.caching context deadline)) := by
  rw [fetched]
  rcases hcontext : world.directory.context? kind id with _ | context
  · exact .inl ⟨rfl, rfl⟩
  · refine .inr ⟨context, rfl, ?_⟩
    rcases hdeadline : world.clock.instant.plus? ttl with _ | deadline
    · exact .inl ⟨by simp [Clock.CanShow, hdeadline], rfl⟩
    · exact .inr ⟨deadline, rfl⟩

/-- Resolving gives the context that the live entry of the principal holds, and changes nothing. If
it holds none, what the directory gives is resolved, and nothing changes but the cache. -/
theorem perform_resolve_cases (ttl : Duration) (kind : PrincipalKind) (id : PrincipalId) :
    (∃ value context, world.keyValue.get world.clock.instant (keyFor kind id) = some value ∧
        decode? kind id value = some context ∧
        Action.perform (World.handler around) (resolve ttl kind id) world =
          (some (.ok context), world)) ∨
      ((∀ value, world.keyValue.get world.clock.instant (keyFor kind id) = some value →
          decode? kind id value = none) ∧
        ∃ keyValue,
          (world.directory.context? kind id = none ∧
            Action.perform (World.handler around) (resolve ttl kind id) world =
              (some (.error .principalNotFound), { world with keyValue })) ∨
          ∃ context, world.directory.context? kind id = some context ∧
            ((¬ world.clock.CanShow ttl ∧
                Action.perform (World.handler around) (resolve ttl kind id) world =
                  (none, { world with keyValue })) ∨
              Action.perform (World.handler around) (resolve ttl kind id) world =
                (some (.ok context), { world with keyValue }))) := by
  -- what is fetched is the same whether or not an entry was dropped before
  have hfetched (keyValue : KeyValue.Table) : ∃ keyValue',
      (world.directory.context? kind id = none ∧ fetched { world with keyValue } ttl kind id =
        (some (.error .principalNotFound), { world with keyValue := keyValue' })) ∨
      ∃ context, world.directory.context? kind id = some context ∧
        ((¬ world.clock.CanShow ttl ∧ fetched { world with keyValue } ttl kind id =
            (none, { world with keyValue := keyValue' })) ∨
          fetched { world with keyValue } ttl kind id =
            (some (.ok context), { world with keyValue := keyValue' })) := by
    rcases fetched_cases { world with keyValue } ttl kind id with
      h | ⟨context, hcontext, h | ⟨deadline, h⟩⟩
    · exact ⟨keyValue, .inl h⟩
    · exact ⟨keyValue, .inr ⟨context, hcontext, .inl h⟩⟩
    · exact ⟨_, .inr ⟨context, hcontext, .inr h⟩⟩
  rw [perform_resolve, run_get]
  rcases hvalue : world.keyValue.get world.clock.instant (keyFor kind id) with _ | value
  · exact .inr ⟨by rintro _ ⟨⟩, hfetched world.keyValue⟩
  · dsimp only
    rcases hdecode : decode? kind id value with _ | context
    · refine .inr ⟨?_, hfetched _⟩
      rintro _ ⟨⟩
      exact hdecode
    · exact .inl ⟨value, context, rfl, hdecode, rfl⟩

/-- Resolving a context changes nothing but the cache. -/
theorem exists_perform_resolve (ttl : Duration) (kind : PrincipalKind) (id : PrincipalId) :
    ∃ outcome keyValue, Action.perform (World.handler around) (resolve ttl kind id) world =
      (outcome, { world with keyValue }) := by
  rcases perform_resolve_cases around world ttl kind id with
    ⟨-, context, -, -, h⟩ | ⟨-, keyValue, ⟨-, h⟩ | ⟨context, -, ⟨-, h⟩ | h⟩⟩ <;> exact ⟨_, _, h⟩

variable {world}

/-- Reading a coherent cache gives the context that the directory gives, or nothing, and changes
nothing. -/
theorem run_get_of_coherent (h : world.Coherent trusted) (kind : PrincipalKind)
    (id : PrincipalId) (htrusted : trusted kind id) :
    ∃ found, (get kind id).run (World.handler around) world = (some found, world) ∧
      ∀ context, found = some context → world.directory.context? kind id = some context := by
  rw [run_get]
  rcases hvalue : world.keyValue.get world.clock.instant (keyFor kind id) with _ | value
  · exact ⟨none, rfl, by rintro _ ⟨⟩⟩
  -- a live entry is a context of the directory as it was written, and reads back as it
  · obtain ⟨entry, hmem, hkey, rfl, hlive⟩ := KeyValue.Table.exists_mem_of_get hvalue
    obtain ⟨context, hcontext, hwritten⟩ := h kind id htrusted entry hmem hkey hlive
    have hdecode : decode? kind id entry.value = some context := by
      rw [hwritten, decode?_write, if_pos (Directory.Table.isFor_of_context? hcontext)]
    refine ⟨some context, ?_, ?_⟩
    · simp only [hdecode]
    · rintro _ ⟨⟩
      exact hcontext

/-- Where the cache is coherent, resolving gives the context that the directory gives, and changes
nothing but the cache; it can only break off where the clock cannot show the end of a lifetime. -/
theorem resolve_cases (h : world.Coherent trusted) (kind : PrincipalKind) (id : PrincipalId)
    (htrusted : trusted kind id) (ttl : Duration) :
    (world.directory.context? kind id = none ∧
        Action.perform (World.handler around) (resolve ttl kind id) world =
          (some (.error .principalNotFound), world)) ∨
      ∃ context, world.directory.context? kind id = some context ∧
        ((¬ world.clock.CanShow ttl ∧
            Action.perform (World.handler around) (resolve ttl kind id) world = (none, world)) ∨
          ∃ keyValue, Action.perform (World.handler around) (resolve ttl kind id) world =
            (some (.ok context), { world with keyValue })) := by
  -- either the cache gives the directory's context, or the context is fetched
  obtain ⟨found, hget, hfound⟩ := run_get_of_coherent around h kind id htrusted
  rw [perform_resolve, hget]
  rcases found with _ | context
  · rcases fetched_cases world ttl kind id with h | ⟨context, hcontext, h | ⟨deadline, h⟩⟩
    · exact .inl h
    · exact .inr ⟨context, hcontext, .inl h⟩
    · exact .inr ⟨context, hcontext, .inr ⟨_, h⟩⟩
  · exact .inr ⟨context, hfound context rfl, .inr ⟨_, rfl⟩⟩

/-- A principal whom the directory knows is resolved, whatever the cache holds, if the clock can
show the end of a lifetime. -/
theorem resolve_of_context? {kind : PrincipalKind} {id : PrincipalId} {context : Context}
    (hcontext : world.directory.context? kind id = some context) {ttl : Duration}
    (hshow : world.clock.CanShow ttl) :
    ∃ resolved keyValue, Action.perform (World.handler around) (resolve ttl kind id) world =
      (some (.ok resolved), { world with keyValue }) := by
  rcases perform_resolve_cases around world ttl kind id with
    ⟨-, found, -, -, h⟩ | ⟨-, keyValue, ⟨hnone, -⟩ | ⟨found, -, ⟨hnot, -⟩ | h⟩⟩
  · exact ⟨found, _, h⟩
  · rw [hnone] at hcontext
    cases hcontext
  · exact absurd hshow hnot
  · exact ⟨found, _, h⟩

end ContextCache

/-! ## Ways to store sessions -/

/-- A way to store sessions: what comes of it, and the sessions that there are then. -/
abbrev World.Storing := World → Session.New → Except StorageError Session.SessionId × Session.Table

/-- Storing sessions in the table of the world. -/
def World.Storing.inMemory : Storing := fun world new => world.sessions.create world.clock.now new

/-- Answers every call as usual, but stores sessions in some way of its own. -/
def World.storing (create : Storing) (around : Surroundings) : Handler requests World :=
  fun call world =>
    match call with
    | .store (.session (.create new)) =>
      (some (create world new).1, { world with sessions := (create world new).2 })
    | call => handler around call world

/-- The calls that store no session. -/
def RequestCall.StoresNone (call : RequestCall) : Prop :=
  ∀ new, call ≠ .store (.session (.create new))

section Storing

variable {around} {create : World.Storing}

/-- Only storing sessions is done in another way. -/
theorem World.storing_of_storesNone {call : RequestCall} (h : call.StoresNone) (world : World) :
    World.storing create around call world = World.handler around call world := by
  rcases call with (call | call | call) | call
  · rfl
  · cases call with
    | create new => exact absurd rfl (h new)
    | _ => rfl
  · rfl
  · rfl

/-- Storing sessions in memory is the usual way. -/
theorem World.storing_inMemory : World.storing .inMemory around = World.handler around := by
  funext call world
  rcases call with (call | call | call) | call
  · rfl
  · cases call <;> rfl
  · rfl
  · rfl

/-- A context is loaded as usual. -/
theorem ContextCache.perform_load_storing (kind : PrincipalKind) (id : PrincipalId) :
    Action.perform (World.storing create around) (load kind id) world =
      (some ((world.directory.context? kind id).elim (.error .principalNotFound) .ok), world) := by
  rw [← perform_load around]
  refine Program.Within.run_congr (load_within ?_ kind id) fun _ world hcall =>
    World.storing_of_storesNone hcall world
  rintro call - new ⟨⟩

/-- A context is cached as usual. -/
theorem ContextCache.run_prime_storing (ttl : Duration) (context : Context) :
    (prime ttl context).run (World.storing create around) world =
      match world.clock.instant.plus? ttl with
      | none => (none, world)
      | some deadline => (some (), world.caching context deadline) := by
  rw [← run_prime around]
  refine Program.Within.run_congr (prime_within ?_) fun _ world hcall =>
    World.storing_of_storesNone hcall world
  rintro new ⟨⟩

end Storing

namespace Service

variable (service : Service)

/-- The access token that is issued for a context in a world. -/
def issued (context : Context) : Token.Issued :=
  service.issuer.issue context (Int64.ofInt world.clock.now.seconds) around.entropy

/-- The session that is opened next in a world, with the refresh token that is drawn for it. -/
def newSession (context : Context) (client : ClientInfo) : Session.New :=
  { principalId := context.principalId
    kind := context.kind
    token := Token.refreshText (around.random world.draws)
    userAgent := client.userAgent
    ipAddress := client.ipAddress
    ttl := service.refreshTtl }

/-- The world when a session has been stored, or refused because its token is taken. -/
def opening (new : Session.New) : World :=
  { world with
    sessions := (world.sessions.create world.clock.now new).2
    draws := world.draws + 1 }

/-- What signing in gives when a session has been opened. -/
def signedIn (context : Context) (client : ClientInfo) : SignedIn :=
  { accessToken := (service.issued around world context).token
    refreshToken := (service.newSession around world context client).token
    expiresIn := (service.issued around world context).expiresIn
    context }

/-- What refreshing gives when a context has been resolved. -/
def refreshed (context : Context) : Refreshed :=
  ⟨(service.issued around world context).token, (service.issued around world context).expiresIn⟩

/-- The world when a session has been stored in some way, or not. -/
def openingBy (create : World.Storing) (new : Session.New) : World :=
  { world with
    sessions := (create { world with draws := world.draws + 1 } new).2
    draws := world.draws + 1 }

/-- Opening a session draws a refresh token and fails if the session cannot be stored. Otherwise the
context is cached, unless the clock cannot show the end of its lifetime. -/
theorem perform_openSession_storing (create : World.Storing) (context : Context)
    (client : ClientInfo) {new : Session.New}
    (hnew : service.newSession around world context client = new) :
    Action.perform (World.storing create around) (service.openSession context client) world =
      match (create { world with draws := world.draws + 1 } new).1 with
      | .error error => (some (.error (.storage error)), openingBy world create new)
      | .ok _ =>
        match world.clock.instant.plus? service.contextTtl with
        | none => (none, openingBy world create new)
        | some deadline => (some (.ok (service.signedIn around world context client)),
            (openingBy world create new).caching context deadline) := by
  -- issuing the access token changes nothing; drawing the refresh token counts one draw
  have hdraw : Action.perform (World.storing create around) (service.openSession context client)
      world =
      Action.perform (World.storing create around)
        (do
          discard (Action.session (.create new))
          Action.always (ContextCache.prime service.contextTtl context)
          return service.signedIn around world context client)
        { world with draws := world.draws + 1 } := by
    subst hnew
    rfl
  have hcreate : Action.perform (World.storing create around)
      (discard (Action.session (.create new))) { world with draws := world.draws + 1 } =
      (some (((create { world with draws := world.draws + 1 } new).1.mapError .storage).map
        (fun _ => ())), openingBy world create new) := by
    rw [Action.perform_discard, Action.session, Action.perform_ofRequest]
    rfl
  rw [hdraw, Action.perform_bind, hcreate]
  rcases (create { world with draws := world.draws + 1 } new).1 with error | id
  · rfl
  · have hclock : (openingBy world create new).clock = world.clock := rfl
    have hcreated : ((Except.ok id : Except StorageError Session.SessionId).mapError .storage).map
        (fun _ => ()) = (.ok () : Except AuthError Unit) := rfl
    simp only [hcreated, Action.perform_bind, Action.perform_always,
      ContextCache.run_prime_storing, hclock]
    cases world.clock.instant.plus? service.contextTtl <;> rfl

/-- Opening a session draws a refresh token and fails if it is taken. Otherwise the session is
stored, and the context cached unless the clock cannot show the end of its lifetime. -/
theorem perform_openSession (context : Context) (client : ClientInfo) {new : Session.New}
    (hnew : service.newSession around world context client = new) :
    Action.perform (World.handler around) (service.openSession context client) world =
      match (world.sessions.create world.clock.now new).1 with
      | .error error => (some (.error (.storage error)), opening world new)
      | .ok _ =>
        match world.clock.instant.plus? service.contextTtl with
        | none => (none, opening world new)
        | some deadline => (some (.ok (service.signedIn around world context client)),
            (opening world new).caching context deadline) := by
  rw [← World.storing_inMemory]
  exact perform_openSession_storing around world service .inMemory context client hnew

/-- Signing in a member of staff checks name, right and password before a session is opened. -/
theorem perform_signInStaff (username password : String) (client : ClientInfo) :
    Action.perform (World.handler around) (service.signInStaff username password client) world =
      match (world.directory.staffNamed? username).filter (fun member => member.isActive) with
      | none => (some (.error .invalidCredentials), world)
      | some staff =>
        if !around.hasher.fits password staff.passwordHash then
          (some (.error .invalidCredentials), world)
        else
          match world.directory.context? .staff staff.id with
          | none => (some (.error .invalidCredentials), world)
          | some context =>
            Action.perform (World.handler around) (service.openSession context client) world := by
  -- what is left to do for a member of staff who has been found
  let enter (change : AuthError → AuthError) (staff : Directory.Staff) : Action SignedIn := do
    let context ← (ContextCache.load .staff staff.id).mapFailure change
    service.openSession context client
  have hfind : ∃ change : AuthError → AuthError,
      Action.perform (World.handler around)
        (service.signInStaff username password client) world =
      Action.perform (World.handler around)
        (do
          let staff ← Action.require .invalidCredentials
            ((world.directory.staffNamed? username).filter (fun member => member.isActive))
          let fits : Bool ← Action.outside (.checkPassword password staff.passwordHash)
          if !fits then throw .invalidCredentials
          enter change staff) world ∧
        change .principalNotFound = .invalidCredentials := ⟨_, rfl, rfl⟩
  obtain ⟨change, hfind, hchange⟩ := hfind
  rw [hfind]
  cases (world.directory.staffNamed? username).filter (fun member => member.isActive) with
  | none => rfl
  | some staff =>
    have hcheck : Action.perform (World.handler around)
        (do
          let staff ← Action.require .invalidCredentials (some staff)
          let fits : Bool ← Action.outside (.checkPassword password staff.passwordHash)
          if !fits then throw .invalidCredentials
          enter change staff) world =
        Action.perform (World.handler around)
          (if !around.hasher.fits password staff.passwordHash then
            throw .invalidCredentials >>= fun _ : Unit => enter change staff
          else enter change staff) world := rfl
    rw [hcheck, Action.perform_check]
    dsimp only
    split
    · rfl
    rw [Action.perform_bind, Action.perform_mapFailure, ContextCache.perform_load]
    cases world.directory.context? .staff staff.id with
    | none => exact congrArg (fun error => (some (Except.error error), world)) hchange
    | some context => rfl

/-- Signing in a customer brings the customer up to date before a session is opened, in whatever
way. -/
theorem perform_signInCustomer_storing (create : World.Storing) (idToken : String)
    (client : ClientInfo) :
    Action.perform (World.storing create around) (service.signInCustomer idToken client) world =
      if !service.hasProvider then
        (some (.error (.internal "customer login is not configured")), world)
      else
        match around.provider idToken with
        | .error error => (some (.error error), world)
        | .ok identity =>
          let upserted := world.directory.upsertCustomer identity
          match upserted.2.context? .customer upserted.1.id with
          | none => (some (.error .principalNotFound), { world with directory := upserted.2 })
          | some context =>
            Action.perform (World.storing create around) (service.openSession context client)
              { world with directory := upserted.2 } := by
  cases hprovider : service.hasProvider with
  | false => simp only [signInCustomer, hprovider]; rfl
  | true =>
    -- what is left to do for a customer who has been brought up to date.
    let enter (customer : Directory.Customer) : Action SignedIn := do
      let context ← ContextCache.load .customer customer.id
      service.openSession context client
    have hverify : Action.perform (World.storing create around)
        (service.signInCustomer idToken client) world =
        Action.perform (World.storing create around)
          (do
            let identity ← Action.ofRequest id (Request.outside (.verifyIdentity idToken))
            let customer : Directory.Customer ← Action.directory (.upsertCustomer identity)
            enter customer) world := by
      rw [signInCustomer, hprovider]
      rfl
    have hanswer : Action.perform (World.storing create around)
        (Action.ofRequest id (Request.outside (.verifyIdentity idToken)) :
          Action Directory.Identity) world = (some (around.provider idToken), world) := by
      refine (Action.perform_ofRequest (World.storing create around) world id _).trans ?_
      change (some ((around.provider idToken).mapError id), world) = _
      cases around.provider idToken <;> rfl
    rw [hverify, Action.perform_bind, hanswer]
    cases around.provider idToken with
    | error error => rfl
    | ok identity =>
      let upserted := world.directory.upsertCustomer identity
      have henter : Action.perform (World.storing create around)
          (do
            let customer : Directory.Customer ← Action.directory (.upsertCustomer identity)
            enter customer) world =
          Action.perform (World.storing create around) (enter upserted.1)
            { world with directory := upserted.2 } := rfl
      refine henter.trans ?_
      rw [Action.perform_bind, ContextCache.perform_load_storing]
      simp only [upserted]
      cases (world.directory.upsertCustomer identity).2.context? .customer
        (world.directory.upsertCustomer identity).1.id <;> rfl

/-- Signing in a customer brings the customer up to date before a session is opened. -/
theorem perform_signInCustomer (idToken : String) (client : ClientInfo) :
    Action.perform (World.handler around) (service.signInCustomer idToken client) world =
      if !service.hasProvider then
        (some (.error (.internal "customer login is not configured")), world)
      else
        match around.provider idToken with
        | .error error => (some (.error error), world)
        | .ok identity =>
          let upserted := world.directory.upsertCustomer identity
          match upserted.2.context? .customer upserted.1.id with
          | none => (some (.error .principalNotFound), { world with directory := upserted.2 })
          | some context =>
            Action.perform (World.handler around) (service.openSession context client)
              { world with directory := upserted.2 } := by
  rw [← World.storing_inMemory]
  exact perform_signInCustomer_storing around world service .inMemory idToken client

/-- Signing out revokes the session and drops the owner's context, if there was a live session. -/
theorem perform_signOut (kind : PrincipalKind) (token : String) :
    Action.perform (World.handler around) (signOut kind token) world =
      let revoked := world.sessions.revoke world.clock.now kind token
      match revoked.1 with
      | some owner =>
        (some (.ok ()),
          { world with
            sessions := revoked.2
            keyValue := world.keyValue.erase (ContextCache.keyFor kind owner) })
      | none => (some (.ok ()), { world with sessions := revoked.2 }) := by
  have hrevoke : Action.perform (World.handler around) (Action.session (.revoke kind token)) world =
      (some (.ok (world.sessions.revoke world.clock.now kind token).1),
        { world with sessions := (world.sessions.revoke world.clock.now kind token).2 }) := by
    rw [Action.session, Action.perform_ofRequest]
    rfl
  rw [signOut, Action.perform_bind, hrevoke]
  dsimp only
  cases (world.sessions.revoke world.clock.now kind token).1 <;> rfl

/-- Refreshing finds the session, resolves the owner's context, and issues a token for it. -/
theorem perform_refresh (kind : PrincipalKind) (token : String) :
    Action.perform (World.handler around) (service.refresh kind token) world =
      match world.sessions.find world.clock.now kind token with
      | .error error =>
        (some (.error (match error with
          | .notFound _ => .refreshTokenInvalid
          | error => .storage error)), world)
      | .ok row =>
        match Action.perform (World.handler around)
          (ContextCache.resolve service.contextTtl kind row.principalId) world with
        | (some (.ok context), after) =>
          (some (.ok (service.refreshed around after context)), after)
        | (some (.error error), after) =>
          (some (.error (match error with
            | .principalNotFound => .refreshTokenInvalid
            | error => error)), after)
        | (none, after) => (none, after) := by
  -- what is left to do when the session has been found
  let enter (row : Session.Row) : Action Refreshed := do
    let context ← (ContextCache.resolve service.contextTtl kind row.principalId).mapFailure
      (fun error =>
        match error with
        | .principalNotFound => .refreshTokenInvalid
        | error => error)
    let access ← service.issue context
    return ⟨access.token, access.expiresIn⟩
  have hfind : Action.perform (World.handler around) (service.refresh kind token) world =
      match world.sessions.find world.clock.now kind token with
      | .error error =>
        (some (.error (match error with
          | .notFound _ => .refreshTokenInvalid
          | error => .storage error)), world)
      | .ok row => Action.perform (World.handler around) (enter row) world := by
    have hask : Action.perform (World.handler around) (service.refresh kind token) world =
        Action.perform (World.handler around)
          (do
            let row : Session.Row ← Action.ofRequest (fun error =>
              match error with
              | .notFound _ => .refreshTokenInvalid
              | error => .storage error) (Request.session (.find kind token))
            enter row) world := rfl
    rw [hask]
    have hanswer : Action.perform (World.handler around)
        (Action.ofRequest (fun error =>
          match error with
          | .notFound _ => .refreshTokenInvalid
          | error => .storage error) (Request.session (.find kind token)) : Action Session.Row)
        world = (some ((world.sessions.find world.clock.now kind token).mapError (fun error =>
          match error with
          | .notFound _ => .refreshTokenInvalid
          | error => .storage error)), world) :=
      (Action.perform_ofRequest (World.handler around) world _ _).trans rfl
    refine (Action.perform_bind (World.handler around) world _ _).trans ?_
    generalize (Action.ofRequest _ (Request.session (.find kind token)) : Action Session.Row) =
      asked at hanswer ⊢
    rw [hanswer]
    cases world.sessions.find world.clock.now kind token <;> rfl
  rw [hfind]
  cases world.sessions.find world.clock.now kind token with
  | error error => rfl
  | ok row =>
    simp only [enter, Action.perform_bind, Action.perform_mapFailure]
    rcases Action.perform (World.handler around)
      (ContextCache.resolve service.contextTtl kind row.principalId) world with
      ⟨_ | error | context, after⟩ <;> rfl

end Service

end Gatehouse
