import Gatehouse.Proofs.Execution
import Gatehouse.Proofs.Session

/-!
# Running without a cache

The cache of contexts only advises: what the service does is the same when every call to the shared
entries fails. Two worlds run side by side, one with its cache and one that was severed from it.
Main statements: every operation that begins with a coherent cache is transparent
(`Operation.transparent`), every ordinary scene keeps the cache coherent about everyone
(`World.Coherent.enact_ordinary`), and so whole plays run in the same way with and without a cache
(`play_severed`).
-/

namespace Gatehouse

namespace World

/-- The same world with nothing in its cache. -/
def bare (world : World) : World := { world with keyValue := {} }

/-- Answers every call as usual, but fails all calls to the shared entries. -/
def severed (fault : World → KeyValue.Call → StorageError) (around : Surroundings) :
    Handler requests World := fun call world =>
  match call with
  | .store (.keyValue call) => (some (.error (fault world call)), world)
  | call => handler around call world

end World

/-- In this world the action ends in the same way, and leaves the same but for the cache, when it
runs without a cache; and it leaves the clock alone. -/
structure Transparent (fault : World → KeyValue.Call → StorageError) (around : Surroundings)
    (world : World) {α : Type} (action : Action α) : Prop where
  /-- Running without a cache makes no difference. -/
  severed_eq : Action.perform (World.severed fault around) action world.bare =
    ((Action.perform (World.handler around) action world).1,
      (Action.perform (World.handler around) action world).2.bare)
  /-- No time passes. -/
  clock_eq : (Action.perform (World.handler around) action world).2.clock = world.clock

/-- The action is transparent whatever the cache holds, as long as the clock can show the end of a
lifetime. -/
def Blind (fault : World → KeyValue.Call → StorageError) (ttl : Duration) {α : Type}
    (action : Action α) : Prop :=
  ∀ around world, world.clock.CanShow ttl → Transparent fault around world action

variable {fault : World → KeyValue.Call → StorageError} {around : Surroundings} {world : World}
  {ttl : Duration} {service : Service} {α β : Type}

/-! ## Rules -/

/-- Two actions are transparent one after the other. -/
theorem Transparent.bind {action : Action α} {next : α → Action β}
    (h : Transparent fault around world action)
    (hnext : ∀ value after,
      Action.perform (World.handler around) action world = (some (.ok value), after) →
        Transparent fault around after (next value)) :
    Transparent fault around world (action >>= next) := by
  obtain ⟨hsame, hclock⟩ := h
  -- the second action runs only if the first succeeds, and then from the same world but for the
  -- cache
  rcases hrun : Action.perform (World.handler around) action world with
    ⟨_ | error | value, after⟩
  · rw [hrun] at hsame hclock
    exact ⟨by simp only [Action.perform_bind, hrun, hsame],
      by simpa only [Action.perform_bind, hrun] using hclock⟩
  · rw [hrun] at hsame hclock
    exact ⟨by simp only [Action.perform_bind, hrun, hsame],
      by simpa only [Action.perform_bind, hrun] using hclock⟩
  · obtain ⟨hsame', hclock'⟩ := hnext value after hrun
    rw [hrun] at hsame hclock
    refine ⟨by simp only [Action.perform_bind, hrun, hsame, hsame'], ?_⟩
    simp only [Action.perform_bind, hrun, hclock']
    exact hclock

/-- An action is transparent before one that is blind. -/
theorem Transparent.bind_blind {action : Action α} {next : α → Action β}
    (h : Transparent fault around world action) (hshow : world.clock.CanShow ttl)
    (hnext : ∀ value, Blind fault ttl (next value)) :
    Transparent fault around world (action >>= next) := by
  refine h.bind (fun value after hrun => hnext value around after ?_)
  have hclock := h.clock_eq
  rw [hrun] at hclock
  rw [show after.clock = world.clock from hclock]
  exact hshow

/-- Changing the value of an action keeps it transparent. -/
theorem Transparent.map {action : Action α} (h : Transparent fault around world action)
    (change : α → β) : Transparent fault around world (change <$> action) := by
  obtain ⟨hsame, hclock⟩ := h
  exact ⟨by simp only [Action.perform_map, hsame], by simpa only [Action.perform_map] using hclock⟩

/-- Changing the failure of an action keeps it transparent. -/
theorem Transparent.mapFailure {action : Action α} (h : Transparent fault around world action)
    (change : AuthError → AuthError) :
    Transparent fault around world (action.mapFailure change) := by
  obtain ⟨hsame, hclock⟩ := h
  exact ⟨by simp only [Action.perform_mapFailure, hsame],
    by simpa only [Action.perform_mapFailure] using hclock⟩

/-- Two actions are blind one after the other. -/
theorem Blind.bind {action : Action α} {next : α → Action β} (h : Blind fault ttl action)
    (hnext : ∀ value, Blind fault ttl (next value)) : Blind fault ttl (action >>= next) :=
  fun around world hshow => (h around world hshow).bind_blind hshow hnext

/-- Changing the value of an action keeps it blind. -/
theorem Blind.map {action : Action α} (h : Blind fault ttl action) (change : α → β) :
    Blind fault ttl (change <$> action) :=
  fun around world hshow => (h around world hshow).map change

/-- Changing the failure of an action keeps it blind. -/
theorem Blind.mapFailure {action : Action α} (h : Blind fault ttl action)
    (change : AuthError → AuthError) : Blind fault ttl (action.mapFailure change) :=
  fun around world hshow => (h around world hshow).mapFailure change

/-- A check is blind if what follows it is. -/
theorem blind_check {condition : Prop} [Decidable condition] {error : AuthError}
    {next : Unit → Action α} (h : Blind fault ttl (next ())) :
    Blind fault ttl (if condition then throw error >>= next else next ()) := by
  intro around world hshow
  split
  · exact ⟨rfl, rfl⟩
  · exact h around world hshow

/-! ## Actions that do not call the cache -/

/-- The calls that go past the shared entries and let no time pass. -/
def Bypasses : RequestCall → Prop
  | .store (.keyValue _) => False
  | .outside (.pause _) => False
  | _ => True

/-- Calls that only look go past the shared entries. -/
theorem bypasses_of_looks (call : RequestCall) (h : call.looks = true) : Bypasses call := by
  rcases call with (call | call | call) | call
  · cases h
  · trivial
  · trivial
  · cases call with
    | pause => cases h
    | _ => trivial

/-- A call past the shared entries is answered without regard to them. -/
theorem World.severed_bare (fault : World → KeyValue.Call → StorageError) (around : Surroundings)
    (world : World) {call : RequestCall} (h : Bypasses call) :
    World.severed fault around call world.bare =
        ((World.handler around call world).1, (World.handler around call world).2.bare) ∧
      (World.handler around call world).2.clock = world.clock := by
  rcases call with (call | call | call) | call
  · cases h
  · exact ⟨rfl, rfl⟩
  · exact ⟨rfl, rfl⟩
  · cases call with
    | pause => cases h
    | _ => exact ⟨rfl, rfl⟩

/-- A program that goes past the shared entries runs without regard to them. -/
theorem Program.Within.run_severed {program : Request α} {post : α → Prop}
    (h : Program.Within (I := requests) Bypasses (fun _ _ => True) post program)
    (fault : World → KeyValue.Call → StorageError) (around : Surroundings) (world : World) :
    program.run (World.severed fault around) world.bare =
        ((program.run (World.handler around) world).1,
          (program.run (World.handler around) world).2.bare) ∧
      (program.run (World.handler around) world).2.clock = world.clock := by
  -- over the calls: each is answered alike in both worlds
  induction program generalizing world with
  | done value => exact ⟨rfl, rfl⟩
  | ask call next ih =>
    obtain ⟨hanswer, hclock⟩ := World.severed_bare fault around world h.1
    simp only [Program.run, hanswer]
    rcases hreply : World.handler around call world with ⟨_ | reply, after⟩
    · rw [hreply] at hclock
      exact ⟨rfl, hclock⟩
    · rw [hreply] at hclock
      obtain ⟨hsame, hclock'⟩ := ih reply (h.2 reply trivial) after
      exact ⟨hsame, hclock'.trans hclock⟩

/-- An action that goes past the shared entries is blind. -/
theorem blind_of_within {action : Action α} {post : α → Prop}
    (h : Action.Within Bypasses (fun _ _ => True) post action) : Blind fault ttl action := by
  intro around world _
  obtain ⟨hsame, hclock⟩ := Program.Within.run_severed h fault around world
  exact ⟨hsame, hclock⟩

/-- A request with an outcome is blind if it goes past the shared entries. -/
theorem blind_ofRequest {ε : Type} {failure : ε → AuthError} {request : Request (Except ε α)}
    (h : Program.Within (I := requests) Bypasses (fun _ _ => True) (fun _ => True) request) :
    Blind fault ttl (Action.ofRequest failure request) := by
  have hwithin : Action.Within Bypasses (fun _ _ => True) (fun _ => True)
      (Action.ofRequest failure request) :=
    Action.within_ofRequest (h.mono (fun _ _ _ _ => trivial))
  exact blind_of_within hwithin

/-- A call to the directory is blind. -/
theorem blind_directory (call : Directory.Call) : Blind fault ttl (Action.directory call) :=
  blind_ofRequest ⟨trivial, fun _ _ => trivial⟩

/-- A call to the sessions is blind. -/
theorem blind_session (call : Session.Call) : Blind fault ttl (Action.session call) :=
  blind_ofRequest ⟨trivial, fun _ _ => trivial⟩

/-- A call to the outside is blind if it lets no time pass. -/
theorem blind_outside {call : OutsideCall} (h : Bypasses (.outside call)) :
    Blind fault ttl (Action.outside call) := by
  have hwithin : Action.Within Bypasses (fun _ _ => True) (fun _ => True) (Action.outside call) :=
    Action.within_outside h (fun _ _ => trivial)
  exact blind_of_within hwithin

/-- A value that is required is there or not, whatever the cache holds. -/
theorem blind_require (error : AuthError) (found : Option α) :
    Blind fault ttl (Action.require error found) :=
  blind_of_within (Action.within_require (fun _ h => h))

/-! ## What operations are made of -/

/-- Caching a context is blind: a failure is let pass. -/
theorem blind_prime (context : Context) :
    Blind fault ttl (Action.always (ContextCache.prime ttl context)) := by
  intro around world hshow
  obtain ⟨deadline, hdeadline⟩ := Option.isSome_iff_exists.1 hshow
  -- the deadline can be shown, so setting the entry does not break off
  have hprime : Action.perform (World.handler around)
      (Action.always (ContextCache.prime ttl context)) world =
        (some (.ok ()), world.caching context deadline) := by
    rw [Action.perform_always, ContextCache.run_prime, hdeadline]
    rfl
  exact ⟨by rw [hprime]; rfl, by rw [hprime]; rfl⟩

namespace Service

/-- Dropping a context is blind: a failure is let pass. -/
theorem blind_forget (kind : PrincipalKind) (id : PrincipalId) :
    Blind fault ttl (forget kind id) :=
  fun _ _ _ => ⟨rfl, rfl⟩

/-- Opening a session is blind. -/
theorem blind_openSession (context : Context) (client : ClientInfo) :
    Blind fault service.contextTtl (service.openSession context client) := by
  refine Blind.bind (blind_of_within (issue_within bypasses_of_looks context)) (fun access => ?_)
  refine Blind.bind (blind_outside trivial) (fun entropy => ?_)
  refine Blind.bind (Blind.map (blind_session _) _) (fun _ => ?_)
  exact Blind.bind (blind_prime context) (fun _ _ _ _ => ⟨rfl, rfl⟩)

/-- Signing in a member of staff is blind. -/
theorem blind_signInStaff (username password : String) (client : ClientInfo) :
    Blind fault service.contextTtl (service.signInStaff username password client) := by
  refine Blind.bind (blind_directory _) (fun found => ?_)
  refine Blind.bind (blind_require _ _) (fun staff => ?_)
  refine Blind.bind (blind_outside trivial) (fun fits => ?_)
  refine blind_check ?_
  refine Blind.bind (Blind.mapFailure (blind_of_within
    (ContextCache.load_within (fun _ _ => trivial) .staff staff.id)) _) (fun context => ?_)
  exact blind_openSession context client

/-- Signing in a customer is blind. -/
theorem blind_signInCustomer (idToken : String) (client : ClientInfo) :
    Blind fault service.contextTtl (service.signInCustomer idToken client) := by
  rw [signInCustomer]
  refine blind_check ?_
  refine Blind.bind (blind_ofRequest ⟨trivial, fun _ _ => trivial⟩) (fun identity => ?_)
  refine Blind.bind (blind_directory _) (fun customer => ?_)
  refine Blind.bind (blind_of_within
    (ContextCache.load_within (fun _ _ => trivial) .customer customer.id)) (fun context => ?_)
  exact blind_openSession context client

/-- Signing out is blind. -/
theorem blind_signOut (kind : PrincipalKind) (token : String) :
    Blind fault ttl (signOut kind token) := by
  refine Blind.bind (blind_session _) ?_
  rintro (_ | owner)
  · exact fun _ _ _ => ⟨rfl, rfl⟩
  · exact blind_forget kind owner

/-- A write to the directory and the dropping of a context are blind. -/
theorem blind_write_forget (call : Directory.Call) (target : PrincipalId) :
    Blind fault ttl (do discard (Action.directory call); forget .staff target) :=
  Blind.bind (Blind.map (blind_directory call) _) (fun _ => blind_forget .staff target)

end Service

/-! ## Operations -/

/-- A cache that is coherent about every principal. -/
def Everyone (_ : PrincipalKind) (_ : PrincipalId) : Prop := True

/-- Without a cache every context is loaded. -/
theorem ContextCache.perform_resolve_severed (hshow : world.clock.CanShow ttl)
    (kind : PrincipalKind) (id : PrincipalId) :
    Action.perform (World.severed fault around) (resolve ttl kind id) world.bare =
      (some ((world.directory.context? kind id).elim (.error .principalNotFound) .ok),
        world.bare) := by
  -- loading goes past the cache, so it gives what the directory gives
  have hload : Action.perform (World.severed fault around) (load kind id) world.bare =
      (some ((world.directory.context? kind id).elim (.error .principalNotFound) .ok),
        world.bare) := by
    have hblind : Blind fault ttl (load kind id) :=
      blind_of_within (load_within (fun _ _ => trivial) kind id)
    rw [(hblind around world hshow).severed_eq, perform_load]
  -- the failing reply to the read counts as a cache without the entry
  have hresolve : Action.perform (World.severed fault around) (resolve ttl kind id) world.bare =
      Action.perform (World.severed fault around)
        (do
          let context ← load kind id
          Action.always (prime ttl context)
          return context) world.bare := rfl
  rw [hresolve, Action.perform_bind, hload]
  cases world.directory.context? kind id <;> rfl

/-- Resolving a context is transparent where the cache is coherent. -/
theorem transparent_resolve (hcoherent : world.Coherent Everyone) (hshow : world.clock.CanShow ttl)
    (kind : PrincipalKind) (id : PrincipalId) :
    Transparent fault around world (ContextCache.resolve ttl kind id) := by
  -- with a coherent cache the result is the directory's context as well
  rcases ContextCache.resolve_cases around hcoherent kind id trivial ttl with
    ⟨hnone, hrun⟩ | ⟨context, hcontext, ⟨hnot, -⟩ | ⟨keyValue, hrun⟩⟩
  · refine ⟨?_, by rw [hrun]⟩
    rw [ContextCache.perform_resolve_severed hshow, hnone, hrun]
    rfl
  · exact absurd hshow hnot
  · refine ⟨?_, by rw [hrun]⟩
    rw [ContextCache.perform_resolve_severed hshow, hcontext, hrun]
    rfl

namespace Service

/-- Refreshing is transparent where the cache is coherent. -/
theorem transparent_refresh (hcoherent : world.Coherent Everyone)
    (hshow : world.clock.CanShow service.contextTtl) (kind : PrincipalKind) (token : String) :
    Transparent fault around world (service.refresh kind token) := by
  rw [refresh]
  refine Transparent.bind ?_ ?_
  · refine blind_ofRequest ?_ around world hshow
    exact ⟨trivial, fun _ _ => trivial⟩
  intro row after hfind
  -- Looking for the session leaves the world as it is.
  obtain rfl : after = world := by
    refine (congrArg Prod.snd hfind).symm.trans ?_
    exact congrArg Prod.snd (Action.perform_ofRequest (World.handler around) world _ _)
  refine Transparent.bind_blind
    (Transparent.mapFailure (transparent_resolve hcoherent hshow kind row.principalId) _) hshow ?_
  intro context
  refine Blind.bind (blind_of_within (issue_within bypasses_of_looks context)) ?_
  exact fun _ _ _ _ => ⟨rfl, rfl⟩

/-- Changing a password is transparent where the cache is coherent. -/
theorem transparent_changePassword (hcoherent : world.Coherent Everyone)
    (hshow : world.clock.CanShow service.contextTtl) (claims : Token.Claims)
    (target : PrincipalId) (oldPassword : Option String) (newPassword : String) :
    Transparent fault around world
      (service.changePassword claims target oldPassword newPassword) := by
  refine (transparent_resolve hcoherent hshow claims.kind claims.subject).bind_blind hshow ?_
  intro caller
  refine Blind.bind (blind_of_within (roleOf_within caller)) (fun role => ?_)
  refine Blind.bind (blind_of_within
    (requireStaff_within (fun _ _ => trivial) target)) (fun staff => ?_)
  extract_lets replace proceed
  have hproceed : Blind fault service.contextTtl (proceed ()) := by
    refine blind_check ?_
    refine Blind.bind (blind_ofRequest ⟨trivial, fun _ _ => trivial⟩) (fun hash => ?_)
    exact blind_write_forget _ target
  split
  · refine Blind.bind (blind_require _ _) (fun old => ?_)
    refine Blind.bind (blind_outside trivial) (fun fits => ?_)
    exact blind_check hproceed
  · exact blind_check hproceed

end Service

/-- Every operation is transparent where the cache is coherent about everyone. -/
theorem Operation.transparent (service : Service) (operation : Operation)
    (hcoherent : world.Coherent Everyone) (hshow : world.clock.CanShow service.contextTtl) :
    Transparent fault around world (operation.action service) := by
  -- four operations begin with the caller's context and do not read the cache again
  have hpermissions (claims : Token.Claims) {next : Context → Action Unit}
      (hnext : ∀ caller, Blind fault service.contextTtl (next caller)) :
      Transparent fault around world (service.permissions claims >>= next) :=
    (transparent_resolve hcoherent hshow claims.kind claims.subject).bind_blind hshow hnext
  cases operation with
  | signInStaff username password client =>
    exact (Service.blind_signInStaff username password client around world hshow).map _
  | signInCustomer idToken client =>
    exact (Service.blind_signInCustomer idToken client around world hshow).map _
  | refresh kind token => exact (Service.transparent_refresh hcoherent hshow kind token).map _
  | signOut kind token => exact (Service.blind_signOut kind token around world hshow).map _
  | permissions claims =>
    exact (transparent_resolve hcoherent hshow claims.kind claims.subject).map _
  | authorize claims requirement =>
    refine Transparent.map ?_ _
    refine (transparent_resolve hcoherent hshow claims.kind claims.subject).bind_blind hshow ?_
    intro context
    split <;> exact fun _ _ _ => ⟨rfl, rfl⟩
  | changePassword claims target oldPassword newPassword =>
    exact (Service.transparent_changePassword hcoherent hshow claims target oldPassword
      newPassword).map _
  | changeRole claims target role =>
    refine Transparent.map (hpermissions claims ?_) _
    intro caller
    refine Blind.bind (blind_of_within
      (Service.managedTarget_within (fun _ _ => trivial) caller target)) (fun managed => ?_)
    exact blind_check (Service.blind_write_forget _ target)
  | setActive claims target active =>
    refine Transparent.map (hpermissions claims ?_) _
    intro caller
    refine Blind.bind (Blind.map (blind_of_within
      (Service.managedTarget_within (fun _ _ => trivial) caller target)) _) (fun _ => ?_)
    exact Service.blind_write_forget _ target
  | grantStores claims target stores =>
    refine Transparent.map (hpermissions claims ?_) _
    intro caller
    refine Blind.bind (blind_of_within
      (Service.checkBatch_within (fun _ _ => trivial) caller target stores)) (fun _ => ?_)
    refine Blind.bind (blind_ofRequest ⟨trivial, fun _ _ => trivial⟩) (fun _ => ?_)
    exact Service.blind_forget .staff target
  | revokeStores claims target stores =>
    refine Transparent.map (hpermissions claims ?_) _
    intro caller
    refine Blind.bind (blind_of_within
      (Service.checkBatch_within (fun _ _ => trivial) caller target stores)) (fun _ => ?_)
    exact Service.blind_write_forget _ target

/-! ## Plays -/

/-- The cache stays coherent about everyone when a customer signs in with a new refresh token: the
customer's new context takes the place of the old one. -/
theorem World.Coherent.signInCustomer (hcoherent : world.Coherent Everyone) (around : Surroundings)
    (hshow : world.clock.CanShow service.contextTtl) (hnew : world.sessions.row? .customer
      (Token.refreshText (around.random world.draws)) = none)
    (idToken : String) (client : ClientInfo) :
    (Action.perform (World.handler around) (service.signInCustomer idToken client)
      world).2.Coherent Everyone := by
  rw [Service.perform_signInCustomer]
  split
  · exact hcoherent
  split
  · exact hcoherent
  rename_i identity hidentity
  dsimp only
  obtain ⟨context, hcontext⟩ := Option.isSome_iff_exists.1
    (Directory.Table.isSome_context?_customer.2
      (world.directory.isSome_customer?_upsertCustomer_self identity))
  obtain ⟨deadline, hdeadline⟩ := Option.isSome_iff_exists.1 hshow
  obtain ⟨hkind, hid⟩ := Context.isFor_iff.1 (Directory.Table.isFor_of_context? hcontext)
  obtain ⟨new, hsession⟩ : ∃ new, service.newSession around
      { world with directory := (world.directory.upsertCustomer identity).2 } context client =
        new := ⟨_, rfl⟩
  have hfree : world.sessions.row? new.kind new.token = none := by
    have hsessionKind : new.kind = .customer := by rw [← hsession]; exact hkind
    have hsessionToken : new.token = Token.refreshText (around.random world.draws) := by
      rw [← hsession]
      rfl
    rw [hsessionKind, hsessionToken]
    exact hnew
  -- the session is stored, so the context of the customer is cached anew
  have hcached := hcoherent.put deadline hcontext
    (fun kind id hother => Directory.Table.context?_upsertCustomer hother)
  rw [hcontext]
  dsimp only
  rw [Service.perform_openSession _ _ service context client hsession,
    (Session.Table.create_of_free hfree world.clock.now).1]
  dsimp only
  rw [hdeadline]
  dsimp only
  rw [World.caching, hkind, hid]
  exact hcached

/-- What is asked of the scenes of a play that runs in the same way without a cache: there are no
sweeps, the clock can show the end of a cached context's lifetime, and the refresh token that a
sign-in draws is new. -/
structure Scene.Ordinary (service : Service) (scene : Scene) (world : World) : Prop where
  /-- There are no sweeps, which take their lock among the shared entries. -/
  noSweep : ∀ settings purges, scene.move ≠ .sweep settings purges
  /-- The clock can show the end of a lifetime. -/
  canShow : world.clock.CanShow service.contextTtl
  /-- No session has the refresh token that is drawn next. -/
  drawsNew : ∀ kind, scene.move.signsIn? = some kind →
    world.sessions.row? kind (Token.refreshText (scene.around.random world.draws)) = none

/-- An ordinary scene keeps the cache coherent about everyone. -/
theorem World.Coherent.enact_ordinary (hcoherent : world.Coherent Everyone) {scene : Scene}
    (hordinary : scene.Ordinary service world) :
    (World.enact World.handler service scene world).2.Coherent Everyone := by
  by_cases hcustomer : ∃ idToken client, scene.move = .operation (.signInCustomer idToken client)
  · obtain ⟨idToken, client, hmove⟩ := hcustomer
    obtain ⟨around, move⟩ := scene
    cases hmove
    have hnew := hordinary.drawsNew .customer rfl
    have hsignIn := hcoherent.signInCustomer around hordinary.canShow hnew idToken client
    have henact : World.enact World.handler service
        ⟨around, .operation (.signInCustomer idToken client)⟩ world = (_, _) :=
      Action.perform_map (World.handler around) world Answer.signedIn _
    rw [henact]
    exact hsignIn
  · refine hcoherent.enact scene ?_
    intro idToken client hmove
    exact absurd ⟨idToken, client, hmove⟩ hcustomer

/-- An ordinary scene goes in the same way without a cache, and leaves the same but for the cache.
-/
theorem World.enact_severed (fault : World → KeyValue.Call → StorageError)
    (hcoherent : world.Coherent Everyone) {scene : Scene}
    (hordinary : scene.Ordinary service world) :
    World.enact (World.severed fault) service scene world.bare =
      ((World.enact World.handler service scene world).1,
        (World.enact World.handler service scene world).2.bare) := by
  rcases scene with ⟨around, operation | ⟨settings, purges⟩ | duration⟩
  · exact (operation.transparent service hcoherent hordinary.canShow).severed_eq
  · exact absurd rfl (hordinary.noSweep settings purges)
  · rfl

/-- A play of ordinary scenes that begins with a coherent cache goes in the same way without a
cache, leaves the same but for the cache, and a coherent cache. -/
theorem World.play_severed (fault : World → KeyValue.Call → StorageError) (scenes : List Scene)
    (hcoherent : world.Coherent Everyone)
    (hordinary : World.Throughout World.handler service (Scene.Ordinary service) scenes world) :
    World.play (World.severed fault) service scenes world.bare =
        ((World.play World.handler service scenes world).1,
          (World.play World.handler service scenes world).2.bare) ∧
      (World.play World.handler service scenes world).2.Coherent Everyone := by
  -- over the scenes, from the first: coherence is what the next scene needs
  induction scenes generalizing world with
  | nil => exact ⟨rfl, hcoherent⟩
  | cons scene scenes ih =>
    obtain ⟨hscene, hscenes⟩ := hordinary
    have henact := World.enact_severed fault hcoherent hscene
    obtain ⟨hplay, hlast⟩ := ih (hcoherent.enact_ordinary hscene) hscenes
    refine ⟨?_, hlast⟩
    simp only [World.play, World.eventOf, henact, hplay]
    rfl

/-- The cache is transparent. A play of ordinary scenes since a fresh start has the same history
when all calls to the shared entries fail, and leaves the same clock, sessions and directory. And
every live entry that the cache holds for a principal at the end is the context that would be loaded
from the directory now. -/
theorem cache_transparent {clock : Clock} {directory : Directory.Table} {scenes : List Scene}
    {history : List Event} {last : World}
    (hordinary : World.Throughout World.handler service (Scene.Ordinary service) scenes
      (.fresh clock directory))
    (hplay : World.play World.handler service scenes (.fresh clock directory) = (history, last))
    (fault : World → KeyValue.Call → StorageError) :
    World.play (World.severed fault) service scenes (.fresh clock directory) =
        (history, { last with keyValue := {} }) ∧
      ∀ around kind id value,
        last.keyValue.get last.clock.instant (ContextCache.keyFor kind id) = some value →
          ∃ context, ContextCache.decode? kind id value = some context ∧
            Action.perform (World.handler around) (ContextCache.load kind id) last =
              (some (.ok context), last) := by
  obtain ⟨hsevered, hcoherent⟩ := World.play_severed fault scenes
    (World.coherent_fresh clock directory) hordinary
  rw [hplay] at hsevered hcoherent
  refine ⟨hsevered, ?_⟩
  intro around kind id value hvalue
  obtain ⟨entry, hmem, hkey, rfl, hlive⟩ := KeyValue.Table.exists_mem_of_get hvalue
  obtain ⟨context, hcontext, hwritten⟩ := hcoherent kind id trivial entry hmem hkey hlive
  refine ⟨context, ?_, ?_⟩
  · rw [hwritten, ContextCache.decode?_write,
      if_pos (Directory.Table.isFor_of_context? hcontext)]
  · rw [ContextCache.perform_load, hcontext]
    rfl

/-- The only member of staff signs in and asks for the context; the cache is down. -/
theorem cache_transparent_permissions :
    World.Throughout World.handler .plain (Scene.Ordinary .plain)
        [.plain, ⟨.plain, .operation (.permissions .plain)⟩] .plain ∧
      World.play (World.severed fun _ _ => .database "no connection") .plain
          [.plain, ⟨.plain, .operation (.permissions .plain)⟩] .plain =
        ((World.play World.handler .plain
            [.plain, ⟨.plain, .operation (.permissions .plain)⟩] .plain).1,
          { (World.play World.handler .plain
              [.plain, ⟨.plain, .operation (.permissions .plain)⟩] .plain).2 with
            keyValue := {} }) := by
  have hsignIn : Scene.Ordinary .plain .plain .plain := by
    refine ⟨by rintro _ _ ⟨⟩, by rfl, ?_⟩
    rintro _ ⟨⟩
    rfl
  have hasks : Scene.Ordinary .plain ⟨.plain, .operation (.permissions .plain)⟩
      (World.enact World.handler .plain .plain .plain).2 :=
    ⟨by rintro _ _ ⟨⟩, by rfl, by rintro _ ⟨⟩⟩
  have hordinary : World.Throughout World.handler .plain (Scene.Ordinary .plain)
      [.plain, ⟨.plain, .operation (.permissions .plain)⟩] .plain := ⟨hsignIn, hasks, trivial⟩
  have hplay : World.play World.handler .plain
      [.plain, ⟨.plain, .operation (.permissions .plain)⟩] .plain = (_, _) := rfl
  exact ⟨hordinary, (cache_transparent hordinary hplay _).1⟩

end Gatehouse
