import Gatehouse.Proofs.StaffSignIn

/-!
# Customer sign in

What becomes of the cached context of a customer who signs in, in whatever way storing the session
ends. The directory is brought up to date first and the context is cached last, so a session that
cannot be stored leaves behind what was cached. Main statement: the cache agrees with the directory
afterwards, unless the session could not be stored while a context was cached that the sign in has
outdated; then this context goes on being shown (`customer_sign_in`).
-/

namespace Gatehouse

variable {create : World.Storing} {service : Service} {around : Surroundings} {world after : World}

/-- The customer who signs in with an identity. -/
def World.customerId (world : World) (identity : Directory.Identity) : PrincipalId :=
  (world.directory.upsertCustomer identity).1.id

/-- The directory when a customer has signed in with an identity. -/
def World.registered (world : World) (identity : Directory.Identity) : Directory.Table :=
  (world.directory.upsertCustomer identity).2

/-- A live context is cached for a principal. -/
def World.Caches (world : World) (kind : PrincipalKind) (id : PrincipalId) (context : Context) :
    Prop :=
  ∃ value, world.keyValue.get world.clock.instant (ContextCache.keyFor kind id) = some value ∧
    ContextCache.decode? kind id value = some context

/-- The live context that is cached for a customer, if there is one, is that of the directory. -/
def World.Agrees (world : World) (id : PrincipalId) : Prop :=
  ∀ context, world.Caches .customer id context →
    world.directory.context? .customer id = some context

/-- Signing in with an identity outdates a context that is cached for the customer: the directory
gives another one then. -/
structure World.Outdates (world : World) (identity : Directory.Identity) (context : Context) :
    Prop where
  /-- The context is cached. -/
  cached : world.Caches .customer (world.customerId identity) context
  /-- The directory gives another one when the customer has signed in. -/
  changed : (world.registered identity).context? .customer (world.customerId identity) ≠
    some context

/-- What is shown of a customer: the context that comes of asking for permissions, and of which
every access token speaks that a refresh gives. -/
structure Service.Shows (service : Service) (world : World) (id : PrincipalId) (context : Context) :
    Prop where
  /-- The permissions are those of the context. -/
  permissions : ∀ around claims, claims.kind = .customer → claims.subject = id →
    (Action.perform (World.handler around) (service.permissions claims) world).1 =
      some (.ok context)
  /-- Refreshing gives an access token with claims about the context. -/
  refresh : ∀ around token row, world.sessions.find world.clock.now .customer token = .ok row →
    row.principalId = id → ∃ given,
      (Action.perform (World.handler around) (service.refresh .customer token) world).1 =
        some (.ok given) ∧
      service.issuer.Vouches given.accessToken context world.clock.now around.entropy

/-! ## What is cached -/

section Caches

variable {kind : PrincipalKind} {id : PrincipalId} {context : Context} {deadline : Instant}

/-- A context that is cached is what resolving gives. -/
theorem World.Caches.perform_resolve (h : world.Caches kind id context) (ttl : Duration)
    (around : Surroundings) :
    Action.perform (World.handler around) (ContextCache.resolve ttl kind id) world =
      (some (.ok context), world) := by
  obtain ⟨value, hvalue, hdecode⟩ := h
  rw [ContextCache.perform_resolve, ContextCache.run_get, hvalue]
  simp only [hdecode]

/-- Where the cache agrees with the directory, resolving gives the context that the directory
gives. -/
theorem World.Agrees.perform_resolve (h : world.Agrees id)
    (hcontext : world.directory.context? .customer id = some context) {ttl : Duration}
    (hshow : world.clock.CanShow ttl) (around : Surroundings) :
    (Action.perform (World.handler around) (ContextCache.resolve ttl .customer id) world).1 =
      some (.ok context) := by
  rcases ContextCache.perform_resolve_cases around world ttl .customer id with
    ⟨value, found, hvalue, hdecode, hrun⟩ |
      ⟨-, keyValue, ⟨hnone, -⟩ | ⟨found, hfound, ⟨hnot, -⟩ | hrun⟩⟩
  · obtain rfl := Option.some.inj (hcontext.symm.trans (h found ⟨value, hvalue, hdecode⟩))
    rw [hrun]
  · rw [hnone] at hcontext
    cases hcontext
  · exact absurd hshow hnot
  · obtain rfl := Option.some.inj (hcontext.symm.trans hfound)
    rw [hrun]

/-- What is shown of a customer is the context that resolving gives. -/
theorem Service.shows_of_resolve (h : ∀ around, (Action.perform (World.handler around)
      (ContextCache.resolve service.contextTtl .customer id) world).1 = some (.ok context)) :
    service.Shows world id context := by
  refine ⟨?_, ?_⟩
  · rintro around claims hkind rfl
    rw [StaffChange.permissions_eq hkind]
    exact h around
  · rintro around token row hrow rfl
    obtain ⟨outcome, keyValue, hrun⟩ := ContextCache.exists_perform_resolve around world
      service.contextTtl .customer row.principalId
    have hresolved := h around
    rw [hrun] at hresolved
    cases hresolved
    rw [Service.perform_refresh, hrow]
    simp only [hrun]
    exact ⟨_, rfl, Service.vouches_issued context⟩

/-- Once the context of a customer is cached that the directory gives, the cache agrees with the
directory about the customer. -/
theorem World.Agrees.caching_self (hcontext : world.directory.context? .customer id = some context) :
    (world.caching context deadline).Agrees id := by
  rintro found ⟨value, hvalue, hdecode⟩
  have hfor := Directory.Table.isFor_of_context? hcontext
  obtain ⟨hkind, hid⟩ := Context.isFor_iff.1 hfor
  rw [← hkind, ← hid, World.get_caching] at hvalue
  split at hvalue
  · cases hvalue
    rw [ContextCache.decode?_write, if_pos hfor] at hdecode
    cases hdecode
    exact hcontext
  · cases hvalue

/-- Caching a context changes nothing about other customers. -/
theorem World.Agrees.caching_of_ne {other : PrincipalId} (h : world.Agrees other)
    (hother : other ≠ context.principalId) : (world.caching context deadline).Agrees other := by
  rintro found ⟨value, hvalue, hdecode⟩
  have hkey : ContextCache.keyFor .customer other ≠
      ContextCache.keyFor context.kind context.principalId :=
    fun heq => hother (ContextCache.keyFor_inj.1 heq).2
  rw [caching, KeyValue.Table.get_eq_map_live?] at hvalue
  dsimp only at hvalue
  rw [KeyValue.Table.live?_put_of_ne hkey, ← KeyValue.Table.get_eq_map_live?] at hvalue
  exact h found ⟨value, hvalue, hdecode⟩

end Caches

section Registered

variable {identity : Directory.Identity} {sessions : Session.Table} {draws : Nat}

/-- Signing in leaves agreement about everybody else, as long as nothing is cached. -/
theorem World.Agrees.registered_of_ne {id : PrincipalId} (h : world.Agrees id)
    (hother : id ≠ world.customerId identity) :
    World.Agrees { world with directory := world.registered identity, sessions, draws } id := by
  intro found hfound
  have hsame : (world.registered identity).context? .customer id =
      world.directory.context? .customer id :=
    Directory.Table.context?_upsertCustomer fun heq => hother heq.2
  exact hsame.trans (h found hfound)

/-- As long as nothing is cached, signing in leaves agreement about the customer exactly if it does
not outdate what was cached. -/
theorem World.agrees_registered_iff (world : World) (identity : Directory.Identity)
    (sessions : Session.Table) (draws : Nat) :
    World.Agrees { world with directory := world.registered identity, sessions, draws }
        (world.customerId identity) ↔
      ¬ ∃ old, world.Outdates identity old := by
  constructor
  · rintro hagrees ⟨old, houtdates⟩
    exact houtdates.changed (hagrees old houtdates.cached)
  · intro hnot found hfound
    by_cases hsame : (world.registered identity).context? .customer
      (world.customerId identity) = some found
    · exact hsame
    · exact absurd ⟨found, hfound, hsame⟩ hnot

/-- As long as nothing is cached, a context that signing in has outdated goes on being shown. -/
theorem World.Outdates.shows {old : Context} (h : world.Outdates identity old) :
    service.Shows { world with directory := world.registered identity, sessions, draws }
      (world.customerId identity) old := by
  have hcached : World.Caches { world with
      directory := world.registered identity, sessions, draws } .customer
      (world.customerId identity) old := h.cached
  exact Service.shows_of_resolve fun around =>
    congrArg Prod.fst (hcached.perform_resolve service.contextTtl around)

end Registered

/-- A customer whose identity is vouched for has a context, for which a session is opened. -/
theorem Service.perform_signInCustomer_of_identity (create : World.Storing) (world : World)
    {idToken : String} {identity : Directory.Identity} (hprovider : service.hasProvider = true)
    (hidentity : around.provider idToken = .ok identity) (client : ClientInfo) :
    ∃ context, (world.registered identity).context? .customer (world.customerId identity) =
        some context ∧
      Action.perform (World.storing create around) (service.signInCustomer idToken client) world =
        Action.perform (World.storing create around) (service.openSession context client)
          { world with directory := world.registered identity } := by
  obtain ⟨context, hcontext⟩ := Option.isSome_iff_exists.1
    (Directory.Table.isSome_context?_customer.2
      (world.directory.isSome_customer?_upsertCustomer_self identity))
  refine ⟨context, hcontext, ?_⟩
  rw [perform_signInCustomer_storing, hprovider, hidentity]
  simp only [hcontext, Bool.not_true, Bool.false_eq_true, if_false]
  rfl

/-- However storing the session ends, a sign in of a customer whose identity is vouched for leaves
the directory brought up to date, and a cache that agrees with it about everybody about whom it did
before. It agrees with it about the customer as well, unless the sign in fails and has outdated the
context that was cached. As long as the cache agrees, permissions and access tokens show what the
directory gives; otherwise they show the outdated context. -/
theorem customer_sign_in {idToken : String} {identity : Directory.Identity}
    (hprovider : service.hasProvider = true) (hidentity : around.provider idToken = .ok identity)
    (client : ClientInfo) {outcome : Except AuthError SignedIn}
    (hrun : Action.perform (World.storing create around) (service.signInCustomer idToken client)
      world = (some outcome, after)) :
    after.directory = world.registered identity ∧
      (∀ id ≠ world.customerId identity, world.Agrees id → after.Agrees id) ∧
      (after.Agrees (world.customerId identity) ↔
        ¬ ∃ error old, outcome = .error error ∧ world.Outdates identity old) ∧
      (after.Agrees (world.customerId identity) → after.clock.CanShow service.contextTtl →
        ∃ context, after.directory.context? .customer (world.customerId identity) = some context ∧
          service.Shows after (world.customerId identity) context) ∧
      (∀ error old, outcome = .error error → world.Outdates identity old →
        service.Shows after (world.customerId identity) old) := by
  obtain ⟨context, hcontext, hsignIn⟩ :=
    Service.perform_signInCustomer_of_identity create world hprovider hidentity client
  have hid := (Context.isFor_iff.1 (Directory.Table.isFor_of_context? hcontext)).2
  have hshows (hdirectory : after.directory = world.registered identity)
      (hagrees : after.Agrees (world.customerId identity))
      (hshow : after.clock.CanShow service.contextTtl) :
      ∃ context, after.directory.context? .customer (world.customerId identity) = some context ∧
        service.Shows after (world.customerId identity) context := by
    rw [← hdirectory] at hcontext
    exact ⟨context, hcontext, Service.shows_of_resolve (hagrees.perform_resolve hcontext hshow)⟩
  rw [hsignIn, Service.perform_openSession_storing around
    { world with directory := world.registered identity } service create context client rfl] at hrun
  split at hrun
  · cases hrun
    -- the cache is what it was, and the directory is not
    refine ⟨rfl, fun id hother hbefore => hbefore.registered_of_ne hother, ?_, hshows rfl, ?_⟩
    · refine (world.agrees_registered_iff identity _ _).trans (not_congr ⟨?_, ?_⟩)
      · rintro ⟨old, houtdates⟩
        exact ⟨_, old, rfl, houtdates⟩
      · rintro ⟨-, old, -, houtdates⟩
        exact ⟨old, houtdates⟩
    · intro _ old _ houtdates
      exact houtdates.shows
  · split at hrun
    · cases hrun
    · cases hrun
      -- the context that the directory gives has taken the place of what was cached
      refine ⟨rfl, fun id hother hbefore => ?_, iff_of_true ?_ ?_, hshows rfl, ?_⟩
      · refine World.Agrees.caching_of_ne ?_ (hid.symm ▸ hother)
        exact hbefore.registered_of_ne hother
      · exact World.Agrees.caching_self hcontext
      · rintro ⟨error, old, hfailed, -⟩
        cases hfailed
      · intro error old hfailed
        cases hfailed

/-- A directory with one customer. -/
def Directory.Table.plainCustomer : Table :=
  { customers := [⟨1, some "uid", "first name", none⟩], lastId := 1 }

/-- The context of the customer. -/
def Context.plainCustomer : Context := ⟨1, .customer, "first name", none, .empty⟩

/-- The world in which nothing has happened but that the context of the customer was cached. -/
def World.plainCustomer : World :=
  (World.fresh ⟨⟨0⟩, .zero⟩ .plainCustomer).caching .plainCustomer ⟨60000000000⟩

/-- The identity provider vouches for the customer, whose name is another one now. -/
def Surroundings.plainRenamed : Surroundings :=
  { Surroundings.plain with provider := fun _ => .ok ⟨"uid", "second name", none⟩ }

/-- Storing sessions where the store cannot be reached. -/
def World.Storing.broken : Storing := fun world _ =>
  (.error (.database "connection refused"), world.sessions)

/-- The cache agrees with the directory about the customer and about everybody else. -/
theorem World.agrees_plainCustomer (id : PrincipalId) : World.plainCustomer.Agrees id := by
  by_cases hid : id = 1
  · subst hid
    exact World.Agrees.caching_self rfl
  · refine World.Agrees.caching_of_ne ?_ hid
    rintro context ⟨value, hvalue, -⟩
    cases hvalue

/-- The customer signs in under another name: the directory has it, and the cache agrees. -/
theorem customer_sign_in_renamed :
    ∃ given after, Action.perform (World.storing .inMemory .plainRenamed)
        (Service.plain.signInCustomer "token" {}) .plainCustomer = (some (.ok given), after) ∧
      after.directory.context? .customer 1 = some ⟨1, .customer, "second name", none, .empty⟩ ∧
      after.Agrees 1 := by
  have hrun : Action.perform (World.storing .inMemory .plainRenamed)
      (Service.plain.signInCustomer "token" {}) .plainCustomer = (some (.ok _), _) := rfl
  obtain ⟨hdirectory, -, hagrees, -, -⟩ := customer_sign_in rfl rfl {} hrun
  refine ⟨_, _, hrun, ?_, hagrees.2 ?_⟩
  · rw [hdirectory]
    rfl
  · rintro ⟨error, old, hfailed, -⟩
    cases hfailed

/-- The session cannot be stored when the customer signs in under another name: the directory has
the name, and the permissions show the one from before. -/
theorem outdated_name_shown :
    (∀ id, World.plainCustomer.Agrees id) ∧
      ∃ after, Action.perform (World.storing .broken .plainRenamed)
          (Service.plain.signInCustomer "token" {}) .plainCustomer =
          (some (.error (.storage (.database "connection refused"))), after) ∧
        after.directory.context? .customer 1 = some ⟨1, .customer, "second name", none, .empty⟩ ∧
        (Action.perform (World.handler .plain)
          (Service.plain.permissions ⟨1, .customer, "", none, .empty, 0, 0, ""⟩) after).1 =
          some (.ok .plainCustomer) ∧
        ¬ after.Agrees 1 := by
  have hcached : World.Caches { World.plainCustomer with
      directory := World.plainCustomer.registered ⟨"uid", "second name", none⟩
      draws := 1 } .customer 1 .plainCustomer := by
    refine ⟨_, rfl, ?_⟩
    rw [ContextCache.decode?_write]
    rfl
  refine ⟨World.agrees_plainCustomer, _, rfl, rfl,
    congrArg Prod.fst (hcached.perform_resolve _ _), fun hagrees => ?_⟩
  exact absurd (hagrees _ hcached) (by decide)

end Gatehouse
