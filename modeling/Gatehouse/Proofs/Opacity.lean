import Gatehouse.Proofs.History
import Gatehouse.Proofs.Responses

/-!
# What is not shown of failures on our side

Two runs of a request whose calls are answered alike, but for the texts in which the stores, the
hasher and the identity provider tell what went wrong. Two programs that may be in the place of each
other under such answers are `Program.Akin`, and an action that is akin to itself is `Discreet`:
every operation is, since no text of a store finds its way into a failure that is shown in full.
Main statement: both runs give the same response (`back_end_detail_hidden`).
-/

namespace Gatehouse

/-- Failures of stores that differ at most in what a store tells of its own trouble. -/
inductive StorageError.Akin : StorageError → StorageError → Prop where
  /-- The store could not be reached, whatever it says. -/
  | database (detail other : String) : Akin (.database detail) (.database other)
  /-- What is missing is the same. -/
  | notFound (what : String) : Akin (.notFound what) (.notFound what)
  /-- A value cannot be read or stored, whatever is said about it. -/
  | serialization (detail other : String) : Akin (.serialization detail) (.serialization other)

/-- Failures of requests that differ at most in what is told of trouble on our side. -/
inductive AuthError.Akin : AuthError → AuthError → Prop where
  /-- The same failure. -/
  | same (error : AuthError) : Akin error error
  /-- Failures of stores that are akin. -/
  | storage {error other : StorageError} (h : error.Akin other) :
      Akin (.storage error) (.storage other)
  /-- Something else failed on our side, whatever is said about it. -/
  | internal (detail other : String) : Akin (.internal detail) (.internal other)

/-- A change that leaves failures on our side as they are leaves failures akin. -/
theorem AuthError.Akin.changed {change : AuthError → AuthError} {error other : AuthError}
    (h : error.Akin other) (hchange : ∀ error, error.isSystem = true → change error = error) :
    (change error).Akin (change other) := by
  cases h with
  | same error => exact .same (change error)
  | storage h =>
    rw [hchange _ rfl, hchange _ rfl]
    exact .storage h
  | internal detail other =>
    rw [hchange _ rfl, hchange _ rfl]
    exact .internal detail other

/-- Failures of stores that are akin fail a request alike if only what is missing is told otherwise
than as a failure of a store. -/
theorem StorageError.Akin.told {failure : StorageError → AuthError} {error other : StorageError}
    (h : error.Akin other)
    (hfailure : ∀ error, (∀ what, error ≠ .notFound what) → failure error = .storage error) :
    (failure error).Akin (failure other) := by
  cases h with
  | database detail other =>
    rw [hfailure _ (by rintro _ ⟨⟩), hfailure _ (by rintro _ ⟨⟩)]
    exact .storage (.database detail other)
  | notFound what => exact .same (failure (.notFound what))
  | serialization detail other =>
    rw [hfailure _ (by rintro _ ⟨⟩), hfailure _ (by rintro _ ⟨⟩)]
    exact .storage (.serialization detail other)

/-- Outcomes with the same value, or with failures that are akin. -/
inductive Matching {ε α : Type} (akin : ε → ε → Prop) : Except ε α → Except ε α → Prop where
  /-- The same value. -/
  | ok (value : α) : Matching akin (.ok value) (.ok value)
  /-- Failures that are akin. -/
  | error {error other : ε} (h : akin error other) : Matching akin (.error error) (.error other)

/-- Replies that differ at most in the texts of failures on our side. -/
def RequestCall.Akin : (call : RequestCall) → call.Reply → call.Reply → Prop
  | .store _, reply, other => Matching StorageError.Akin reply other
  | .outside (.hashPassword _), reply, other => Matching (fun _ _ => True) reply other
  | .outside (.verifyIdentity _), reply, other => Matching AuthError.Akin reply other
  | .outside _, reply, other => reply = other

/-- From states that are linked, two handlers give replies to every call that are akin, and lead to
states that are linked. -/
def AnswerAlike {σ τ : Type} (Linked : σ → τ → Prop) (first : Handler requests σ)
    (second : Handler requests τ) : Prop :=
  ∀ (call : RequestCall) state other, Linked state other →
    Option.Rel call.Akin (first call state).1 (second call other).1 ∧
      Linked (first call state).2 (second call other).2

/-- Programs that make the same calls and end alike, as long as the replies to them are akin. -/
inductive Program.Akin {α : Type} (post : α → α → Prop) : Request α → Request α → Prop where
  /-- Both are done, alike. -/
  | done {value other : α} (h : post value other) : Akin post (.done value) (.done other)
  /-- Both make the same call, and go on alike. -/
  | ask (call : requests.Call) {next rest : requests.Reply call → Request α}
      (h : ∀ reply other, RequestCall.Akin call reply other →
        Akin post (next reply) (rest other)) :
      Akin post (.ask call next) (.ask call rest)

section

variable {α β ε σ τ : Type}

namespace Program

variable {post : α → α → Prop} {post' : β → β → Prop} {program other : Request α}

/-- Programs that are akin are so one after the other. -/
theorem Akin.bind {next rest : α → Request β} (h : Akin post program other)
    (hnext : ∀ value value', post value value' → Akin post' (next value) (rest value')) :
    Akin post' (program >>= next) (other >>= rest) := by
  induction h with
  | done hpost => exact hnext _ _ hpost
  | ask call _ ih => exact .ask call ih

/-- Programs that are akin end in the same way when their values are dropped. -/
theorem Akin.discard (h : Akin post program other) :
    Akin Eq (discard program) (discard other) :=
  h.bind (fun _ _ _ => .done rfl)

/-- A call is akin to itself. -/
theorem akin_call (call : RequestCall) :
    Akin call.Akin (Program.call (I := requests) call) (Program.call (I := requests) call) :=
  .ask call (fun _ _ => .done)

/-- A call to a store gives the same value, or failures that are akin. -/
theorem akin_store (call : StoreCall) :
    Akin (Matching StorageError.Akin) (Program.call (I := requests) (.store call))
      (Program.call (I := requests) (.store call)) :=
  akin_call (.store call)

/-- Programs that are akin end alike when their calls are answered alike. -/
theorem Akin.run {Linked : σ → τ → Prop} {first : Handler requests σ} {second : Handler requests τ}
    (hanswers : AnswerAlike Linked first second) (h : Akin post program other) {state : σ}
    {state' : τ} (hstate : Linked state state') :
    Option.Rel post (program.run first state).1 (other.run second state').1 ∧
      Linked (program.run first state).2 (other.run second state').2 := by
  induction h generalizing state state' with
  | done hpost => exact ⟨.some hpost, hstate⟩
  | ask call _ ih =>
    obtain ⟨hreply, hlinked⟩ := hanswers call state state' hstate
    simp only [Program.run]
    generalize first call state = answer at hreply hlinked ⊢
    generalize second call state' = answer' at hreply hlinked ⊢
    obtain ⟨reply, after⟩ := answer
    obtain ⟨reply', after'⟩ := answer'
    cases hreply with
    | none => exact ⟨.none, hlinked⟩
    | some hreply => exact ih _ _ hreply hlinked

end Program

/-- The action makes the same calls and has matching outcomes, as long as the replies are akin. -/
def Discreet (action : Action α) : Prop :=
  Program.Akin (Matching AuthError.Akin) action.request action.request

/-- An action that is done is discreet. -/
theorem discreet_pure (value : α) : Discreet (pure value : Action α) := .done (.ok value)

/-- A failure is discreet. -/
theorem discreet_throw (error : AuthError) : Discreet (throw error : Action α) :=
  .done (.error (.same error))

/-- Two actions are discreet one after the other. -/
theorem Discreet.bind {action : Action α} {next : α → Action β} (h : Discreet action)
    (hnext : ∀ value, Discreet (next value)) : Discreet (action >>= next) := by
  refine Program.Akin.bind h ?_
  rintro _ _ (⟨value⟩ | ⟨herror⟩)
  · exact hnext value
  · exact .done (.error herror)

/-- Changing the value of an action keeps it discreet. -/
theorem Discreet.map {action : Action α} (h : Discreet action) (change : α → β) :
    Discreet (change <$> action) := by
  rw [map_eq_pure_bind]
  exact h.bind (fun value => discreet_pure (change value))

/-- A request that cannot fail is discreet as an action if it ends in the same way. -/
theorem discreet_always {request : Request α} (h : Program.Akin Eq request request) :
    Discreet (Action.always request) := by
  refine Program.Akin.bind h ?_
  rintro value _ rfl
  exact .done (.ok value)

/-- A request with an outcome is discreet if failures that are akin are told alike. -/
theorem discreet_ofRequest {akin : ε → ε → Prop} {failure : ε → AuthError}
    {request : Request (Except ε α)} (h : Program.Akin (Matching akin) request request)
    (hfailure : ∀ error other, akin error other → (failure error).Akin (failure other)) :
    Discreet (Action.ofRequest failure request) := by
  refine Program.Akin.bind h ?_
  rintro _ _ (⟨value⟩ | ⟨herror⟩)
  · exact .done (.ok value)
  · exact .done (.error (hfailure _ _ herror))

/-- Changing the failure of an action keeps it discreet if failures on our side stay as they are. -/
theorem Discreet.mapFailure {action : Action α} {change : AuthError → AuthError}
    (h : Discreet action) (hchange : ∀ error, error.isSystem = true → change error = error) :
    Discreet (action.mapFailure change) :=
  discreet_ofRequest h (fun _ _ h => h.changed hchange)

/-- A call to a store is discreet if only what is missing is told otherwise than as a failure of a
store. -/
theorem discreet_store {failure : StorageError → AuthError} {call : StoreCall}
    (hfailure : ∀ error, (∀ what, error ≠ .notFound what) → failure error = .storage error) :
    Discreet (Action.ofRequest failure (Program.call (I := requests) (.store call))) :=
  discreet_ofRequest (Program.akin_store call) (fun _ _ h => h.told hfailure)

/-- A call to the directory is discreet. -/
theorem discreet_directory (call : Directory.Call) : Discreet (Action.directory call) :=
  discreet_store (fun _ _ => rfl)

/-- A call to the sessions is discreet. -/
theorem discreet_session (call : Session.Call) : Discreet (Action.session call) :=
  discreet_store (fun _ _ => rfl)

/-- A call whose reply holds no text of a failure is discreet. -/
theorem discreet_outside {call : OutsideCall}
    (hcall : ∀ reply other, RequestCall.Akin (.outside call) reply other → reply = other) :
    Discreet (Action.outside call) :=
  discreet_always (.ask _ fun reply other h => .done (hcall reply other h))

/-- A value that is required is there or not. -/
theorem discreet_require (error : AuthError) (found : Option α) :
    Discreet (Action.require error found) := by
  cases found with
  | none => exact discreet_throw error
  | some value => exact discreet_pure value

/-- A check is discreet if what follows it is. -/
theorem discreet_check {condition : Prop} [Decidable condition] {error : AuthError}
    {next : Unit → Action α} (h : Discreet (next ())) :
    Discreet (if condition then throw error >>= next else next ()) := by
  split
  · exact discreet_throw error
  · exact h

end

/-! ## What operations are made of -/

namespace ContextCache

/-- Reading the cache is discreet: a failure is let pass. -/
theorem akin_get (kind : PrincipalKind) (id : PrincipalId) :
    Program.Akin Eq (get kind id) (get kind id) := by
  refine Program.Akin.bind (Program.akin_store (.keyValue (.get (keyFor kind id)))) ?_
  rintro _ _ (⟨_ | value⟩ | ⟨-⟩)
  · exact .done rfl
  · dsimp only
    split
    · exact .done rfl
    · exact (Program.akin_store _).discard.bind (fun _ _ _ => .done rfl)
  · exact .done rfl

/-- Loading a context is discreet. -/
theorem discreet_load (kind : PrincipalKind) (id : PrincipalId) : Discreet (load kind id) := by
  cases kind with
  | staff =>
    refine Discreet.bind (discreet_directory _) (fun found => ?_)
    refine Discreet.bind (discreet_require _ _) (fun staff => ?_)
    exact Discreet.bind (discreet_directory _) (fun stores => discreet_pure _)
  | customer =>
    refine Discreet.bind (discreet_directory _) (fun found => ?_)
    exact Discreet.bind (discreet_require _ _) (fun customer => discreet_pure _)

/-- Caching a context is discreet: a failure is let pass. -/
theorem discreet_prime (ttl : Duration) (context : Context) :
    Discreet (Action.always (prime ttl context)) :=
  discreet_always (Program.akin_store _).discard

/-- Resolving a context is discreet. -/
theorem discreet_resolve (ttl : Duration) (kind : PrincipalKind) (id : PrincipalId) :
    Discreet (resolve ttl kind id) := by
  refine Discreet.bind (discreet_always (akin_get kind id)) ?_
  rintro (_ | context)
  · refine Discreet.bind (discreet_load kind id) (fun context => ?_)
    exact Discreet.bind (discreet_prime ttl context) (fun _ => discreet_pure context)
  · exact discreet_pure context

end ContextCache

namespace Service

variable (service : Service)

/-- Checking a token is discreet: the token is no failure of ours. -/
theorem discreet_authenticate (token : String) : Discreet (service.authenticate token) := by
  refine Discreet.bind (discreet_outside (fun _ _ h => h)) (fun now => ?_)
  split
  · exact discreet_pure _
  · exact discreet_throw _

/-- The present context of a bearer is resolved discreetly. -/
theorem discreet_permissions (claims : Token.Claims) : Discreet (service.permissions claims) :=
  ContextCache.discreet_resolve _ _ _

/-- Dropping a context is discreet: a failure is let pass. -/
theorem discreet_forget (kind : PrincipalKind) (id : PrincipalId) : Discreet (forget kind id) :=
  discreet_always (Program.akin_store _).discard

/-- Issuing a token is discreet. -/
theorem discreet_issue (context : Context) : Discreet (service.issue context) := by
  refine Discreet.bind (discreet_outside (fun _ _ h => h)) (fun now => ?_)
  exact Discreet.bind (discreet_outside (fun _ _ h => h)) (fun entropy => discreet_pure _)

/-- Opening a session is discreet. -/
theorem discreet_openSession (context : Context) (client : ClientInfo) :
    Discreet (service.openSession context client) := by
  refine Discreet.bind (service.discreet_issue context) (fun access => ?_)
  refine Discreet.bind (discreet_outside (fun _ _ h => h)) (fun entropy => ?_)
  refine Discreet.bind (Discreet.map (discreet_session _) _) (fun _ => ?_)
  exact Discreet.bind (ContextCache.discreet_prime _ context) (fun _ => discreet_pure _)

/-- Signing in a member of staff is discreet. -/
theorem discreet_signInStaff (username password : String) (client : ClientInfo) :
    Discreet (service.signInStaff username password client) := by
  refine Discreet.bind (discreet_directory _) (fun found => ?_)
  refine Discreet.bind (discreet_require _ _) (fun staff => ?_)
  refine Discreet.bind (discreet_outside (fun _ _ h => h)) (fun fits => ?_)
  refine discreet_check ?_
  refine Discreet.bind ((ContextCache.discreet_load .staff staff.id).mapFailure ?_)
    (fun context => service.discreet_openSession context client)
  intro error hsystem
  cases error <;> first | rfl | cases hsystem

/-- Signing in a customer is discreet. -/
theorem discreet_signInCustomer (idToken : String) (client : ClientInfo) :
    Discreet (service.signInCustomer idToken client) := by
  rw [signInCustomer]
  refine discreet_check ?_
  refine Discreet.bind (discreet_ofRequest
    (Program.akin_call (.outside (.verifyIdentity idToken))) (fun _ _ h => h)) (fun identity => ?_)
  refine Discreet.bind (discreet_directory _) (fun customer => ?_)
  exact Discreet.bind (ContextCache.discreet_load .customer customer.id)
    (fun context => service.discreet_openSession context client)

/-- Refreshing is discreet: whether a session was not found is no text of a store. -/
theorem discreet_refresh (kind : PrincipalKind) (token : String) :
    Discreet (service.refresh kind token) := by
  refine Discreet.bind (discreet_store ?_) (fun row => ?_)
  · intro error hfound
    cases error <;> first | rfl | exact absurd rfl (hfound _)
  refine Discreet.bind
    ((ContextCache.discreet_resolve _ kind row.principalId).mapFailure ?_) (fun context => ?_)
  · intro error hsystem
    cases error <;> first | rfl | cases hsystem
  · exact Discreet.bind (service.discreet_issue context) (fun access => discreet_pure _)

/-- Signing out is discreet. -/
theorem discreet_signOut (kind : PrincipalKind) (token : String) :
    Discreet (signOut kind token) := by
  refine Discreet.bind (discreet_session _) ?_
  rintro (_ | owner)
  · exact discreet_pure ()
  · exact discreet_forget kind owner

/-- A write to the directory and the dropping of a context are discreet. -/
theorem discreet_write_forget (call : Directory.Call) (target : PrincipalId) :
    Discreet (do discard (Action.directory call); forget .staff target) :=
  Discreet.bind (Discreet.map (discreet_directory call) _) (fun _ => discreet_forget .staff target)

/-- Requiring a member of staff is discreet. -/
theorem discreet_requireStaff (id : PrincipalId) : Discreet (requireStaff id) :=
  Discreet.bind (discreet_directory _) (fun found => discreet_require _ found)

/-- Choosing whom a caller may manage is discreet. -/
theorem discreet_managedTarget (caller : Context) (target : PrincipalId) :
    Discreet (managedTarget caller target) := by
  refine Discreet.bind (discreet_require _ _) (fun role => ?_)
  refine discreet_check ?_
  refine Discreet.bind (discreet_requireStaff target) (fun staff => ?_)
  refine discreet_check ?_
  dsimp only
  split
  · exact Discreet.bind (discreet_directory _) (fun stores => discreet_check (discreet_pure _))
  · exact discreet_pure _

/-- Checking a batch of stores is discreet. -/
theorem discreet_checkBatch (caller : Context) (target : PrincipalId) (stores : List StoreId) :
    Discreet (checkBatch caller target stores) := by
  rw [checkBatch]
  refine discreet_check ?_
  refine Discreet.bind (discreet_managedTarget caller target) ?_
  rintro ⟨role, staff⟩
  dsimp only
  split
  · exact discreet_throw _
  · exact discreet_pure _

/-- Changing a password is discreet: what the hasher says is told as a failure of ours. -/
theorem discreet_changePassword (claims : Token.Claims) (target : PrincipalId)
    (oldPassword : Option String) (newPassword : String) :
    Discreet (service.changePassword claims target oldPassword newPassword) := by
  refine Discreet.bind (service.discreet_permissions claims) (fun caller => ?_)
  refine Discreet.bind (discreet_require _ _) (fun role => ?_)
  refine Discreet.bind (discreet_requireStaff target) (fun staff => ?_)
  -- both branches of the check on the caller go on with the replacement
  extract_lets replace proceed
  have hproceed : Discreet (proceed ()) := by
    refine discreet_check ?_
    refine Discreet.bind (discreet_ofRequest
      (Program.akin_call (.outside (.hashPassword newPassword))) (fun _ _ _ => .internal _ _))
      (fun hash => ?_)
    exact discreet_write_forget _ target
  split
  · refine Discreet.bind (discreet_require _ _) (fun old => ?_)
    refine Discreet.bind (discreet_outside (fun _ _ h => h)) (fun fits => ?_)
    exact discreet_check hproceed
  · exact discreet_check hproceed

/-- Giving another role is discreet. -/
theorem discreet_changeRole (claims : Token.Claims) (target : PrincipalId) (newRole : Role) :
    Discreet (service.changeRole claims target newRole) := by
  refine Discreet.bind (service.discreet_permissions claims) (fun caller => ?_)
  refine Discreet.bind (discreet_managedTarget caller target) (fun managed => ?_)
  exact discreet_check (discreet_write_forget _ target)

/-- Saying whether a member may sign in is discreet. -/
theorem discreet_setActive (claims : Token.Claims) (target : PrincipalId) (active : Bool) :
    Discreet (service.setActive claims target active) := by
  refine Discreet.bind (service.discreet_permissions claims) (fun caller => ?_)
  refine Discreet.bind (Discreet.map (discreet_managedTarget caller target) _) (fun _ => ?_)
  exact discreet_write_forget _ target

/-- Granting stores is discreet: only of an unknown store more is told than that a store failed. -/
theorem discreet_grantStores (claims : Token.Claims) (target : PrincipalId)
    (stores : List StoreId) : Discreet (service.grantStores claims target stores) := by
  refine Discreet.bind (service.discreet_permissions claims) (fun caller => ?_)
  refine Discreet.bind (discreet_checkBatch caller target stores) (fun _ => ?_)
  refine Discreet.bind (discreet_store ?_) (fun _ => discreet_forget .staff target)
  intro error hfound
  cases error <;> first | rfl | exact absurd rfl (hfound _)

/-- Taking grants away is discreet. -/
theorem discreet_revokeStores (claims : Token.Claims) (target : PrincipalId)
    (stores : List StoreId) : Discreet (service.revokeStores claims target stores) := by
  refine Discreet.bind (service.discreet_permissions claims) (fun caller => ?_)
  refine Discreet.bind (discreet_checkBatch caller target stores) (fun _ => ?_)
  exact discreet_write_forget _ target

end Service

/-! ## Responses -/

namespace Http.Api

variable (api : Api)

/-- Asking for the bearer is discreet. -/
theorem discreet_bearer (request : Request) : Discreet (api.bearer request) := by
  rw [bearer]
  split
  · exact discreet_throw _
  · exact api.service.discreet_authenticate _

/-- Reading a body is discreet. -/
theorem discreet_body {α : Type} (reader : Json.Reader α) (request : Request) :
    Discreet (body reader request) := by
  rw [body]
  split
  · exact discreet_pure _
  · exact discreet_throw _

/-- What is done with the number in a path is discreet if it is so for every number. -/
theorem discreet_withId (segment : Bytes) {next : PrincipalId → Action Response}
    (h : ∀ id, Discreet (next id)) : Discreet (withId segment next) := by
  rw [withId]
  split
  · exact h _
  · exact discreet_pure _

/-- Changing stores is discreet in both ways. -/
theorem discreet_changeStores (request : Request) (segment : Bytes)
    {change : Service → Token.Claims → PrincipalId → List StoreId → Action Unit}
    (h : ∀ claims id stores, Discreet (change api.service claims id stores)) :
    Discreet (api.changeStores request segment change) := by
  refine Discreet.bind (api.discreet_bearer request) (fun claims => ?_)
  refine discreet_withId segment (fun id => ?_)
  refine Discreet.bind (discreet_body _ request) (fun stores => ?_)
  exact Discreet.bind (h claims id stores) (fun _ => discreet_pure _)

/-- Whatever a request asks of a resource is done discreetly. -/
theorem discreet_perform (request : Request) (resource : Resource) :
    Discreet (api.perform request resource) := by
  cases resource with
  | health => exact discreet_pure _
  | staffLogin =>
    refine Discreet.bind (discreet_body _ request) (fun login => ?_)
    exact Discreet.bind (api.service.discreet_signInStaff _ _ _) (fun _ => discreet_pure _)
  | customerLogin =>
    refine Discreet.bind (discreet_body _ request) (fun token => ?_)
    exact Discreet.bind (api.service.discreet_signInCustomer _ _) (fun _ => discreet_pure _)
  | refresh kind =>
    refine Discreet.bind (discreet_body _ request) (fun token => ?_)
    exact Discreet.bind (api.service.discreet_refresh kind token) (fun _ => discreet_pure _)
  | logout kind =>
    refine Discreet.bind (discreet_body _ request) (fun token => ?_)
    exact Discreet.bind (Service.discreet_signOut kind token) (fun _ => discreet_pure _)
  | password =>
    refine Discreet.bind (api.discreet_bearer request) (fun claims => ?_)
    refine Discreet.bind (discreet_body _ request) (fun change => ?_)
    exact Discreet.bind (api.service.discreet_changePassword _ _ _ _) (fun _ => discreet_pure _)
  | me => exact Discreet.bind (api.discreet_bearer request) (fun claims => discreet_pure _)
  | permission =>
    refine Discreet.bind (api.discreet_bearer request) (fun claims => ?_)
    exact Discreet.bind (api.service.discreet_permissions claims) (fun _ => discreet_pure _)
  | role segment =>
    refine Discreet.bind (api.discreet_bearer request) (fun claims => ?_)
    refine discreet_withId segment (fun id => ?_)
    refine Discreet.bind (discreet_body _ request) (fun role => ?_)
    exact Discreet.bind (api.service.discreet_changeRole claims id role) (fun _ => discreet_pure _)
  | active segment =>
    refine Discreet.bind (api.discreet_bearer request) (fun claims => ?_)
    refine discreet_withId segment (fun id => ?_)
    refine Discreet.bind (discreet_body _ request) (fun active => ?_)
    exact Discreet.bind (api.service.discreet_setActive claims id active) (fun _ => discreet_pure _)
  | stores segment =>
    rw [perform]
    split
    · exact api.discreet_changeStores request segment api.service.discreet_revokeStores
    · exact api.discreet_changeStores request segment api.service.discreet_grantStores

/-- Outcomes that match give the same response: of trouble on our side only the kind is shown. -/
theorem conclude_eq_of_matching (request : Request) {outcome other : Except AuthError Response}
    (h : Matching AuthError.Akin outcome other) :
    api.conclude request outcome = api.conclude request other := by
  obtain ⟨response⟩ | ⟨⟨error⟩ | ⟨-⟩ | ⟨detail, detail'⟩⟩ := h <;> rfl

/-- A request is answered in the same way as long as the replies are akin. -/
theorem akin_respond (request : Request) :
    Program.Akin Eq (api.respond request) (api.respond request) := by
  by_cases hrouted : ∃ resource, request.Routed resource
  · obtain ⟨resource, hrouted⟩ := hrouted
    rw [api.respond_of_routed hrouted, deliver, map_eq_pure_bind]
    exact Program.Akin.bind (api.discreet_perform request resource)
      (fun _ _ h => .done (api.conclude_eq_of_matching request h))
  · obtain ⟨response, hresponse⟩ := api.respond_of_not_routed (not_exists.1 hrouted)
    rw [hresponse]
    exact .done rfl

/-- **What our side says of its own trouble is not shown.** Take a catalog that was read from any
text, any request, and two runs in which every call is answered alike, but for the texts in which
stores, hasher and identity provider tell of a failure on our side. Then every failure finds its
entry among those of the text and the built-in ones, and both runs give the same response. -/
theorem back_end_detail_hidden {σ τ : Type} {text : Bytes} {catalog : Catalog}
    (hcatalog : Catalog.ofJson text = .ok catalog) (service : Service) (request : Request)
    {Linked : σ → τ → Prop} {first : Handler requests σ} {second : Handler requests τ}
    (hanswers : AnswerAlike Linked first second) {state : σ} {state' : τ}
    (hstate : Linked state state') :
    (∃ overrides,
        (Json.Reader.entryList ErrorKind.read Descriptor.read).document text = .ok overrides ∧
          catalog.entries = overrides.reverse ++ Catalog.builtIn ∧
            ∀ error : AuthError,
              catalog.entries.lookup error.kind = some (catalog error.kind)) ∧
      (((⟨service, catalog⟩ : Api).respond request).run first state).1 =
          (((⟨service, catalog⟩ : Api).respond request).run second state').1 ∧
        Linked (((⟨service, catalog⟩ : Api).respond request).run first state).2
          (((⟨service, catalog⟩ : Api).respond request).run second state').2 := by
  refine ⟨?_, ?_⟩
  · rw [Catalog.ofJson] at hcatalog
    split at hcatalog
    · rename_i overrides hoverrides
      cases hcatalog
      exact ⟨overrides, hoverrides, Catalog.standard.entries_override overrides,
        fun error => Catalog.lookup_entries _ error.kind⟩
    · cases hcatalog
  · obtain ⟨hresponse, hlinked⟩ :=
      Program.Akin.run hanswers (akin_respond ⟨service, catalog⟩ request) hstate
    refine ⟨?_, hlinked⟩
    generalize (Program.run _ _ _).1 = response at hresponse ⊢
    generalize (Program.run _ _ _).1 = response' at hresponse ⊢
    cases hresponse with
    | none => rfl
    | some h => exact congrArg some h

end Http.Api

/-- The plain world with stores that fail, and say why. -/
def World.broken (detail : String) : Handler requests World := fun call world =>
  match call with
  | .store _ => (some (.error (.database detail)), world)
  | call => World.handler .plain call world

/-- Worlds whose stores fail answer alike, whatever the stores say. -/
theorem World.answerAlike_broken (detail other : String) :
    AnswerAlike Eq (broken detail) (broken other) := by
  rintro (call | call) world _ rfl
  · exact ⟨.some (.error (.database detail other)), rfl⟩
  · refine ⟨.some ?_, rfl⟩
    cases call with
    | hashPassword password => exact .ok _
    | verifyIdentity token => exact .ok _
    | _ => exact rfl

/-- The request with which the only member of staff signs in. -/
def Http.Request.login : Request :=
  { method := "POST"
    target := utf8 "/auth/login"
    headers := [("content-type", utf8 "application/json")]
    body := some (utf8 "\x7b\"username\":\"root\",\"password\":\"first password\"\x7d")
    peer := none }

/-- Signing in with stores that fail: the response is that to any failure of a store, whatever the
stores say. -/
theorem Http.back_end_detail_hidden_login :
    let respond := (⟨.plain, .standard⟩ : Api).respond .login
    let refused := (⟨.plain, .standard⟩ : Api).refusal .storageError
    Catalog.ofJson (utf8 "\x7b\x7d") = .ok .standard ∧
      (respond.run (World.broken "no space on db.local") .plain).1 = some refused ∧
        (respond.run (World.broken "db.local does not answer") .plain).1 = some refused := by
  intro respond refused
  have hcatalog : Catalog.ofJson (utf8 "\x7b\x7d") = .ok .standard := by rfl
  have hfirst : (respond.run (World.broken "no space on db.local") .plain).1 = some refused := by
    rfl
  refine ⟨hcatalog, hfirst, ?_⟩
  obtain ⟨-, hsame, -⟩ := Api.back_end_detail_hidden hcatalog .plain .login
    (World.answerAlike_broken "no space on db.local" "db.local does not answer")
    (Eq.refl World.plain)
  exact hsame.symm.trans hfirst

end Gatehouse
