import Gatehouse.Proofs.Calls
import Gatehouse.Proofs.Directory
import Gatehouse.Proofs.Keys
import Gatehouse.Proofs.KeyValue
import Gatehouse.Proofs.World

/-!
# Coherence of the cache of contexts

A cache is coherent about some principals if every live context that it holds for one of them is the
one that the directory gives now. Main statements: calls that cache only what the directory gives
keep the cache coherent (`World.Coherent.handler`), and so does every operation, because an
operation that writes to the directory drops the context of whom it wrote to (`Operation.settles`).
-/

namespace Gatehouse

/-- The live contexts that are cached for some principals are those that the directory gives. -/
def World.Coherent (trusted : PrincipalKind → PrincipalId → Prop) (world : World) : Prop :=
  ∀ kind id, trusted kind id → ∀ entry ∈ world.keyValue.entries,
    entry.key = ContextCache.keyFor kind id → entry.isLiveAt world.clock.instant = true →
      ∃ context, world.directory.context? kind id = some context ∧ entry.value = context.write

/-- The calls that leave a directory as it is, and cache for some principals only the contexts that
it gives. -/
def Faithful (trusted : PrincipalKind → PrincipalId → Prop) (directory : Directory.Table) :
    RequestCall → Prop
  | .store (.keyValue call) =>
    ∀ kind id value, trusted kind id → call.Sets (ContextCache.keyFor kind id) value →
      ∃ context, directory.context? kind id = some context ∧ value = context.write
  | .store (.directory call) => call.reads = true
  | _ => True

/-- The replies that a directory gives. -/
def Truthful (directory : Directory.Table) : (call : RequestCall) → call.Reply → Prop
  | .store (.directory call), reply => reply = (directory.answer call).1
  | _, _ => True

section Replies

variable {directory : Directory.Table} {id : PrincipalId}

/-- The directory says of a member of staff what it holds. -/
theorem says_getStaff {staff : Directory.Staff} :
    Says (Truthful directory) (.getStaff id) (some staff) ↔ directory.staff? id = some staff := by
  refine ⟨fun h => (Except.ok.inj h).symm, fun h => ?_⟩
  exact congrArg Except.ok h.symm

/-- The directory says of a member's stores what it holds. -/
theorem says_storeList {role : Role} {stores : StoreSet} :
    Says (Truthful directory) (.storeList id role) stores ↔
      directory.storeList id role = stores := by
  refine ⟨fun h => (Except.ok.inj h).symm, fun h => ?_⟩
  exact congrArg Except.ok h.symm

/-- The directory says of a customer what it holds. -/
theorem says_getCustomer {customer : Directory.Customer} :
    Says (Truthful directory) (.getCustomer id) (some customer) ↔
      directory.customer? id = some customer := by
  refine ⟨fun h => (Except.ok.inj h).symm, fun h => ?_⟩
  exact congrArg Except.ok h.symm

/-- A context that is loaded is the one that the directory gives. -/
theorem loaded_iff {kind : PrincipalKind} {context : Context} :
    Loaded (Truthful directory) kind id context ↔ directory.context? kind id = some context := by
  cases kind with
  | staff =>
    simp only [Loaded, says_getStaff, says_storeList, Directory.Table.context?,
      Option.map_eq_some_iff, Option.filter_eq_some_iff]
    constructor
    · rintro ⟨staff, stores, hfound, hactive, rfl, rfl⟩
      exact ⟨staff, ⟨hfound, hactive⟩, rfl⟩
    · rintro ⟨staff, ⟨hfound, hactive⟩, rfl⟩
      exact ⟨staff, _, hfound, hactive, rfl, rfl⟩
  | customer =>
    simp only [Loaded, says_getCustomer, Directory.Table.context?, Option.map_eq_some_iff]
    constructor
    · rintro ⟨customer, hfound, rfl⟩
      exact ⟨customer, hfound, rfl⟩
    · rintro ⟨customer, hfound, rfl⟩
      exact ⟨customer, hfound, rfl⟩

end Replies

variable {trusted : PrincipalKind → PrincipalId → Prop} {directory : Directory.Table}

/-- The service may look around, drop contexts and cache what it loaded. -/
theorem faithful_licence (service : Service) :
    service.Licence (Faithful trusted directory) (Truthful directory) := by
  refine ⟨?_, ?_, ?_, ?_⟩
  · rintro ((_ | _ | call) | _) hlooks
    · cases hlooks
    · trivial
    · exact hlooks
    · trivial
  -- reading and dropping set no key
  · rintro _ _ _ _ _ _ ⟨⟩
  · rintro _ _ _ _ _ _ ⟨⟩
  · rintro kind id context hloaded other otherId value - ⟨hkey, rfl⟩
    obtain ⟨hkind, hid⟩ := ContextCache.keyFor_inj.1 hkey
    have hcontext := loaded_iff.1 hloaded
    obtain ⟨rfl, rfl⟩ := Context.isFor_iff.1 (Directory.Table.isFor_of_context? hcontext)
    exact ⟨context, hkind ▸ hid ▸ hcontext, rfl⟩

namespace World

/-- A cache without entries is coherent. -/
theorem coherent_fresh (clock : Clock) (directory : Directory.Table) :
    (fresh clock directory).Coherent trusted := by
  rintro kind id - entry ⟨⟩

/-- A cache stays coherent if its entries are old ones or right, time does not go back, and the
contexts that the directory gives stay what they are. -/
theorem Coherent.of_entries {world world' : World} (h : world.Coherent trusted)
    (hclock : world.clock.instant.nanos ≤ world'.clock.instant.nanos)
    (hdirectory : ∀ kind id, trusted kind id →
      world'.directory.context? kind id = world.directory.context? kind id)
    (hentries : ∀ entry ∈ world'.keyValue.entries, entry ∈ world.keyValue.entries ∨
      ∀ kind id, trusted kind id → entry.key = ContextCache.keyFor kind id →
        ∃ context, world'.directory.context? kind id = some context ∧
          entry.value = context.write) :
    world'.Coherent trusted := by
  intro kind id htrusted entry hmem hkey hlive
  rcases hentries entry hmem with hold | hright
  · obtain ⟨context, hcontext, hvalue⟩ := h kind id htrusted entry hold hkey
      (KeyValue.Entry.isLiveAt_of_le hclock hlive)
    exact ⟨context, (hdirectory kind id htrusted).trans hcontext, hvalue⟩
  -- an entry that is new is right by itself
  · exact hright kind id htrusted hkey

/-- A cache stays coherent when the context of one principal changes and what is cached for that
principal is dropped. -/
theorem Coherent.erase {world : World} (h : world.Coherent trusted) {directory : Directory.Table}
    {kind : PrincipalKind} {id : PrincipalId}
    (hdirectory : ∀ other otherId, ¬ (other = kind ∧ otherId = id) →
      directory.context? other otherId = world.directory.context? other otherId) :
    { world with
      directory
      keyValue := world.keyValue.erase (ContextCache.keyFor kind id) }.Coherent trusted := by
  intro other otherId htrusted entry hmem hkey hlive
  obtain ⟨hold, hne⟩ := KeyValue.Table.mem_erase.1 hmem
  -- no entry is left for the principal whose context has changed
  have hother : ¬ (other = kind ∧ otherId = id) := by
    rintro ⟨rfl, rfl⟩
    exact hne hkey
  obtain ⟨context, hcontext, hvalue⟩ := h other otherId htrusted entry hold hkey hlive
  exact ⟨context, (hdirectory other otherId hother).trans hcontext, hvalue⟩

/-- A cache stays coherent when the context of one principal changes and the new one is cached. -/
theorem Coherent.put {world : World} (h : world.Coherent trusted) {directory : Directory.Table}
    {kind : PrincipalKind} {id : PrincipalId} {context : Context} (deadline : Instant)
    (hcontext : directory.context? kind id = some context)
    (hdirectory : ∀ other otherId, ¬ (other = kind ∧ otherId = id) →
      directory.context? other otherId = world.directory.context? other otherId) :
    { world with
      directory
      keyValue := world.keyValue.put
        ⟨ContextCache.keyFor kind id, context.write, deadline⟩ }.Coherent trusted := by
  intro other otherId htrusted entry hmem hkey hlive
  rcases KeyValue.Table.mem_put.1 hmem with rfl | ⟨hold, hne⟩
  -- keys tell principals apart, so the new entry is for this one
  · obtain ⟨rfl, rfl⟩ := ContextCache.keyFor_inj.1 hkey
    exact ⟨context, hcontext, rfl⟩
  · have hother : ¬ (other = kind ∧ otherId = id) := by
      rintro ⟨rfl, rfl⟩
      exact hne hkey
    obtain ⟨context, hcontext, hvalue⟩ := h other otherId htrusted entry hold hkey hlive
    exact ⟨context, (hdirectory other otherId hother).trans hcontext, hvalue⟩

/-- No call lets time go back. -/
theorem clock_handler_le (around : Surroundings) (call : RequestCall) (world : World) :
    world.clock.instant.nanos ≤ (handler around call world).2.clock.instant.nanos := by
  rw [handler_clock]
  split
  · exact Nat.le_add_right _ _
  · exact Nat.le_refl _

/-- An entry after a call was there before the call, or was set by it. -/
theorem mem_entries_handler {around : Surroundings} {call : RequestCall} {world : World}
    {entry : KeyValue.Entry} (hmem : entry ∈ (handler around call world).2.keyValue.entries) :
    entry ∈ world.keyValue.entries ∨
      ∃ setting, call = .store (.keyValue setting) ∧ setting.Sets entry.key entry.value := by
  rw [handler_keyValue] at hmem
  split at hmem
  · rename_i call
    rcases hanswer : world.keyValue.answer world.clock.instant call with _ | reply
    · rw [hanswer] at hmem
      exact .inl hmem
    · rw [hanswer] at hmem
      rcases KeyValue.Table.mem_answer hanswer hmem with hold | hset
      · exact .inl hold
      · exact .inr ⟨call, rfl, hset⟩
  · exact .inl hmem

/-- Calls that read the directory leave it as it is. -/
theorem directory_handler {around : Surroundings} {world : World} {call : RequestCall}
    (h : ∀ asked, call = .store (.directory asked) → asked.reads = true) :
    (World.handler around call world).2.directory = world.directory := by
  rw [handler_directory]
  split
  · rename_i asked
    have hreads := h asked rfl
    cases asked <;> first | rfl | cases hreads
  · rfl

/-- The directory answers for itself. -/
theorem truthful_handler (around : Surroundings) (call : RequestCall) (world : World) :
    ∀ reply ∈ (World.handler around call world).1, Truthful world.directory call reply := by
  rcases call with (call | call | call) | call
  · exact fun _ _ => trivial
  · exact fun _ _ => trivial
  · rintro _ ⟨⟩
    exact rfl
  · exact fun _ _ => trivial

/-- Calls that cache only what the directory gives, and leave the directory as it is, keep the cache
coherent; and the directory answers for itself. -/
theorem Coherent.handler (around : Surroundings) (call : RequestCall) (world : World)
    (h : world.Coherent trusted ∧ world.directory = directory)
    (hcall : Faithful trusted directory call) :
    ((World.handler around call world).2.Coherent trusted ∧
        (World.handler around call world).2.directory = directory) ∧
      ∀ reply ∈ (World.handler around call world).1, Truthful directory call reply := by
  obtain ⟨hcoherent, rfl⟩ := h
  have hdirectory : (World.handler around call world).2.directory = world.directory :=
    directory_handler (by rintro _ rfl; exact hcall)
  refine ⟨⟨?_, hdirectory⟩, truthful_handler around call world⟩
  refine hcoherent.of_entries (clock_handler_le around call world) ?_ ?_
  · intro kind id _
    rw [hdirectory]
  · intro entry hmem
    rcases mem_entries_handler hmem with hold | ⟨setting, rfl, hset⟩
    · exact .inl hold
    · refine .inr ?_
      intro kind id htrusted hkey
      rw [hdirectory]
      exact hcall kind id entry.value htrusted (hkey ▸ hset)

end World

/-! ## Actions that leave the cache coherent -/

/-- Wherever an action begins with a cache that is coherent about some principals, it ends or breaks
off with one. -/
def Settles (trusted : PrincipalKind → PrincipalId → Prop) {α : Type} (action : Action α) : Prop :=
  ∀ around world, world.Coherent trusted →
    (Action.perform (World.handler around) action world).2.Coherent trusted

section Settles

variable {α β : Type} {service : Service}

/-- An action that leaves the directory as it is, and caches only what that gives, settles. -/
theorem settles_of_within {action : Action α} {post : Directory.Table → α → Prop}
    (h : ∀ directory, Action.Within (Faithful trusted directory) (Truthful directory)
      (post directory) action) :
    Settles trusted action := fun around world hcoherent =>
  (Program.Within.run (h world.directory) (World.Coherent.handler around) ⟨hcoherent, rfl⟩).1.1

/-- Two actions that settle do so one after the other. -/
theorem Settles.bind {action : Action α} {next : α → Action β} (h : Settles trusted action)
    (hnext : ∀ value, Settles trusted (next value)) : Settles trusted (action >>= next) := by
  intro around world hcoherent
  have hfirst := h around world hcoherent
  rw [Action.perform_bind]
  rcases hrun : Action.perform (World.handler around) action world with ⟨_ | _ | value, world'⟩
  · rwa [hrun] at hfirst
  · rwa [hrun] at hfirst
  · rw [hrun] at hfirst
    exact hnext value around world' hfirst

/-- An action settles whatever is made of its value. -/
theorem Settles.map {action : Action α} (h : Settles trusted action) (change : α → β) :
    Settles trusted (change <$> action) := by
  intro around world hcoherent
  rw [Action.perform_map]
  exact h around world hcoherent

/-- A check settles if what follows it does. -/
theorem settles_check {condition : Prop} [Decidable condition] {error : AuthError}
    {next : Unit → Action α} (h : Settles trusted (next ())) :
    Settles trusted (if condition then throw error >>= next else next ()) := by
  intro around world hcoherent
  rw [Action.perform_check]
  split
  · exact hcoherent
  · exact h around world hcoherent

/-- Dropping a context drops the entry of its key. -/
theorem perform_forget (around : Surroundings) (world : World) (kind : PrincipalKind)
    (id : PrincipalId) :
    Action.perform (World.handler around) (Service.forget kind id) world =
      (some (.ok ()),
        { world with keyValue := world.keyValue.erase (ContextCache.keyFor kind id) }) := rfl

/-- A call to the directory changes the directory, and fails as that says. -/
theorem perform_ofRequest_directory {ε : StorageError → AuthError} (around : Surroundings)
    (world : World) (call : Directory.Call) :
    Action.perform (World.handler around) (Action.ofRequest ε (Request.directory call)) world =
      (some ((world.directory.answer call).1.mapError ε),
        { world with directory := (world.directory.answer call).2 }) := by
  rw [Action.perform_ofRequest]
  rfl

/-- A call to the directory whose value is not looked at. -/
theorem perform_discard_directory (around : Surroundings) (world : World) (call : Directory.Call) :
    Action.perform (World.handler around) (discard (Action.directory call)) world =
      (some (((world.directory.answer call).1.mapError .storage).map (fun _ => ())),
        { world with directory := (world.directory.answer call).2 }) := by
  rw [Action.perform_discard, Action.directory, perform_ofRequest_directory]
  rfl

/-- A write to a member of staff settles if the member's context is dropped after it. -/
theorem settles_write_forget {write : Action Unit} {call : Directory.Call} {target : PrincipalId}
    (htarget : call.target? = some target)
    (hwrite : ∀ around world, ∃ outcome,
      Action.perform (World.handler around) write world =
        (some outcome, { world with directory := (world.directory.answer call).2 }) ∧
      ∀ error, outcome = .error error → ∃ cause, (world.directory.answer call).1 = .error cause) :
    Settles trusted (write >>= fun _ => Service.forget .staff target) := by
  intro around world hcoherent
  obtain ⟨outcome, hrun, hfail⟩ := hwrite around world
  rw [Action.perform_bind, hrun]
  -- a write that failed left the directory as it was, and nothing is dropped
  rcases outcome with error | value
  · obtain ⟨cause, hcause⟩ := hfail error rfl
    rw [Directory.Table.answer_of_error htarget hcause]
    exact hcoherent
  · simp only [perform_forget]
    exact hcoherent.erase (fun kind id hother => Directory.Table.context?_answer htarget hother)

/-- A write to a member of staff, whose value is not looked at, settles if the member's context is
dropped after it. -/
theorem settles_discard_forget {call : Directory.Call} {target : PrincipalId}
    (htarget : call.target? = some target) :
    Settles trusted
      (discard (Action.directory call) >>= fun _ => Service.forget .staff target) := by
  refine settles_write_forget htarget ?_
  intro around world
  refine ⟨_, perform_discard_directory around world call, ?_⟩
  rcases (world.directory.answer call).1 with cause | value
  · exact fun _ _ => ⟨cause, rfl⟩
  · rintro _ ⟨⟩

end Settles

namespace Service

variable (service : Service)

/-- The context of a caller is resolved without harm to the cache. -/
theorem settles_permissions (claims : Token.Claims) :
    Settles trusted (service.permissions claims) :=
  settles_of_within (fun _ => permissions_within (faithful_licence service) claims)

/-- A change of a password settles. -/
theorem settles_changePassword (claims : Token.Claims) (target : PrincipalId)
    (oldPassword : Option String) (newPassword : String) :
    Settles trusted (service.changePassword claims target oldPassword newPassword) := by
  refine (settles_permissions service claims).bind (fun caller => ?_)
  refine Settles.bind (settles_of_within fun _ => roleOf_within caller) (fun role => ?_)
  refine Settles.bind (settles_of_within fun _ =>
    requireStaff_within (faithful_licence service).read target) (fun staff => ?_)
  -- both branches of the check on the caller go on with the replacement
  extract_lets replace proceed
  have hproceed : Settles trusted (proceed ()) := by
    refine settles_check ?_
    refine Settles.bind (settles_of_within fun _ => Action.within_ofRequest
      (Program.within_call (I := requests) trivial (fun _ h _ heq => heq ▸ h))) (fun hash => ?_)
    exact settles_discard_forget rfl
  split
  · refine Settles.bind (settles_of_within fun _ => Action.within_require (fun _ h => h))
      (fun old => ?_)
    refine Settles.bind (settles_of_within fun _ => Action.within_outside trivial (fun _ h => h))
      (fun fits => ?_)
    exact settles_check hproceed
  · exact settles_check hproceed

/-- A change of a role settles. -/
theorem settles_changeRole (claims : Token.Claims) (target : PrincipalId) (role : Role) :
    Settles trusted (service.changeRole claims target role) := by
  refine (settles_permissions service claims).bind (fun caller => ?_)
  refine Settles.bind (settles_of_within fun _ =>
    managedTarget_within (faithful_licence service).read caller target) (fun managed => ?_)
  exact settles_check (settles_discard_forget rfl)

/-- Saying whether a member of staff may sign in settles. -/
theorem settles_setActive (claims : Token.Claims) (target : PrincipalId) (active : Bool) :
    Settles trusted (service.setActive claims target active) := by
  refine (settles_permissions service claims).bind (fun caller => ?_)
  refine Settles.bind (Settles.map (settles_of_within fun _ =>
    managedTarget_within (faithful_licence service).read caller target) _) (fun _ => ?_)
  exact settles_discard_forget rfl

/-- Granting stores settles. -/
theorem settles_grantStores (claims : Token.Claims) (target : PrincipalId)
    (stores : List StoreId) : Settles trusted (service.grantStores claims target stores) := by
  refine (settles_permissions service claims).bind (fun caller => ?_)
  refine Settles.bind (settles_of_within fun _ =>
    checkBatch_within (faithful_licence service).read caller target stores) (fun _ => ?_)
  have htarget : (Directory.Call.grantStores target stores).target? = some target := rfl
  refine settles_write_forget htarget ?_
  intro around world
  refine ⟨_, perform_ofRequest_directory around world (.grantStores target stores), ?_⟩
  rcases (world.directory.answer (.grantStores target stores)).1 with cause | value
  · exact fun _ _ => ⟨cause, rfl⟩
  · rintro _ ⟨⟩

/-- Taking grants away settles. -/
theorem settles_revokeStores (claims : Token.Claims) (target : PrincipalId)
    (stores : List StoreId) : Settles trusted (service.revokeStores claims target stores) := by
  refine (settles_permissions service claims).bind (fun caller => ?_)
  refine Settles.bind (settles_of_within fun _ =>
    checkBatch_within (faithful_licence service).read caller target stores) (fun _ => ?_)
  exact settles_discard_forget rfl

/-- Signing in a customer settles where customers are not trusted. -/
theorem settles_signInCustomer (idToken : String) (client : ClientInfo)
    (htrusted : ∀ id, ¬ trusted .customer id) :
    Settles trusted (service.signInCustomer idToken client) := by
  rw [signInCustomer]
  refine settles_check ?_
  refine Settles.bind (settles_of_within fun _ => Action.within_ofRequest
    (Program.within_call (I := requests) trivial (fun _ h _ heq => heq ▸ h))) (fun identity => ?_)
  refine Settles.bind ?_ (fun customer => ?_)
  · intro around world hcoherent
    -- the upsert changes customers only, of whom nothing is claimed
    have hnext : World.Coherent trusted
        { world with directory := (world.directory.upsertCustomer identity).2 } := by
      refine hcoherent.of_entries (Nat.le_refl _) ?_ (fun entry hmem => .inl hmem)
      intro kind id hkind
      refine Directory.Table.context?_upsertCustomer ?_
      rintro ⟨rfl, -⟩
      exact htrusted id hkind
    exact hnext
  · exact settles_of_within fun _ =>
      (ContextCache.load_within (faithful_licence service).read .customer customer.id).bind
        (fun context hloaded => openSession_within (faithful_licence service) hloaded
          (fun _ => trivial) client)

end Service

/-- Every operation settles about staff, and all but the sign-in of a customer about customers, too.
-/
theorem Operation.settles (service : Service) (operation : Operation)
    (h : ∀ idToken client, operation = .signInCustomer idToken client →
      ∀ id, ¬ trusted .customer id) :
    Settles trusted (operation.action service) := by
  cases operation with
  | signInStaff username password client =>
    exact (settles_of_within fun _ => Service.signInStaff_within (faithful_licence service)
      (fun _ => trivial) username password client).map _
  | signInCustomer idToken client =>
    exact (service.settles_signInCustomer idToken client (h idToken client rfl)).map _
  | refresh kind token =>
    exact (settles_of_within fun _ =>
      Service.refresh_within (faithful_licence service) kind token).map _
  | signOut kind token =>
    exact (settles_of_within fun _ =>
      Service.signOut_within (faithful_licence service) kind token trivial).map _
  | permissions claims => exact (service.settles_permissions claims).map _
  | authorize claims requirement =>
    exact (settles_of_within fun _ =>
      Service.authorize_within (faithful_licence service) claims requirement).map _
  | changePassword claims target oldPassword newPassword =>
    exact (service.settles_changePassword claims target oldPassword newPassword).map _
  | changeRole claims target role => exact (service.settles_changeRole claims target role).map _
  | setActive claims target active =>
    exact (service.settles_setActive claims target active).map _
  | grantStores claims target stores =>
    exact (service.settles_grantStores claims target stores).map _
  | revokeStores claims target stores =>
    exact (service.settles_revokeStores claims target stores).map _

namespace World

/-- A sweep caches nothing. -/
theorem faithful_of_mayCall {settings : SweepSettings} {call : RequestCall}
    (h : settings.MayCall call) : Faithful trusted directory call := by
  rcases call with (call | call | call) | call
  · rintro kind id value - hset
    rcases h with rfl | rfl | rfl
    · exact absurd hset.1 (Lock.keyFor_ne settings.job kind id)
    · cases hset
    · cases hset
  · trivial
  · cases h
  · trivial

/-- A sweep keeps the cache coherent. -/
theorem Coherent.sweep {world : World} (h : world.Coherent trusted) (around : Surroundings)
    (settings : SweepSettings) (purges : Bool) :
    ((Sweep.runOnce settings purges).run (World.handler around) world).2.Coherent trusted :=
  (Program.Within.run (Sweep.runOnce_within (fun _ => faithful_of_mayCall) purges)
    (Coherent.handler around) ⟨h, rfl⟩).1.1

/-- A scene keeps the cache coherent, unless a customer signs in and customers are trusted. -/
theorem Coherent.enact {service : Service} {world : World} (h : world.Coherent trusted)
    (scene : Scene) (hcustomer : ∀ idToken client,
      scene.move = .operation (.signInCustomer idToken client) → ∀ id, ¬ trusted .customer id) :
    (World.enact World.handler service scene world).2.Coherent trusted := by
  rcases scene with ⟨around, operation | ⟨settings, purges⟩ | duration⟩
  · exact operation.settles service (fun idToken client heq => hcustomer idToken client (heq ▸ rfl))
      around world h
  · exact h.sweep around settings purges
  -- time that passes only ends lifetimes
  · exact h.of_entries (Nat.le_add_right _ _) (fun _ _ _ => rfl) (fun _ hmem => .inl hmem)

/-- Whatever has happened since a fresh start, the cache is coherent about staff. -/
theorem coherent_play (service : Service) (clock : Clock) (directory : Directory.Table)
    (scenes : List Scene) :
    (play World.handler service scenes (fresh clock directory)).2.Coherent
      (fun kind _ => kind = .staff) := by
  refine play_induction (motive := fun _ world => world.Coherent (fun kind _ => kind = .staff))
    (coherent_fresh clock directory) ?_ scenes
  intro history world scene hcoherent
  exact hcoherent.enact scene (by rintro _ _ _ _ ⟨⟩)

end World

end Gatehouse
