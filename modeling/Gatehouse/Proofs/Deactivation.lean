import Gatehouse.Proofs.Administration
import Gatehouse.Proofs.Schedule

/-!
# After a deactivation

What a request can still do for a member of staff who was deactivated by a request that has ended,
in whatever order requests take turns. The deactivation writes to the directory and then drops the
cached context; from then on no context can be built. But a request that had read the row before may
cache its context after that, and then the member's requests succeed as before
(`deactivation_outlived`). Main statement: this is the only way, and where no request writes back
what it read before, every later request of the member fails (`deactivation_final`).
-/

namespace Gatehouse

/-! ## Places in the journal -/

/-- A request made a call at a place of the journal. -/
def MadeAt (journal : List Deed) (place request : Nat) (call : RequestCall) : Prop :=
  ∃ reply, journal[place]? = some ⟨request, call, reply⟩

/-- All calls that were made, in order. -/
def callsIn (journal : List Deed) : List RequestCall :=
  journal.map (fun deed => deed.exchange.call)

section Places

variable {journal first second : List Deed} {deed other : Deed}

/-- A deed stands behind those before it. -/
theorem madeAt_length (h : journal = first ++ deed :: second) :
    MadeAt journal first.length deed.request deed.exchange.call :=
  ⟨deed.exchange.reply, by rw [h, List.getElem?_append_right (Nat.le_refl _), Nat.sub_self]; rfl⟩

/-- A call that was made is one of those made. -/
theorem MadeAt.mem_calls {place request : Nat} {call : RequestCall}
    (h : MadeAt journal place request call) : call ∈ callsIn journal := by
  obtain ⟨reply, hdeed⟩ := h
  exact List.mem_map_of_mem (List.mem_of_getElem? hdeed)

/-- A deed before another one stands at an earlier place. -/
theorem exists_madeAt_lt (h : journal = first ++ deed :: second) (hother : other ∈ first) :
    ∃ place < first.length, MadeAt journal place other.request other.exchange.call := by
  obtain ⟨before, after, rfl⟩ := List.append_of_mem hother
  have hjournal : journal = before ++ other :: (after ++ deed :: second) := by
    rw [h, List.append_assoc, List.cons_append]
  exact ⟨before.length, by simp, madeAt_length hjournal⟩

/-- A deed after another one stands at a later place. -/
theorem exists_madeAt_gt (h : journal = first ++ deed :: second) (hother : other ∈ second) :
    ∃ place, first.length < place ∧ MadeAt journal place other.request other.exchange.call := by
  obtain ⟨before, after, rfl⟩ := List.append_of_mem hother
  have hjournal : journal = (first ++ deed :: before) ++ other :: after := by
    rw [h, List.append_assoc, List.cons_append]
  refine ⟨(first ++ deed :: before).length, ?_, madeAt_length hjournal⟩
  rw [List.length_append, List.length_cons]
  omega

end Places

/-! ## Replies after a deactivation -/

/-- What the stores in memory reply: the directory answers, with the row that was asked for, and
sessions that are not found are said to be missing. -/
def Genuine : (call : RequestCall) → call.Reply → Prop
  | .store (.directory (.getStaff id)), reply => ∃ found : Option Directory.Staff,
      reply = (.ok found : Except StorageError _) ∧ ∀ member, found = some member → member.id = id
  | .store (.session (.find _ _)), reply =>
      ∀ error, reply = (.error error : Except StorageError Session.Row) →
        ∃ what, error = .notFound what
  | _, _ => True

/-- The replies by which a member of staff is not active. -/
def Barred (id : PrincipalId) : (call : RequestCall) → call.Reply → Prop
  | .store (.directory (.getStaff other)), reply => other = id → ∀ member : Directory.Staff,
      reply = (.ok (some member) : Except StorageError (Option _)) → member.isActive = false
  | _, _ => True

/-- The replies by which no context of a member of staff is cached. -/
def Uncached (id : PrincipalId) : (call : RequestCall) → call.Reply → Prop
  | .store (.keyValue (.get key)), reply => key = ContextCache.keyFor .staff id →
      reply = (.ok none : Except StorageError (Option Bytes))
  | _, _ => True

/-- The calls that always have an answer: all but those that set a key for a lifetime. -/
def AlwaysAnswered : RequestCall → Prop
  | .store (.keyValue (.set _ _ _)) => False
  | .store (.keyValue (.setIfAbsent _ _ _)) => False
  | _ => True

/-- The calls that cache a context of a member of staff only if the member was said to be active. -/
def CachesActive (expected : (call : RequestCall) → call.Reply → Prop) (id : PrincipalId) :
    RequestCall → Prop
  | .store (.keyValue (.set key _ _)) => key = ContextCache.keyFor .staff id →
      ∃ member : Directory.Staff, Says expected (.getStaff id) (some member) ∧
        member.isActive = true
  | .store (.keyValue (.setIfAbsent key _ _)) => key ≠ ContextCache.keyFor .staff id
  | _ => True

/-- A member of staff who may not sign in. -/
def Directory.Table.Bars (table : Directory.Table) (id : PrincipalId) : Prop :=
  (table.staff? id).map Directory.Staff.isActive ≠ some true

namespace Directory.Table

variable {table : Table} {id : PrincipalId}

/-- Only saying so changes whether a member of staff may sign in. -/
theorem isActive_answer {call : Call} (h : ∀ active, call ≠ .setActive id active) :
    ((table.answer call).2.staff? id).map Staff.isActive =
      (table.staff? id).map Staff.isActive := by
  cases call with
  | setActive member active =>
    have hother : id ≠ member := by
      rintro rfl
      exact h active rfl
    exact congrArg (Option.map Staff.isActive) (staff?_changeStaff_of_ne (fun _ => rfl) hother)
  | setPasswordHash => exact map_staff?_changeStaff (fun _ => rfl) (fun _ => rfl)
  | setRole => exact map_staff?_changeStaff (fun _ => rfl) (fun _ => rfl)
  | grantStores member stores =>
    rw [answer, grantStores_eq]
    rfl
  | upsertCustomer identity =>
    rw [answer, upsertCustomer_eq]
    rfl
  | _ => rfl

/-- Whoever is deactivated may not sign in. -/
theorem bars_setActive (table : Table) (id : PrincipalId) :
    (table.answer (.setActive id false)).2.Bars id := by
  have hrow : (table.answer (.setActive id false)).2.staff? id = (table.staff? id).map
      (fun member => if member.id = id then { member with isActive := false } else member) :=
    staff?_changeStaff (fun _ => rfl)
  rw [Bars, hrow, Option.map_map]
  intro hactive
  obtain ⟨member, hmember, hactive⟩ := Option.map_eq_some_iff.1 hactive
  rw [Function.comp, if_pos (staff?_id hmember)] at hactive
  cases hactive

/-- Whoever may not sign in may not do so until told otherwise. -/
theorem Bars.answer (h : table.Bars id) {call : Call} (hcall : call ≠ .setActive id true) :
    (table.answer call).2.Bars id := by
  by_cases hset : ∃ active, call = .setActive id active
  · obtain ⟨active, rfl⟩ := hset
    cases active with
    | true => exact absurd rfl hcall
    | false => exact bars_setActive table id
  · rw [Bars, isActive_answer (fun active heq => hset ⟨active, heq⟩)]
    exact h

end Directory.Table

namespace World

/-- The stores in memory reply as they do. -/
theorem genuine_handler (around : Surroundings) (call : RequestCall) (world : World) :
    ∀ reply ∈ (handler around call world).1, Genuine call reply := by
  rcases call with (call | call | call) | call
  · exact fun _ _ => trivial
  · cases call with
    | find kind token =>
      rintro _ ⟨⟩ error herror
      change world.sessions.find world.clock.now kind token = .error error at herror
      rw [Session.Table.find] at herror
      split at herror
      · cases herror
      · cases herror
        exact ⟨_, rfl⟩
    | _ => exact fun _ _ => trivial
  · cases call with
    | getStaff id =>
      rintro _ ⟨⟩
      exact ⟨_, rfl, fun member hmember => Directory.Table.staff?_id hmember⟩
    | _ => exact fun _ _ => trivial
  · exact fun _ _ => trivial

/-- A member of staff who may not sign in stays so as long as no call says otherwise. -/
theorem barred_handler {id : PrincipalId} {call : RequestCall} {world : World}
    (h : world.directory.Bars id) (hcall : call ≠ .store (.directory (.setActive id true)))
    (around : Surroundings) :
    (handler around call world).2.directory.Bars id ∧
      ∀ reply ∈ (handler around call world).1, Barred id call reply := by
  refine ⟨?_, ?_⟩
  · rw [handler_directory]
    split
    · rename_i call
      exact h.answer (fun heq => hcall (heq ▸ rfl))
    · exact h
  · rcases call with (call | call | call) | call
    · exact fun _ _ => trivial
    · exact fun _ _ => trivial
    · cases call with
      | getStaff other =>
        rintro _ ⟨⟩ rfl member hmember
        have hfound : world.directory.staff? other = some member := Except.ok.inj hmember
        rw [Directory.Table.Bars, hfound] at h
        simpa using h
      | _ => exact fun _ _ => trivial
    · exact fun _ _ => trivial

/-- A key that is not there stays so as long as no call sets it. -/
theorem uncached_handler {id : PrincipalId} {call : RequestCall} {world : World}
    (h : ∀ entry ∈ world.keyValue.entries, entry.key ≠ ContextCache.keyFor .staff id)
    (hcall : ∀ setting value, call = .store (.keyValue setting) →
      ¬ setting.Sets (ContextCache.keyFor .staff id) value)
    (around : Surroundings) :
    (∀ entry ∈ (handler around call world).2.keyValue.entries,
        entry.key ≠ ContextCache.keyFor .staff id) ∧
      ∀ reply ∈ (handler around call world).1, Uncached id call reply := by
  refine ⟨?_, ?_⟩
  · intro entry hmem hkey
    rcases mem_entries_handler hmem with hold | ⟨setting, rfl, hset⟩
    · exact h entry hold hkey
    · exact hcall setting entry.value rfl (hkey ▸ hset)
  · rcases call with (call | call | call) | call
    · cases call with
      | get key =>
        rintro _ ⟨⟩ rfl
        rcases hvalue : world.keyValue.get world.clock.instant (ContextCache.keyFor .staff id) with
          _ | value
        · exact rfl
        · obtain ⟨entry, hmem, hkey, -⟩ := KeyValue.Table.exists_mem_of_get hvalue
          exact absurd hkey (h entry hmem)
      | _ => exact fun _ _ => trivial
    · exact fun _ _ => trivial
    · exact fun _ _ => trivial
    · exact fun _ _ => trivial

/-- A call that always has an answer has one. -/
theorem handler_ne_none {call : RequestCall} (h : AlwaysAnswered call) (around : Surroundings)
    (world : World) : (handler around call world).1 ≠ none := by
  rcases call with (call | call | call) | call
  · cases call with
    | set => cases h
    | setIfAbsent => cases h
    | _ => rintro ⟨⟩
  · rintro ⟨⟩
  · rintro ⟨⟩
  · rintro ⟨⟩

end World

/-! ## What requests do by such replies -/

section Ends

variable {service : Service} {id : PrincipalId}
  {expected : (call : RequestCall) → call.Reply → Prop}
  (h : ∀ call reply, expected call reply →
    Genuine call reply ∧ Barred id call reply ∧ Uncached id call reply)

include h

/-- No context is resolved for a member of staff who may not sign in and is not cached. -/
theorem ContextCache.resolve_ends_barred (ttl : Duration) :
    Action.Ends AlwaysAnswered expected (fun outcome => outcome = .error .principalNotFound)
      (resolve ttl .staff id) := by
  have hget : Action.Ends AlwaysAnswered expected (fun outcome => outcome = .ok none)
      (Action.always (get .staff id)) := by
    refine Action.ends_always ?_
    rw [get]
    refine Program.Within.bind (Program.within_call (I := requests) trivial (fun _ h => h)) ?_
    intro reply hreply
    have hnone : reply = (.ok none : Except StorageError (Option Bytes)) :=
      (h _ _ hreply).2.2 rfl
    rw [hnone]
    exact Program.within_pure rfl
  have hload : Action.Ends AlwaysAnswered expected
      (fun outcome => outcome = .error .principalNotFound) (load .staff id) := by
    have hfound : Action.Ends AlwaysAnswered expected
        (fun outcome => ∃ found : Option Directory.Staff, outcome = .ok found ∧
          ∀ member, found = some member → member.isActive = false)
        (Action.directory (.getStaff id)) := by
      refine Action.ends_directory trivial ?_
      intro reply hreply
      obtain ⟨⟨found, rfl, -⟩, hbarred, -⟩ := h _ _ hreply
      exact ⟨found, rfl, fun member hmember => hbarred rfl member (hmember ▸ rfl)⟩
    refine hfound.bind (by rintro error ⟨found, ⟨⟩, -⟩) ?_
    rintro found ⟨_, ⟨⟩, hinactive⟩
    have hfilter : found.filter (fun member => member.isActive) = none := by
      refine Option.filter_eq_none_iff.2 ?_
      intro member hmember
      rw [hinactive member hmember]
      decide
    rw [hfilter]
    exact Action.ends_throw rfl
  refine hget.bind (by rintro error ⟨⟩) ?_
  rintro _ ⟨⟩
  refine hload.bind ?_ (by rintro _ ⟨⟩)
  rintro error ⟨⟩
  rfl

/-- Every operation that such a member asks for fails. -/
theorem Operation.ends_barred {operation : Operation} {claims : Token.Claims}
    (hclaims : operation.claims? = some claims) (hkind : claims.kind = .staff)
    (hsubject : claims.subject = id) :
    Action.Ends AlwaysAnswered expected (fun outcome => outcome = .error .principalNotFound)
      (operation.action service) := by
  have hpermissions : Action.Ends AlwaysAnswered expected
      (fun outcome => outcome = .error .principalNotFound) (service.permissions claims) := by
    rw [Service.permissions, hkind, hsubject]
    exact ContextCache.resolve_ends_barred h service.contextTtl
  have hthen {α : Type} (next : Context → Action α) : Action.Ends AlwaysAnswered expected
      (fun outcome => outcome = .error .principalNotFound)
      (service.permissions claims >>= next) := by
    refine hpermissions.bind ?_ (by rintro _ ⟨⟩)
    rintro error ⟨⟩
    rfl
  have hmap {α : Type} {change : α → Answer} {outcome : Except AuthError α}
      (houtcome : outcome = .error .principalNotFound) :
      outcome.map change = .error .principalNotFound := by
    rw [houtcome]
    rfl
  -- every operation with claims resolves the context of their bearer first
  cases operation with
  | permissions => cases hclaims; exact hpermissions.map (fun _ => hmap)
  | authorize => cases hclaims; exact (hthen _).map (fun _ => hmap)
  | changePassword => cases hclaims; exact (hthen _).map (fun _ => hmap)
  | changeRole => cases hclaims; exact (hthen _).map (fun _ => hmap)
  | setActive => cases hclaims; exact (hthen _).map (fun _ => hmap)
  | grantStores => cases hclaims; exact (hthen _).map (fun _ => hmap)
  | revokeStores => cases hclaims; exact (hthen _).map (fun _ => hmap)
  | _ => cases hclaims

/-- Refreshing fails when the session is that of such a member, or is not found. -/
theorem Service.refresh_ends_barred {token : String}
    (howner : ∀ row : Session.Row,
      expected (.store (.session (.find .staff token))) (.ok row) → row.principalId = id) :
    Action.Ends AlwaysAnswered expected (fun outcome => outcome = .error .refreshTokenInvalid)
      (service.refresh .staff token) := by
  have hfind (failure : StorageError → AuthError)
      (hfailure : ∀ what, failure (.notFound what) = .refreshTokenInvalid) :
      Action.Ends AlwaysAnswered expected
        (fun outcome => outcome = .error .refreshTokenInvalid ∨
          ∃ row, outcome = .ok row ∧ row.principalId = id)
        (Action.ofRequest failure (Request.session (.find .staff token))) := by
    refine Action.ends_ofRequest (Program.within_call (I := requests) trivial ?_)
    rintro (error | row) hreply
    · obtain ⟨what, rfl⟩ := (h _ _ hreply).1 error rfl
      exact .inl (congrArg Except.error (hfailure what))
    · exact .inr ⟨row, rfl, howner row hreply⟩
  have hresolve (failure : AuthError → AuthError)
      (hfailure : failure .principalNotFound = .refreshTokenInvalid) (row : Session.Row)
      (hrow : row.principalId = id) :
      Action.Ends AlwaysAnswered expected (fun outcome => outcome = .error .refreshTokenInvalid)
        ((ContextCache.resolve service.contextTtl .staff row.principalId).mapFailure failure) := by
    rw [hrow]
    refine Action.Ends.mapFailure
      ((ContextCache.resolve_ends_barred h service.contextTtl).mono ?_)
    rintro _ rfl
    exact congrArg Except.error hfailure
  refine (hfind _ (fun _ => rfl)).bind ?_ ?_
  · rintro error (herror | ⟨row, hrow, -⟩)
    · cases herror
      rfl
    · cases hrow
  · rintro row (hrow | ⟨_, ⟨⟩, hrow⟩)
    · cases hrow
    refine (hresolve _ rfl row hrow).bind ?_ (by rintro _ ⟨⟩)
    rintro error ⟨⟩
    rfl

end Ends

/-- Every operation caches a context of a member of staff only if the member was said to be active.
-/
theorem Operation.cachesActive (service : Service) {id : PrincipalId}
    {expected : (call : RequestCall) → call.Reply → Prop}
    (hgenuine : ∀ call reply, expected call reply → Genuine call reply) (operation : Operation) :
    Action.Within (CachesActive expected id) expected (fun _ => True)
      (operation.action service) := by
  have licence : service.Licence (CachesActive expected id) expected := by
    refine ⟨?_, fun _ _ => trivial, fun _ _ => trivial, ?_⟩
    · rintro ((_ | _ | _) | _) hlooks
      · cases hlooks
      all_goals trivial
    · intro kind other context hloaded hkey
      obtain ⟨hkind, hid⟩ := ContextCache.keyFor_inj.1 hkey
      cases kind with
      | staff =>
        obtain ⟨member, stores, hfound, hactive, -, rfl⟩ := hloaded
        -- the row that was read is that of the member whose context is cached
        obtain ⟨found, hsame, hrow⟩ := hgenuine _ _ hfound
        obtain rfl : some member = found := Except.ok.inj hsame
        obtain rfl : other = id := (hrow member rfl).symm.trans hid
        exact ⟨member, hfound, hactive⟩
      | customer =>
        obtain ⟨customer, -, rfl⟩ := hloaded
        cases hkind
  refine Operation.within licence operation ?_
  rintro (call | call | call) hcall
  · cases operation <;> simp [Operation.MayWrite] at hcall
  · trivial
  · trivial

/-! ## The deactivation itself -/

/-- What is done by a write to a member of staff, and the dropping of the context, if it succeeds.
-/
theorem Service.follows_write_forget {call : Directory.Call} {target : PrincipalId}
    {exchanges : List (Exchange requests)}
    (h : Program.Follows
      (do discard (Action.directory call); forget .staff target : Action Unit).request
      exchanges (.done (.ok ()))) :
    ∃ value reply, exchanges =
      [⟨.store (.directory call), (.ok value : Except StorageError call.Value)⟩,
        ⟨.store (.keyValue (.delete (ContextCache.keyFor .staff target))), reply⟩] := by
  rcases Action.follows_bind h with ⟨error, ⟨⟩, -⟩ | ⟨_, first, second, rfl, hwrite, hforget⟩
  obtain ⟨outcome, houtcome, hcall⟩ := Action.follows_map hwrite
  obtain ⟨error | value, rfl, hask⟩ := Action.follows_ofRequest hcall
  · cases houtcome
  · obtain rfl := Program.Follows.of_call (I := requests) hask
    obtain ⟨_, -, hdrop⟩ := Action.follows_always hforget
    obtain ⟨_, _, _, rfl, hdelete, hdone⟩ := Program.Follows.of_bind hdrop
    obtain rfl := Program.Follows.of_call (I := requests) hdelete
    cases hdone
    exact ⟨value, _, rfl⟩

/-- A deactivation that has succeeded has written to the directory and dropped the context, in this
order. -/
theorem Stage.Sound.exists_write_drop {service : Service}
    {stage : Stage Operation (Except AuthError Answer)}
    (h : stage.Sound (Operation.request service)) {request : Nat} {claims : Token.Claims}
    {id : PrincipalId} {isBroken : Bool}
    (htask : stage.tasks[request]? =
      some ⟨.setActive claims id false, .done (.ok .done), isBroken⟩) :
    ∃ first between rest reply reply',
      stage.journal = first ++
        ⟨request, .store (.directory (.setActive id false)), reply⟩ ::
          (between ++ ⟨request, .store (.keyValue (.delete (ContextCache.keyFor .staff id))),
            reply'⟩ :: rest) := by
  obtain ⟨outcome, houtcome, hpath⟩ := Action.follows_map (h.follows request _ htask)
  obtain rfl : outcome = .ok () := by
    rcases outcome with error | _
    · cases houtcome
    · rfl
  -- the caller's context, the target, and then the write
  rcases Action.follows_bind hpath with ⟨_, ⟨⟩, -⟩ | ⟨_, reads, _, hreads, -, hpath⟩
  rcases Action.follows_bind hpath with ⟨_, ⟨⟩, -⟩ | ⟨_, checks, _, rfl, -, hpath⟩
  obtain ⟨value, reply, rfl⟩ := Service.follows_write_forget hpath
  rw [← List.append_assoc] at hreads
  obtain ⟨first, second, hjournal, -, hsecond⟩ := exists_of_exchangesOf hreads
  obtain ⟨between, rest, rfl, -, -⟩ :=
    exists_of_exchangesOf (hsecond.trans (List.nil_append _).symm)
  exact ⟨first, between, rest, _, _, hjournal⟩

/-- A member of staff is activated again after a request has deactivated the member. -/
def Reactivates (journal : List Deed) (request : Nat) (id : PrincipalId) : Prop :=
  ∃ write place other, write < place ∧
    MadeAt journal write request (.store (.directory (.setActive id false))) ∧
      MadeAt journal place other (.store (.directory (.setActive id true)))

/-- A request reads the row of a member of staff before another one deactivates the member, and
caches a context of the member after that one has dropped it. -/
def WritesBack (journal : List Deed) (request : Nat) (id : PrincipalId) : Prop :=
  ∃ read write drop keep other value ttl, read < write ∧ drop < keep ∧
    MadeAt journal read other (.store (.directory (.getStaff id))) ∧
      MadeAt journal write request (.store (.directory (.setActive id false))) ∧
        MadeAt journal drop request
            (.store (.keyValue (.delete (ContextCache.keyFor .staff id)))) ∧
          MadeAt journal keep other
            (.store (.keyValue (.set (ContextCache.keyFor .staff id) value ttl)))

/-- A request does not break off, and has failed if it has ended. -/
def Task.Fails {J α : Type} (task : Task J (Except AuthError α)) (error : AuthError) : Prop :=
  task.isBroken = false ∧ ∀ outcome, task.rest = .done outcome → outcome = .error error

/-- A request fails if by its replies its program can end in that failure only, and makes only calls
that always have an answer. -/
theorem Stage.Sound.fails {J α : Type} {program : J → Request (Except AuthError α)}
    {stage : Stage J (Except AuthError α)} (h : stage.Sound program) {number : Nat}
    {task : Task J (Except AuthError α)} (htask : stage.tasks[number]? = some task)
    (expected : (call : RequestCall) → call.Reply → Prop) {error : AuthError}
    (hends : (program task.job).Within AlwaysAnswered expected
      (fun outcome => outcome = .error error))
    (hreplies : ∀ exchange ∈ exchangesOf number stage.journal,
      expected exchange.call exchange.reply) : task.Fails error := by
  have hrest := hends.follows (h.follows number task htask) hreplies
  refine ⟨?_, ?_⟩
  · refine Bool.eq_false_iff.2 ?_
    intro hbroken
    obtain ⟨call, next, around, world, hask, hnone⟩ := h.broken number task htask hbroken
    rw [hask] at hrest
    exact World.handler_ne_none hrest.1 around world hnone
  · intro outcome hdone
    rw [hdone] at hrest
    exact hrest

section Final

variable {journal first between rest : List Deed} {request : Nat} {id : PrincipalId}
  {reply : RequestCall.Reply (.store (.directory (.setActive id false)))}
  {reply' : RequestCall.Reply (.store (.keyValue (.delete (ContextCache.keyFor .staff id))))}

/-- After the write of a deactivation, the directory says that the member is not active. -/
theorem barred_of_not_reactivates {start last : World}
    (hchronicle : Chronicle start journal last)
    (hjournal : journal = first ++
      ⟨request, .store (.directory (.setActive id false)), reply⟩ :: rest)
    (hactive : ¬ Reactivates journal request id) :
    ∀ deed ∈ rest, Barred id deed.exchange.call deed.exchange.reply := by
  rw [hjournal] at hchronicle
  obtain ⟨before, after, around, -, hwrite, hrest⟩ := hchronicle.split
  have hbars : after.directory.Bars id := by
    have hdirectory := World.handler_directory around
      (.store (.directory (.setActive id false))) before
    rw [hwrite] at hdirectory
    rw [hdirectory]
    exact Directory.Table.bars_setActive before.directory id
  refine (hrest.keeps (fun world => world.directory.Bars id)
    (fun _ call => call ≠ .store (.directory (.setActive id true))) (Barred id) ?_ ?_ ?_ hbars).2
  · intro others deed later heq _ hcall
    obtain ⟨place, hplace, hmade⟩ :=
      exists_madeAt_gt hjournal (heq ▸ List.mem_append_right others List.mem_cons_self)
    exact hactive ⟨_, place, _, hplace, madeAt_length hjournal, hcall ▸ hmade⟩
  · exact fun _ around call world hworld hcall => World.barred_handler hworld hcall around
  · exact fun _ _ hworld => hworld

/-- After a deactivation has dropped the context, nobody caches one, unless it is written back. -/
theorem not_sets_of_not_writesBack {service : Service}
    {stage : Stage Operation (Except AuthError Answer)}
    (hsound : stage.Sound (Operation.request service))
    (hgenuine : ∀ deed ∈ stage.journal, Genuine deed.exchange.call deed.exchange.reply)
    (hjournal : stage.journal = first ++
      ⟨request, .store (.directory (.setActive id false)), reply⟩ ::
        (between ++ ⟨request, .store (.keyValue (.delete (ContextCache.keyFor .staff id))),
          reply'⟩ :: rest))
    (hbarred : ∀ deed ∈ between ++
      ⟨request, .store (.keyValue (.delete (ContextCache.keyFor .staff id))), reply'⟩ :: rest,
        Barred id deed.exchange.call deed.exchange.reply)
    (hback : ¬ WritesBack stage.journal request id)
    {others later : List Deed} {deed : Deed} (hrest : rest = others ++ deed :: later)
    {setting : KeyValue.Call} (hcall : deed.exchange.call = .store (.keyValue setting))
    {value : Bytes} : ¬ setting.Sets (ContextCache.keyFor .staff id) value := by
  intro hset
  -- what was done before the key is set, with the write and the drop in it
  let past := first ++ ⟨request, .store (.directory (.setActive id false)), reply⟩ ::
    (between ++ ⟨request, .store (.keyValue (.delete (ContextCache.keyFor .staff id))), reply'⟩ ::
      others)
  have hpast : stage.journal = past ++ deed :: later := by
    rw [hjournal, hrest]
    simp [past]
  have hdrop : stage.journal = (first ++
      ⟨request, .store (.directory (.setActive id false)), reply⟩ :: between) ++
        ⟨request, .store (.keyValue (.delete (ContextCache.keyFor .staff id))), reply'⟩ ::
          rest := by
    rw [hjournal, List.append_assoc, List.cons_append]
  obtain ⟨task, next, -, hpath⟩ := hsound.exists_ask hpast
  have hmay : CachesActive (fun call reply => Genuine call reply ∧
      ⟨call, reply⟩ ∈ exchangesOf deed.request past) id deed.exchange.call := by
    refine (Program.Within.follows (task.job.cachesActive service (fun _ _ h => h.1)) hpath ?_).1
    intro exchange hmem
    refine ⟨hgenuine ⟨deed.request, exchange⟩ ?_, hmem⟩
    rw [hpast]
    exact List.mem_append_left _ (mem_exchangesOf.1 hmem)
  rw [hcall] at hmay
  cases setting with
  | setIfAbsent key value ttl => exact hmay hset.1
  | set key value ttl =>
    obtain ⟨member, ⟨-, hread⟩, hactive⟩ := hmay hset.1
    -- the member was said to be active, so the row was read before the write
    rcases List.mem_append.1 (mem_exchangesOf.1 hread) with hearly | hlate
    · obtain ⟨read, hlt, hmade⟩ := exists_madeAt_lt hjournal hearly
      refine hback ⟨read, _, (first ++
        ⟨request, .store (.directory (.setActive id false)), reply⟩ :: between).length,
        past.length, _, value, ttl, hlt, ?_, hmade, madeAt_length hjournal, ?_, ?_⟩
      · simp only [past, List.length_append, List.length_cons]
        omega
      · exact madeAt_length hdrop
      · rw [← hset.1, ← hcall]
        exact madeAt_length hpast
    · rcases List.mem_cons.1 hlate with heq | hlate
      · cases heq
      have hmem : (⟨deed.request, .store (.directory (.getStaff id)), .ok (some member)⟩ : Deed) ∈
          between ++ ⟨request, .store (.keyValue (.delete (ContextCache.keyFor .staff id))),
            reply'⟩ :: rest := by
        rcases List.mem_append.1 hlate with hbetween | hothers
        · exact List.mem_append_left _ hbetween
        · rw [hrest]
          rcases List.mem_cons.1 hothers with heq | hothers
          · cases heq
          · simp [hothers]
      rw [hbarred _ hmem rfl member rfl] at hactive
      cases hactive
  | _ => cases hset

/-- After a deactivation has dropped the context, none is found in the cache, unless it is written
back. -/
theorem uncached_of_not_writesBack {service : Service} {start : World}
    {stage : Stage Operation (Except AuthError Answer)}
    (hsound : stage.Sound (Operation.request service))
    (hchronicle : Chronicle start stage.journal stage.world)
    (hgenuine : ∀ deed ∈ stage.journal, Genuine deed.exchange.call deed.exchange.reply)
    (hjournal : stage.journal = first ++
      ⟨request, .store (.directory (.setActive id false)), reply⟩ ::
        (between ++ ⟨request, .store (.keyValue (.delete (ContextCache.keyFor .staff id))),
          reply'⟩ :: rest))
    (hbarred : ∀ deed ∈ between ++
      ⟨request, .store (.keyValue (.delete (ContextCache.keyFor .staff id))), reply'⟩ :: rest,
        Barred id deed.exchange.call deed.exchange.reply)
    (hback : ¬ WritesBack stage.journal request id) :
    ∀ deed ∈ rest, Uncached id deed.exchange.call deed.exchange.reply := by
  rw [hjournal] at hchronicle
  obtain ⟨_, _, _, -, -, htail⟩ := hchronicle.split
  obtain ⟨world, world', around, -, hdrop, hrest⟩ := htail.split
  have habsent : ∀ entry ∈ world'.keyValue.entries,
      entry.key ≠ ContextCache.keyFor .staff id := by
    have hkeyValue := World.handler_keyValue around
      (.store (.keyValue (.delete (ContextCache.keyFor .staff id)))) world
    rw [hdrop] at hkeyValue
    rw [hkeyValue]
    exact fun entry hmem => (KeyValue.Table.mem_erase.1 hmem).2
  refine (hrest.keeps
    (fun world => ∀ entry ∈ world.keyValue.entries, entry.key ≠ ContextCache.keyFor .staff id)
    (fun _ call => ∀ setting value, call = .store (.keyValue setting) →
      ¬ setting.Sets (ContextCache.keyFor .staff id) value) (Uncached id) ?_ ?_ ?_ habsent).2
  · intro others deed later heq _ setting value hcall
    exact not_sets_of_not_writesBack hsound hgenuine hjournal hbarred hback heq hcall
  · exact fun _ around call world hworld hcall => World.uncached_handler hworld hcall around
  · exact fun _ _ hworld => hworld

end Final

/-- A deactivation is final, in whatever order requests take turns, unless the member is activated
again or a context that was read before is written back after it: whatever the member asks for, and
every refresh of one of the member's sessions, does not break off and fails, if the first call for
it is made after the deactivation has succeeded. -/
theorem deactivation_final {service : Service} {start : World}
    {first second : List (Turn Operation)}
    {before after : Stage Operation (Except AuthError Answer)}
    (hbefore : ({ world := start } : Stage _ _).run (Operation.request service) first = before)
    (hafter : before.run (Operation.request service) second = after)
    {request : Nat} {claims : Token.Claims} {id : PrincipalId}
    (hended : before.tasks[request]? =
      some ⟨.setActive claims id false, .done (.ok .done), false⟩)
    (hactive : ¬ Reactivates after.journal request id)
    (hback : ¬ WritesBack after.journal request id)
    {number : Nat} {task : Task Operation (Except AuthError Answer)}
    (htask : after.tasks[number]? = some task)
    (hlater : ∀ deed ∈ before.journal, deed.request ≠ number) :
    (∀ claims, task.job.claims? = some claims → claims.kind = .staff → claims.subject = id →
        task.Fails .principalNotFound) ∧
      ∀ token, task.job = .refresh .staff token →
        (∀ row : Session.Row, ⟨number, .store (.session (.find .staff token)), .ok row⟩ ∈
            after.journal → row.principalId = id) →
          task.Fails .refreshTokenInvalid := by
  have hrun : ({ world := start } : Stage _ _).run (Operation.request service) (first ++ second) =
      after := by
    rw [Stage.run_append, hbefore, hafter]
  have hsound : after.Sound (Operation.request service) := hrun ▸ .run (first ++ second) start
  have hchronicle : Chronicle start after.journal after.world :=
    hrun ▸ Stage.chronicle_run (first ++ second) start
  have hgenuine : ∀ deed ∈ after.journal, Genuine deed.exchange.call deed.exchange.reply :=
    (hchronicle.keeps (fun _ => True) (fun _ _ => True) Genuine (fun _ _ _ _ _ => trivial)
      (fun _ around call world _ _ => ⟨trivial, World.genuine_handler around call world⟩)
      (fun _ _ _ => trivial) trivial).2
  have hold : before.Sound (Operation.request service) := hbefore ▸ .run first start
  obtain ⟨since, hsince, -⟩ := (hafter ▸ Stage.Grows.run second before : before.Grows after).since
  obtain ⟨past, between, rest, reply, reply', hjournal⟩ := hold.exists_write_drop hended
  have hsplit : after.journal = past ++
      ⟨request, .store (.directory (.setActive id false)), reply⟩ ::
        (between ++ ⟨request, .store (.keyValue (.delete (ContextCache.keyFor .staff id))),
          reply'⟩ :: (rest ++ since)) := by
    rw [hsince, hjournal]
    simp
  have hbarred := barred_of_not_reactivates hchronicle hsplit hactive
  have huncached := uncached_of_not_writesBack hsound hchronicle hgenuine hsplit hbarred hback
  -- the request has made all its calls since then
  have hreplies : ∀ exchange ∈ exchangesOf number after.journal,
      (Genuine exchange.call exchange.reply ∧ Barred id exchange.call exchange.reply ∧
        Uncached id exchange.call exchange.reply) ∧ ⟨number, exchange⟩ ∈ after.journal := by
    intro exchange hmem
    have hdeed := mem_exchangesOf.1 hmem
    have hin : ⟨number, exchange⟩ ∈ rest ++ since := by
      rw [hsince] at hdeed
      rcases List.mem_append.1 hdeed with hearly | hlate
      · exact absurd rfl (hlater _ hearly)
      · exact List.mem_append_right _ hlate
    have hbar := hbarred ⟨number, exchange⟩
      (List.mem_append_right _ (List.mem_cons_of_mem _ hin))
    exact ⟨⟨hgenuine _ hdeed, hbar, huncached _ hin⟩, hdeed⟩
  have hfails {error : AuthError} (hends : (task.job.request service).Within AlwaysAnswered
      (fun call reply =>
        (Genuine call reply ∧ Barred id call reply ∧ Uncached id call reply) ∧
          ⟨number, call, reply⟩ ∈ after.journal)
      (fun outcome => outcome = .error error)) : task.Fails error :=
    hsound.fails htask _ hends hreplies
  refine ⟨?_, ?_⟩
  · intro claims hclaims hkind hsubject
    exact hfails (Operation.ends_barred (fun _ _ h => h.1) hclaims hkind hsubject)
  · intro token hjob howner
    refine hfails ?_
    rw [hjob]
    refine (Service.refresh_ends_barred (fun _ _ h => h.1) (fun row hrow => howner row hrow.2)).map
      ?_
    rintro _ rfl
    rfl

/-- The claims of the second of two members of staff. -/
def Token.Claims.plainOther : Token.Claims := ⟨2, .staff, "amy", none, .empty, 0, 0, ""⟩

/-- A stage on which nothing has happened to two members of staff. -/
def Stage.plainPair : Stage Operation (Except AuthError Answer) :=
  { world := .fresh ⟨⟨0⟩, .zero⟩ .plainPair }

/-- The first member deactivates the second, and nothing else happens. -/
def Turn.plainDeactivation : List (Turn Operation) :=
  .begin (.setActive .plain 2 false) :: List.replicate 7 (.proceed 0 .plain)

/-- After that the second member asks for the present context. -/
def Turn.plainQuestion : List (Turn Operation) :=
  .begin (.permissions .plainOther) :: List.replicate 2 (.proceed 1 .plain)

/-- A deactivation that nobody interferes with is final: the member's question fails. -/
theorem deactivation_final_question :
    ∃ task, ((Stage.plainPair.run (Operation.request .plain) Turn.plainDeactivation).run
        (Operation.request .plain) Turn.plainQuestion).tasks[1]? = some task ∧
      task.rest = .done (.error .principalNotFound) ∧ task.Fails .principalNotFound := by
  have hended : (Stage.plainPair.run (Operation.request .plain) Turn.plainDeactivation).tasks[0]? =
      some ⟨.setActive .plain 2 false, .done (.ok .done), false⟩ := rfl
  have hcalls : callsIn ((Stage.plainPair.run (Operation.request .plain)
      Turn.plainDeactivation).run (Operation.request .plain) Turn.plainQuestion).journal =
      [.store (.keyValue (.get (ContextCache.keyFor .staff 1))),
        .store (.directory (.getStaff 1)),
        .store (.directory (.storeList 1 .superAdmin)),
        .store (.keyValue (.set (ContextCache.keyFor .staff 1)
          (Context.write ⟨1, .staff, "root", some .superAdmin, .empty⟩) (.ofSeconds 60))),
        .store (.directory (.getStaff 2)),
        .store (.directory (.setActive 2 false)),
        .store (.keyValue (.delete (ContextCache.keyFor .staff 2))),
        .store (.keyValue (.get (ContextCache.keyFor .staff 2))),
        .store (.directory (.getStaff 2))] := rfl
  have htask : ((Stage.plainPair.run (Operation.request .plain) Turn.plainDeactivation).run
      (Operation.request .plain) Turn.plainQuestion).tasks[1]? =
        some ⟨.permissions .plainOther, .done (.error .principalNotFound), false⟩ := rfl
  have hbefore : ({ world := .fresh ⟨⟨0⟩, .zero⟩ .plainPair } : Stage _ _).run
      (Operation.request .plain) Turn.plainDeactivation =
        Stage.plainPair.run (Operation.request .plain) Turn.plainDeactivation := rfl
  refine ⟨_, htask, rfl, ?_⟩
  refine (deactivation_final hbefore rfl hended ?_ ?_ htask (by decide)).1 .plainOther rfl rfl rfl
  · rintro ⟨_, _, _, -, -, hmade⟩
    have hmem := hmade.mem_calls
    rw [hcalls] at hmem
    simp at hmem
  · rintro ⟨_, _, _, _, _, _, _, -, -, -, -, -, hmade⟩
    have hmem := hmade.mem_calls
    rw [hcalls] at hmem
    simp [ContextCache.keyFor_inj] at hmem

/-- The second member asks for the present context, and is deactivated before it can be cached. -/
def Turn.plainRace : List (Turn Operation) :=
  .begin (.permissions .plainOther) :: List.replicate 3 (.proceed 0 .plain) ++
    .begin (.setActive .plain 2 false) :: List.replicate 7 (.proceed 1 .plain)

/-- The context is cached after that, and the member asks again. -/
def Turn.plainReturn : List (Turn Operation) :=
  [.proceed 0 .plain, .begin (.permissions .plainOther), .proceed 2 .plain]

/-- A deactivation is not final as such: a member of staff who has been deactivated, and never
activated again, still has a context for a request whose first call is made after that, because a
context that was read before is written back. -/
theorem deactivation_outlived :
    (Stage.plainPair.run (Operation.request .plain) Turn.plainRace).tasks[1]? =
        some ⟨.setActive .plain 2 false, .done (.ok .done), false⟩ ∧
      (∀ deed ∈ (Stage.plainPair.run (Operation.request .plain) Turn.plainRace).journal,
        deed.request ≠ 2) ∧
      ¬ Reactivates ((Stage.plainPair.run (Operation.request .plain) Turn.plainRace).run
        (Operation.request .plain) Turn.plainReturn).journal 1 2 ∧
      ((Stage.plainPair.run (Operation.request .plain) Turn.plainRace).run
        (Operation.request .plain) Turn.plainReturn).tasks[2]? =
          some ⟨.permissions .plainOther,
            .done (.ok (.context ⟨2, .staff, "amy", some .stylist, .empty⟩)), false⟩ := by
  refine ⟨rfl, by decide, ?_, rfl⟩
  rintro ⟨_, _, _, -, -, hmade⟩
  have hmem := hmade.mem_calls
  have hcalls : callsIn ((Stage.plainPair.run (Operation.request .plain) Turn.plainRace).run
      (Operation.request .plain) Turn.plainReturn).journal =
      [.store (.keyValue (.get (ContextCache.keyFor .staff 2))),
        .store (.directory (.getStaff 2)),
        .store (.directory (.storeList 2 .stylist)),
        .store (.keyValue (.get (ContextCache.keyFor .staff 1))),
        .store (.directory (.getStaff 1)),
        .store (.directory (.storeList 1 .superAdmin)),
        .store (.keyValue (.set (ContextCache.keyFor .staff 1)
          (Context.write ⟨1, .staff, "root", some .superAdmin, .empty⟩) (.ofSeconds 60))),
        .store (.directory (.getStaff 2)),
        .store (.directory (.setActive 2 false)),
        .store (.keyValue (.delete (ContextCache.keyFor .staff 2))),
        .store (.keyValue (.set (ContextCache.keyFor .staff 2)
          (Context.write ⟨2, .staff, "amy", some .stylist, .empty⟩) (.ofSeconds 60))),
        .store (.keyValue (.get (ContextCache.keyFor .staff 2)))] := rfl
  rw [hcalls] at hmem
  simp at hmem

end Gatehouse
