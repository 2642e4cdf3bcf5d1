import Gatehouse.Proofs.Execution
import Gatehouse.Proofs.Session

/-!
# Refreshing and the history

A refresh token works exactly as long as the history says so: from the sign-in that gave it until
its lifetime ends or it is signed out, and for staff only while the directory lets the owner sign
in. Sweeps, the cache and all other operations make no difference. The invariant is that the live
sessions, now and later, are those that the history left standing (`Ledger`); every scene keeps it
(`Ledger.enact`). Main statement: `refresh_ok_iff_standing`.
-/

namespace Gatehouse

namespace Event

/-- What a sign-in that succeeded opened a session for: the kind, the refresh token and the owner.
-/
def opened? (event : Event) : Option (PrincipalKind × String × PrincipalId) :=
  match event.move.signsIn?, event.outcome with
  | some kind, some (.ok (.signedIn given)) =>
    some (kind, given.refreshToken, given.context.principalId)
  | _, _ => none

/-- The event is a sign-out of a refresh token. -/
def Closes (event : Event) (kind : PrincipalKind) (token : String) : Prop :=
  event.move = .operation (.signOut kind token)

/-- The event opens or closes a session of a refresh token. -/
def Touches (event : Event) (kind : PrincipalKind) (token : String) : Prop :=
  event.Closes kind token ∨ ∃ owner, event.opened? = some (kind, token, owner)

end Event

/-- The history leaves a session standing: its refresh token was given to the owner at a time, and
since then there was neither a sign-out nor another sign-in with that token. -/
def Standing (history : List Event) (kind : PrincipalKind) (token : String) (owner : PrincipalId)
    (opened : Timestamp) : Prop :=
  ∃ before entry after, history = before ++ entry :: after ∧
    entry.opened? = some (kind, token, owner) ∧ entry.clock.now = opened ∧
      ∀ later ∈ after, ¬ later.Touches kind token

variable {service : Service} {history : List Event} {event : Event} {kind : PrincipalKind}
  {token : String} {owner : PrincipalId} {opened : Timestamp}

/-- Nothing stands before anything has happened. -/
theorem not_standing_nil : ¬ Standing [] kind token owner opened := by
  rintro ⟨before, entry, after, h, -⟩
  simp at h

/-- What stands after one more event is what the event opened, and what stood before and the event
did not touch. -/
theorem standing_concat :
    Standing (history ++ [event]) kind token owner opened ↔
      (event.opened? = some (kind, token, owner) ∧ event.clock.now = opened) ∨
        (Standing history kind token owner opened ∧ ¬ event.Touches kind token) := by
  constructor
  · rintro ⟨before, entry, after, hsplit, hopened, htime, hafter⟩
    -- the sign-in is the new event itself, or lies before it
    rcases List.eq_nil_or_concat after with rfl | ⟨rest, last, rfl⟩
    · obtain ⟨-, hentry⟩ := List.append_inj' hsplit rfl
      cases hentry
      exact .inl ⟨hopened, htime⟩
    · rw [List.concat_eq_append, ← List.cons_append, ← List.append_assoc] at hsplit
      obtain ⟨hhistory, hlast⟩ := List.append_inj' hsplit rfl
      cases hlast
      refine .inr ⟨⟨before, entry, rest, hhistory, hopened, htime, ?_⟩, ?_⟩
      · intro later hlater
        exact hafter later (by simp [hlater])
      · exact hafter event (by simp)
  · rintro (⟨hopened, htime⟩ | ⟨⟨before, entry, after, rfl, hopened, htime, hafter⟩, htouches⟩)
    · exact ⟨history, event, [], rfl, hopened, htime, by rintro _ ⟨⟩⟩
    · refine ⟨before, entry, after ++ [event], by simp, hopened, htime, ?_⟩
      intro later hlater
      rcases List.mem_append.1 hlater with hold | hnew
      · exact hafter later hold
      · obtain rfl := List.mem_singleton.1 hnew
        exact htouches

/-! ## The live sessions are those that stand -/

/-- The live sessions, now and later, are those that the history left standing, and customers who
own one are still there. -/
structure Ledger (service : Service) (history : List Event) (world : World) : Prop where
  /-- A kind and a token name at most one row. -/
  distinct : world.sessions.Distinct
  /-- The live sessions are those that stand and are within their lifetime. -/
  holds_iff : ∀ kind token owner time, world.clock.now.nanos ≤ time.nanos →
    (world.sessions.Holds kind token owner time ↔
      ∃ opened, Standing history kind token owner opened ∧
        time.nanos < (opened.after service.refreshTtl).nanos)
  /-- The owners of customers' sessions are there. -/
  customers : ∀ token owner opened, Standing history .customer token owner opened →
    (world.directory.customer? owner).isSome

/-- At the start no session is live. -/
theorem ledger_fresh (service : Service) (clock : Clock) (directory : Directory.Table) :
    Ledger service [] (.fresh clock directory) := by
  refine ⟨List.Pairwise.nil, ?_, ?_⟩
  · intro kind token owner time _
    constructor
    · rintro ⟨row, ⟨⟩, -⟩
    · rintro ⟨opened, hstanding, -⟩
      exact absurd hstanding not_standing_nil
  · intro token owner opened hstanding
    exact absurd hstanding not_standing_nil

namespace Ledger

variable {world world' : World}

/-- An event that touches no session, and leaves the live ones as they are, keeps the ledger. -/
theorem quiet (h : Ledger service history world)
    (hevent : ∀ kind token, ¬ event.Touches kind token)
    (hclock : world.clock.now.nanos ≤ world'.clock.now.nanos)
    (hdistinct : world'.sessions.Distinct)
    (hholds : ∀ kind token owner time, world'.clock.now.nanos ≤ time.nanos →
      (world'.sessions.Holds kind token owner time ↔
        world.sessions.Holds kind token owner time))
    (hcustomers : ∀ id, (world.directory.customer? id).isSome →
      (world'.directory.customer? id).isSome) :
    Ledger service (history ++ [event]) world' := by
  have hstanding {kind token owner opened} :
      Standing (history ++ [event]) kind token owner opened ↔
        Standing history kind token owner opened := by
    rw [standing_concat]
    constructor
    · rintro (⟨hopened, -⟩ | ⟨hstood, -⟩)
      · exact absurd (.inr ⟨owner, hopened⟩) (hevent kind token)
      · exact hstood
    · exact fun hstood => .inr ⟨hstood, hevent kind token⟩
  refine ⟨hdistinct, ?_, ?_⟩
  · intro kind token owner time htime
    rw [hholds kind token owner time htime,
      h.holds_iff kind token owner time (Int.le_trans hclock htime)]
    simp only [hstanding]
  · intro token owner opened hstood
    exact hcustomers owner (h.customers token owner opened (hstanding.1 hstood))

/-- An event that opens a session keeps the ledger when the session is stored. -/
theorem opens (h : Ledger service history world) {new : Session.New}
    (hopened : event.opened? = some (new.kind, new.token, new.principalId))
    (hcloses : ∀ kind token, ¬ event.Closes kind token)
    (htime : event.clock = world.clock) (hclock : world'.clock = world.clock)
    (hfree : world.sessions.row? new.kind new.token = none) (httl : new.ttl = service.refreshTtl)
    (hsessions : world'.sessions = (world.sessions.create world.clock.now new).2)
    (howner : new.kind = .customer → (world'.directory.customer? new.principalId).isSome)
    (hcustomers : ∀ id, (world.directory.customer? id).isSome →
      (world'.directory.customer? id).isSome) :
    Ledger service (history ++ [event]) world' := by
  have htouches {kind token} :
      event.Touches kind token ↔ new.kind = kind ∧ new.token = token := by
    rw [Event.Touches, hopened]
    constructor
    · rintro (hclose | ⟨owner, heq⟩)
      · exact absurd hclose (hcloses kind token)
      · cases heq
        exact ⟨rfl, rfl⟩
    · rintro ⟨rfl, rfl⟩
      exact .inr ⟨_, rfl⟩
  refine ⟨?_, ?_, ?_⟩
  · rw [hsessions]
    exact h.distinct.create new
  · intro kind token owner time hle
    rw [hclock] at hle
    have hold := h.holds_iff kind token owner time hle
    -- the token was free, so nothing was live under its name
    have hnamed : new.kind = kind → new.token = token →
        ¬ world.sessions.Holds kind token owner time := by
      rintro rfl rfl ⟨row, hmem, hrow, -⟩
      rw [Session.Table.row?_eq_none_iff.1 hfree row hmem] at hrow
      cases hrow
    rw [hsessions, Session.Table.holds_create hfree, httl]
    -- the new row and the new event agree on time and lifetime
    constructor
    · rintro (hholds | ⟨rfl, rfl, rfl, hlive⟩)
      · obtain ⟨opened, hstood, hlive⟩ := hold.1 hholds
        refine ⟨opened, standing_concat.2 (.inr ⟨hstood, ?_⟩), hlive⟩
        rw [htouches]
        rintro ⟨hkind, htoken⟩
        exact hnamed hkind htoken hholds
      · exact ⟨_, standing_concat.2 (.inl ⟨hopened, rfl⟩), htime ▸ hlive⟩
    · rintro ⟨opened, hstanding, hlive⟩
      rcases standing_concat.1 hstanding with ⟨heq, rfl⟩ | ⟨hstood, -⟩
      · rw [hopened] at heq
        cases heq
        exact .inr ⟨rfl, rfl, rfl, htime ▸ hlive⟩
      · exact .inl (hold.2 ⟨opened, hstood, hlive⟩)
  · intro token owner opened hstanding
    rcases standing_concat.1 hstanding with ⟨heq, -⟩ | ⟨hstood, -⟩
    · rw [hopened] at heq
      obtain ⟨hkind, -, rfl⟩ : new.kind = .customer ∧ new.token = token ∧
          new.principalId = owner := by simpa using heq
      exact howner hkind
    · exact hcustomers owner (h.customers token owner opened hstood)

/-- A sign-out keeps the ledger when the session is revoked. -/
theorem closes (h : Ledger service history world) (hcloses : event.Closes kind token)
    (hclock : world'.clock = world.clock)
    (hsessions : world'.sessions = (world.sessions.revoke world.clock.now kind token).2)
    (hcustomers : ∀ id, (world.directory.customer? id).isSome →
      (world'.directory.customer? id).isSome) :
    Ledger service (history ++ [event]) world' := by
  have hnone : event.opened? = none := by
    rw [Event.opened?, hcloses]
    rfl
  have htouches {other otherToken} :
      event.Touches other otherToken ↔ other = kind ∧ otherToken = token := by
    rw [Event.Touches, hnone, Event.Closes, hcloses]
    constructor
    · rintro (heq | ⟨owner, heq⟩)
      · cases heq
        exact ⟨rfl, rfl⟩
      · cases heq
    · rintro ⟨rfl, rfl⟩
      exact .inl rfl
  have hstanding {other otherToken owner opened} :
      Standing (history ++ [event]) other otherToken owner opened ↔
        Standing history other otherToken owner opened ∧
          ¬ (other = kind ∧ otherToken = token) := by
    rw [standing_concat, hnone, htouches]
    simp
  refine ⟨?_, ?_, ?_⟩
  · rw [hsessions]
    exact h.distinct.revoke
  · intro other otherToken owner time hle
    rw [hclock] at hle
    rw [hsessions, Session.Table.holds_revoke h.distinct hle,
      h.holds_iff other otherToken owner time hle]
    simp only [hstanding]
    constructor
    · rintro ⟨⟨opened, hstood, hlive⟩, hother⟩
      exact ⟨opened, ⟨hstood, hother⟩, hlive⟩
    · rintro ⟨opened, ⟨hstood, hother⟩, hlive⟩
      exact ⟨⟨opened, hstood, hlive⟩, hother⟩
  · intro token owner opened hstood
    exact hcustomers owner (h.customers token owner opened (hstanding.1 hstood).1)

end Ledger

/-! ## Calls that leave live sessions as they are -/

/-- The calls that neither store nor revoke a session. -/
def Dozes : RequestCall → Prop
  | .store (.session (.create _)) => False
  | .store (.session (.revoke _ _)) => False
  | _ => True

/-- Since `world` the live sessions have stayed as they were, and no customer has gone. -/
structure Lingers (world world' : World) : Prop where
  /-- Time has not gone back. -/
  clock : world.clock.now.nanos ≤ world'.clock.now.nanos
  /-- A kind and a token name at most one row. -/
  distinct : world'.sessions.Distinct
  /-- What is live from now on would have been live, too. -/
  holds_iff : ∀ kind token owner time, world'.clock.now.nanos ≤ time.nanos →
    (world'.sessions.Holds kind token owner time ↔ world.sessions.Holds kind token owner time)
  /-- No customer has gone. -/
  customers : ∀ id, (world.directory.customer? id).isSome → (world'.directory.customer? id).isSome

/-- No call removes a customer. -/
theorem World.isSome_customer?_handler (around : Surroundings) (call : RequestCall) (world : World)
    {id : PrincipalId} (h : (world.directory.customer? id).isSome) :
    ((World.handler around call world).2.directory.customer? id).isSome := by
  rw [World.handler_directory]
  split
  · exact Directory.Table.isSome_customer?_answer _ h
  · exact h

/-- Calls that neither store nor revoke a session leave the live sessions as they are. -/
theorem Lingers.handler {world world' : World} (h : Lingers world world') (around : Surroundings)
    (call : RequestCall) (hcall : Dozes call) :
    Lingers world (World.handler around call world').2 := by
  have hclock := World.now_handler_le around call world'
  have hsessions : (World.handler around call world').2.sessions.Distinct ∧
      ∀ kind token owner time, world'.clock.now.nanos ≤ time.nanos →
        ((World.handler around call world').2.sessions.Holds kind token owner time ↔
          world'.sessions.Holds kind token owner time) := by
    rw [World.handler_sessions]
    split
    · rename_i call
      cases call with
      | create new => cases hcall
      | revoke kind token => cases hcall
      | deleteSweepable kind batchSize =>
        -- a batch takes only rows that are not live, now or later
        exact ⟨h.distinct.deleteSweepable batchSize, fun _ _ _ _ hle =>
          Session.Table.holds_deleteSweepable batchSize hle⟩
      | find => exact ⟨h.distinct, fun _ _ _ _ _ => Iff.rfl⟩
      | countSweepable => exact ⟨h.distinct, fun _ _ _ _ _ => Iff.rfl⟩
    · exact ⟨h.distinct, fun _ _ _ _ _ => Iff.rfl⟩
  -- what is live after the call is compared at later times only
  refine ⟨Int.le_trans h.clock hclock, hsessions.1, ?_, ?_⟩
  · intro kind token owner time hle
    have hle' := Int.le_trans hclock hle
    exact (hsessions.2 kind token owner time hle').trans (h.holds_iff kind token owner time hle')
  · exact fun id hid => World.isSome_customer?_handler around call world' (h.customers id hid)

/-- A program that neither stores nor revokes a session leaves the live sessions as they are. -/
theorem Lingers.run {α : Type} {world : World} (hdistinct : world.sessions.Distinct)
    (around : Surroundings) {program : Request α} {post : α → Prop}
    (h : Program.Within (I := requests) Dozes (fun _ _ => True) post program) :
    Lingers world (program.run (World.handler around) world).2 := by
  have hstart : Lingers world world :=
    ⟨Int.le_refl _, hdistinct, fun _ _ _ _ _ => Iff.rfl, fun _ hid => hid⟩
  have hkeep (call : RequestCall) (world' : World) (hworld : Lingers world world')
      (hcall : Dozes call) : Lingers world (World.handler around call world').2 ∧
        ∀ reply ∈ (World.handler around call world').1, True :=
    ⟨hworld.handler around call hcall, fun _ _ => trivial⟩
  exact (h.run hkeep hstart).1

/-- An operation that is neither a sign-in nor a sign-out neither stores nor revokes a session. -/
theorem Operation.dozes (service : Service) (operation : Operation)
    (hsignIn : (Move.operation operation).signsIn? = none)
    (hsignOut : ∀ kind token, operation ≠ .signOut kind token) :
    Action.Within Dozes (fun _ _ => True) (fun _ => True) (operation.action service) := by
  have licence : service.Licence Dozes (fun _ _ => True) := by
    refine ⟨?_, fun _ _ => trivial, fun _ _ => trivial, fun _ _ _ _ => trivial⟩
    rintro ((_ | call | _) | _) hlooks
    · trivial
    · cases call <;> trivial
    · trivial
    · trivial
  refine Operation.within licence operation ?_
  intro call hcall
  cases operation with
  | signInStaff => cases hsignIn
  | signInCustomer => cases hsignIn
  | signOut kind token => exact absurd rfl (hsignOut kind token)
  | refresh => cases hcall
  | permissions => cases hcall
  | authorize => cases hcall
  | changePassword => obtain ⟨_, _, _, -, -, rfl⟩ := hcall; trivial
  | changeRole => obtain ⟨_, _, _, -, -, -, rfl⟩ := hcall; trivial
  | setActive => obtain ⟨_, _, _, -, -, rfl⟩ := hcall; trivial
  | grantStores => obtain ⟨_, _, _, -, -, -, rfl⟩ := hcall; trivial
  | revokeStores => obtain ⟨_, _, _, -, -, -, rfl⟩ := hcall; trivial

/-- A sweep neither stores nor revokes a session. -/
theorem Sweep.dozes (settings : SweepSettings) (purges : Bool) :
    Program.Within (I := requests) Dozes (fun _ _ => True) (fun _ => True)
      (Sweep.runOnce settings purges) := by
  refine Sweep.runOnce_within ?_ purges
  rintro ((_ | call | _) | _) hcall
  · trivial
  · obtain ⟨kind, rfl | rfl⟩ := hcall <;> trivial
  · trivial
  · trivial

namespace Ledger

variable {world world' : World}

/-! ## Every scene keeps the ledger -/

/-- A sign-in closes nothing. -/
theorem not_closes_of_signsIn? (h : event.move.signsIn? = some kind) (other : PrincipalKind)
    (token : String) : ¬ event.Closes other token := by
  intro hcloses
  rw [hcloses] at h
  cases h

/-- The ledger depends on the directory only in that the customers are there. -/
theorem of_directory (h : Ledger service history world) {directory : Directory.Table}
    (hcustomers : ∀ id, (world.directory.customer? id).isSome →
      (directory.customer? id).isSome) :
    Ledger service history { world with directory } :=
  ⟨h.distinct, h.holds_iff, fun token owner opened hstanding =>
    hcustomers owner (h.customers token owner opened hstanding)⟩

/-- A sign-in that opens no session keeps the ledger. -/
theorem refused (h : Ledger service history world) (hmove : event.move.signsIn? = some kind)
    (hfail : ∀ given, event.outcome ≠ some (.ok (.signedIn given)))
    (hclock : world'.clock = world.clock) (hrows : world'.sessions.rows = world.sessions.rows)
    (hdirectory : world'.directory = world.directory) :
    Ledger service (history ++ [event]) world' := by
  have hevent (kind : PrincipalKind) (token : String) : ¬ event.Touches kind token := by
    rintro (hcloses | ⟨owner, hopened⟩)
    · exact not_closes_of_signsIn? hmove kind token hcloses
    · rw [Event.opened?, hmove] at hopened
      split at hopened
      · rename_i houtcome
        exact hfail _ houtcome
      · cases hopened
  refine h.quiet hevent (Int.le_of_eq (by rw [hclock])) ?_ ?_ ?_
  · rw [Session.Table.Distinct, hrows]
    exact h.distinct
  · intro kind token owner time _
    rw [Session.Table.Holds, hrows]
    rfl
  · rw [hdirectory]
    exact fun _ hid => hid

/-- Opening a session in the course of a sign-in keeps the ledger. -/
theorem openSession (h : Ledger service history world) (around : Surroundings) {move : Move}
    {context : Context} (hmove : move.signsIn? = some context.kind)
    (howner : context.kind = .customer →
      (world.directory.customer? context.principalId).isSome)
    (hshow : world.clock.CanShow service.contextTtl) (client : ClientInfo)
    {outcome : Option (Except AuthError SignedIn)}
    (hrun : Action.perform (World.handler around) (service.openSession context client) world =
      (outcome, world')) :
    Ledger service
      (history ++ [⟨world.clock, move, outcome.map (Except.map Answer.signedIn)⟩]) world' := by
  obtain ⟨new, hnew⟩ : ∃ new, service.newSession around world context client = new := ⟨_, rfl⟩
  have hkind : new.kind = context.kind := by rw [← hnew]; rfl
  have hid : new.principalId = context.principalId := by rw [← hnew]; rfl
  rw [Service.perform_openSession around world service context client hnew] at hrun
  -- a taken token refuses the sign-in, and a free one opens the session
  cases hrow : world.sessions.row? new.kind new.token with
  | some row =>
    obtain ⟨⟨error, herror⟩, hrows⟩ := Session.Table.create_of_taken
      (show world.sessions.row? new.kind new.token ≠ none by simp [hrow]) world.clock.now
    rw [herror] at hrun
    cases hrun
    exact h.refused hmove (by rintro _ ⟨⟩) rfl hrows rfl
  | none =>
    obtain ⟨deadline, hdeadline⟩ := Option.isSome_iff_exists.1 hshow
    rw [(Session.Table.create_of_free hrow world.clock.now).1, hdeadline] at hrun
    cases hrun
    have hopened : (⟨world.clock, move, some (.ok (.signedIn
        (service.signedIn around world context client)))⟩ : Event).opened? =
          some (new.kind, new.token, new.principalId) := by
      rw [Event.opened?, hmove, ← hnew]
      rfl
    refine h.opens hopened (not_closes_of_signsIn? hmove) rfl rfl hrow ?_ rfl ?_ (fun _ hid => hid)
    · rw [← hnew]
      rfl
    · rw [hkind, hid]
      exact howner

/-- An event that touches no session keeps the ledger if the live sessions stay as they are. -/
theorem lingers (h : Ledger service history world)
    (hevent : ∀ kind token, ¬ event.Touches kind token) (hlingers : Lingers world world') :
    Ledger service (history ++ [event]) world' :=
  h.quiet hevent hlingers.clock hlingers.distinct hlingers.holds_iff hlingers.customers

/-- Signing in a member of staff keeps the ledger. -/
theorem signInStaff (h : Ledger service history world) (around : Surroundings)
    (hshow : world.clock.CanShow service.contextTtl) (username password : String)
    (client : ClientInfo) {outcome : Option (Except AuthError SignedIn)}
    (hrun : Action.perform (World.handler around)
      (service.signInStaff username password client) world = (outcome, world')) :
    Ledger service (history ++ [⟨world.clock, .operation (.signInStaff username password client),
      outcome.map (Except.map Answer.signedIn)⟩]) world' := by
  rw [Service.perform_signInStaff] at hrun
  split at hrun
  · cases hrun
    exact h.refused rfl (by rintro _ ⟨⟩) rfl rfl rfl
  split at hrun
  · cases hrun
    exact h.refused rfl (by rintro _ ⟨⟩) rfl rfl rfl
  split at hrun
  · cases hrun
    exact h.refused rfl (by rintro _ ⟨⟩) rfl rfl rfl
  · rename_i context hcontext
    have hkind := (Context.isFor_iff.1 (Directory.Table.isFor_of_context? hcontext)).1
    refine h.openSession around (by rw [hkind]; rfl) ?_ hshow client hrun
    rw [hkind]
    rintro ⟨⟩

/-- Signing in a customer keeps the ledger. -/
theorem signInCustomer (h : Ledger service history world) (around : Surroundings)
    (hshow : world.clock.CanShow service.contextTtl) (idToken : String)
    (client : ClientInfo) {outcome : Option (Except AuthError SignedIn)}
    (hrun : Action.perform (World.handler around)
      (service.signInCustomer idToken client) world = (outcome, world')) :
    Ledger service (history ++ [⟨world.clock, .operation (.signInCustomer idToken client),
      outcome.map (Except.map Answer.signedIn)⟩]) world' := by
  rw [Service.perform_signInCustomer] at hrun
  split at hrun
  · cases hrun
    exact h.refused rfl (by rintro _ ⟨⟩) rfl rfl rfl
  split at hrun
  · cases hrun
    exact h.refused rfl (by rintro _ ⟨⟩) rfl rfl rfl
  · rename_i identity hidentity
    -- bringing the customer up to date does not touch sessions
    have hupserted : Ledger service history
        { world with directory := (world.directory.upsertCustomer identity).2 } :=
      h.of_directory (fun _ hid => Directory.Table.isSome_customer?_upsertCustomer hid)
    dsimp only at hrun
    split at hrun
    · cases hrun
      exact hupserted.refused rfl (by rintro _ ⟨⟩) rfl rfl rfl
    · rename_i context hcontext
      have hcontext : (world.directory.upsertCustomer identity).2.context? .customer _ =
        some context := hcontext
      obtain ⟨hkind, hid⟩ := Context.isFor_iff.1 (Directory.Table.isFor_of_context? hcontext)
      refine hupserted.openSession around (by rw [hkind]; rfl) ?_ hshow client hrun
      intro _
      obtain ⟨customer, hcustomer, rfl⟩ := Option.map_eq_some_iff.1 hcontext
      rw [hid, hcustomer]
      rfl

/-- Signing out keeps the ledger. -/
theorem signOut (h : Ledger service history world) (around : Surroundings)
    {outcome : Option (Except AuthError Unit)} {event : Event} (hcloses : event.Closes kind token)
    (hrun : Action.perform (World.handler around) (Service.signOut kind token) world =
      (outcome, world')) :
    Ledger service (history ++ [event]) world' := by
  rw [Service.perform_signOut] at hrun
  dsimp only at hrun
  split at hrun
  · cases hrun
    exact h.closes hcloses rfl rfl (fun _ hid => hid)
  · cases hrun
    exact h.closes hcloses rfl rfl (fun _ hid => hid)

/-- Every scene keeps the ledger, if the clock can show the end of a cached context's lifetime. -/
theorem enact (h : Ledger service history world) (scene : Scene)
    (hshow : world.clock.CanShow service.contextTtl) :
    Ledger service (history ++ [World.eventOf World.handler service scene world])
      (World.enact World.handler service scene world).2 := by
  rcases scene with ⟨around, operation | ⟨settings, purges⟩ | duration⟩
  · rcases hrun : Action.perform (World.handler around) (operation.action service) world with
      ⟨outcome, world'⟩
    simp only [World.eventOf, World.enact, hrun]
    -- all operations but sign-ins and sign-outs leave the live sessions alone
    have hother (hsignIn : (Move.operation operation).signsIn? = none)
        (hsignOut : ∀ kind token, operation ≠ .signOut kind token) :
        Ledger service (history ++ [⟨world.clock, .operation operation, outcome⟩]) world' := by
      have hlingers := Lingers.run h.distinct around
        (Operation.dozes service operation hsignIn hsignOut)
      rw [← Action.perform, hrun] at hlingers
      refine h.lingers ?_ hlingers
      rintro kind token (hcloses | ⟨owner, hopened⟩)
      · cases hcloses
        exact hsignOut kind token rfl
      · rw [Event.opened?, hsignIn] at hopened
        cases hopened
    cases operation with
    | signInStaff username password client =>
      rw [Operation.action, Action.perform_map] at hrun
      cases hrun
      exact h.signInStaff around hshow username password client rfl
    | signInCustomer idToken client =>
      rw [Operation.action, Action.perform_map] at hrun
      cases hrun
      exact h.signInCustomer around hshow idToken client rfl
    | signOut kind token =>
      rw [Operation.action, Action.perform_map] at hrun
      cases hrun
      exact h.signOut around rfl rfl
    | _ => exact hother rfl (by rintro _ _ ⟨⟩)
  · refine h.lingers ?_ (Lingers.run h.distinct around (Sweep.dozes settings purges))
    rintro kind token (hcloses | ⟨owner, hopened⟩)
    · cases hcloses
    · cases hopened
  · refine h.lingers ?_ ⟨world.clock.now_le_advance duration, h.distinct,
      fun _ _ _ _ _ => Iff.rfl, fun _ hid => hid⟩
    rintro kind token (hcloses | ⟨owner, hopened⟩)
    · cases hcloses
    · cases hopened

end Ledger

/-- No scene lets time go back. -/
theorem World.instant_enact_le (service : Service) (scene : Scene) (world : World) :
    world.clock.instant.nanos ≤
      (World.enact World.handler service scene world).2.clock.instant.nanos := by
  have hrun {α : Type} {program : Request α} {post : α → Prop} (around : Surroundings)
      (h : Program.Within (I := requests) (fun _ => True) (fun _ _ => True) post program) :
      world.clock.instant.nanos ≤
        (program.run (World.handler around) world).2.clock.instant.nanos := by
    have hkeep (call : RequestCall) (world' : World)
        (hle : world.clock.instant.nanos ≤ world'.clock.instant.nanos) (_ : True) :
        world.clock.instant.nanos ≤ (World.handler around call world').2.clock.instant.nanos ∧
          ∀ reply ∈ (World.handler around call world').1, True :=
      ⟨Nat.le_trans hle (clock_handler_le around call world'), fun _ _ => trivial⟩
    exact (h.run hkeep (Nat.le_refl _)).1
  rcases scene with ⟨around, operation | ⟨settings, purges⟩ | duration⟩
  · exact hrun around (Operation.within ⟨fun _ _ => trivial, fun _ _ => trivial,
      fun _ _ => trivial, fun _ _ _ _ => trivial⟩ operation (fun _ _ => trivial))
  · exact hrun around (Sweep.runOnce_within (fun _ _ => trivial) purges)
  · exact Nat.le_add_right _ _

/-- After every play the live sessions are those that stand, if the clock can show the end of a
cached context's lifetime. -/
theorem ledger_play {clock : Clock} {directory : Directory.Table} {scenes : List Scene}
    {world : World}
    (hplay : World.play World.handler service scenes (.fresh clock directory) = (history, world))
    (hshow : world.clock.CanShow service.contextTtl) : Ledger service history world := by
  have hledger := World.play_induction
    (motive := fun history world =>
      world.clock.CanShow service.contextTtl → Ledger service history world)
    (fun _ => ledger_fresh service clock directory)
    -- the clock at the end vouches for the clocks before it
    (fun history world scene ih hnext => by
      have hearlier := hnext.earlier (World.instant_enact_le service scene world)
      exact (ih hearlier).enact scene hearlier) scenes
  rw [hplay] at hledger
  exact hledger hshow

/-- A refresh token works: the history left its session standing, the session is within its
lifetime, and a member of staff who owns it may sign in. -/
def Refreshable (service : Service) (history : List Event) (world : World) (kind : PrincipalKind)
    (token : String) : Prop :=
  ∃ owner opened, Standing history kind token owner opened ∧
    world.clock.now.nanos < (opened.after service.refreshTtl).nanos ∧
      (kind = .customer ∨
        ∃ staff, world.directory.staff? owner = some staff ∧ staff.isActive = true)

/-- Where the live sessions are those that stand and what is cached about staff is true, refreshing
succeeds if the refresh token works, and otherwise fails without a trace. -/
theorem refresh_cases {world : World} (hledger : Ledger service history world)
    (hcoherent : world.Coherent (fun kind _ => kind = .staff))
    (hshow : world.clock.CanShow service.contextTtl) (around : Surroundings)
    (kind : PrincipalKind) (token : String) :
    (Refreshable service history world kind token ∧ ∃ given after,
        Action.perform (World.handler around) (service.refresh kind token) world =
          (some (.ok given), after)) ∨
      (¬ Refreshable service history world kind token ∧
        Action.perform (World.handler around) (service.refresh kind token) world =
          (some (.error .refreshTokenInvalid), world)) := by
  -- a row that is found now is one that stands within its lifetime
  have hfinds (owner : PrincipalId) :
      (∃ row, world.sessions.find world.clock.now kind token = .ok row ∧
          row.principalId = owner) ↔
        ∃ opened, Standing history kind token owner opened ∧
          world.clock.now.nanos < (opened.after service.refreshTtl).nanos :=
    (Session.Table.holds_iff_find hledger.distinct).symm.trans
      (hledger.holds_iff kind token owner world.clock.now (Int.le_refl _))
  by_cases hfound : ∃ row, world.sessions.find world.clock.now kind token = .ok row
  · obtain ⟨row, hfind⟩ := hfound
    obtain ⟨opened, hstanding, hlive⟩ := (hfinds row.principalId).1 ⟨row, hfind, rfl⟩
    rw [Service.perform_refresh, hfind]
    dsimp only
    cases kind with
    | customer =>
      -- the owner has not gone, and any cached context will do
      have hthere := Directory.Table.isSome_context?_customer.2
        (hledger.customers token row.principalId opened hstanding)
      obtain ⟨context, hcontext⟩ := Option.isSome_iff_exists.1 hthere
      obtain ⟨resolved, keyValue, hresolve⟩ :=
        ContextCache.resolve_of_context? around hcontext hshow
      rw [hresolve]
      exact .inl ⟨⟨row.principalId, opened, hstanding, hlive, .inl rfl⟩, _, _, rfl⟩
    | staff =>
      rcases ContextCache.resolve_cases around hcoherent .staff row.principalId rfl
        service.contextTtl with
        ⟨hnone, hresolve⟩ | ⟨context, hcontext, ⟨hnot, -⟩ | ⟨keyValue, hresolve⟩⟩
      · rw [hresolve]
        refine .inr ⟨?_, rfl⟩
        -- no context means that no active member of staff has this id
        rintro ⟨owner, opened', hstanding', hlive', hkind | hactive⟩
        · cases hkind
        obtain ⟨row', hrow', rfl⟩ := (hfinds owner).2 ⟨opened', hstanding', hlive'⟩
        obtain rfl : row = row' := Except.ok.inj (hfind.symm.trans hrow')
        have hsome := Directory.Table.isSome_context?_staff.2 hactive
        rw [hnone] at hsome
        cases hsome
      · exact absurd hshow hnot
      · rw [hresolve]
        have hactive := Directory.Table.isSome_context?_staff.1
          (Option.isSome_iff_exists.2 ⟨context, hcontext⟩)
        exact .inl ⟨⟨row.principalId, opened, hstanding, hlive, .inr hactive⟩, _, _, rfl⟩
  · have hnone : ∀ row, world.sessions.find world.clock.now kind token ≠ .ok row :=
      fun row hrow => hfound ⟨row, hrow⟩
    rw [Service.perform_refresh, Session.Table.find_of_not_ok hnone]
    refine .inr ⟨?_, rfl⟩
    rintro ⟨owner, opened, hstanding, hlive, -⟩
    obtain ⟨row, hrow, -⟩ := (hfinds owner).2 ⟨opened, hstanding, hlive⟩
    exact hnone row hrow

/-- After any history of operations, sweeps and waiting since a fresh start, refreshing succeeds
exactly if the refresh token works by the history, and fails otherwise as with a token that was
never given, without a trace. The clock must be able to show the end of a cached context's lifetime.
-/
theorem refresh_ok_iff_standing {clock : Clock} {directory : Directory.Table} {scenes : List Scene}
    {world : World}
    (hplay : World.play World.handler service scenes (.fresh clock directory) = (history, world))
    (hshow : world.clock.CanShow service.contextTtl) (around : Surroundings)
    (kind : PrincipalKind) (token : String) :
    ((∃ given, (World.enact World.handler service ⟨around, .operation (.refresh kind token)⟩
        world).1 = some (.ok (.refreshed given))) ↔ Refreshable service history world kind token) ∧
      (¬ Refreshable service history world kind token →
        World.enact World.handler service ⟨around, .operation (.refresh kind token)⟩ world =
          (some (.error .refreshTokenInvalid), world)) := by
  have hledger := ledger_play hplay hshow
  have hcoherent : world.Coherent (fun kind _ => kind = .staff) := by
    have h := World.coherent_play service clock directory scenes
    rwa [hplay] at h
  have henact : World.enact World.handler service ⟨around, .operation (.refresh kind token)⟩ world =
      ((Action.perform (World.handler around) (service.refresh kind token) world).1.map
          (Except.map Answer.refreshed),
        (Action.perform (World.handler around) (service.refresh kind token) world).2) :=
    Action.perform_map (World.handler around) world Answer.refreshed _
  rw [henact]
  rcases refresh_cases hledger hcoherent hshow around kind token with
    ⟨hworks, given, after, hrun⟩ | ⟨hfails, hrun⟩
  · rw [hrun]
    exact ⟨iff_of_true ⟨given, rfl⟩ hworks, fun hfails => absurd hworks hfails⟩
  · rw [hrun]
    refine ⟨iff_of_false ?_ hfails, fun _ => rfl⟩
    rintro ⟨given, ⟨⟩⟩

/-- The refresh token of a sign-in works. -/
theorem refresh_ok_iff_standing_signedIn :
    (World.play World.handler .plain [.plain] .plain).2.clock.CanShow Service.plain.contextTtl ∧
      ∃ given, (World.enact World.handler .plain
        ⟨.plain, .operation (.refresh .staff (Token.refreshText (Surroundings.plain.random 0)))⟩
        (World.play World.handler .plain [.plain] .plain).2).1 = some (.ok (.refreshed given)) := by
  have hshow : (World.play World.handler .plain [.plain] .plain).2.clock.CanShow
      Service.plain.contextTtl := by rfl
  have hopened : (World.eventOf World.handler .plain .plain .plain).opened? =
      some (.staff, Token.refreshText (Surroundings.plain.random 0), 1) := by rfl
  have hdirectory : (World.play World.handler .plain [.plain] .plain).2.directory = .plain := by rfl
  have hclock : (World.play World.handler .plain [.plain] .plain).2.clock = ⟨⟨0⟩, .zero⟩ := by rfl
  have hworks : Refreshable .plain (World.play World.handler .plain [.plain] .plain).1
      (World.play World.handler .plain [.plain] .plain).2 .staff
      (Token.refreshText (Surroundings.plain.random 0)) := by
    refine ⟨1, ⟨0⟩, ⟨[], _, [], rfl, hopened, rfl, by rintro _ ⟨⟩⟩, ?_, .inr ?_⟩
    · rw [hclock]
      decide
    · rw [hdirectory]
      exact ⟨_, rfl, rfl⟩
  have hplay : World.play World.handler .plain [.plain] (.fresh ⟨⟨0⟩, .zero⟩ .plain) =
      ((World.play World.handler .plain [.plain] .plain).1,
        (World.play World.handler .plain [.plain] .plain).2) := rfl
  exact ⟨hshow, (refresh_ok_iff_standing hplay hshow .plain .staff _).1.2 hworks⟩

end Gatehouse
