import Gatehouse.Proofs.Deactivation
import Gatehouse.Proofs.Expiry
import Gatehouse.Proofs.LockHolders
import Gatehouse.Proofs.StaffSignIn
import Gatehouse.Proofs.SweepExactness
import Gatehouse.Proofs.SweepReports
import Gatehouse.Proofs.UsableTokens

/-!
# Ends of lifetimes

When a session expires, and when a shared entry does. The expiry of a session is a date: it is exact
as far as the calendar goes, and the calendar's last instant beyond (`Timestamp.expiry_saturates`).
The deadline of a shared entry is a reading of the steady clock, and a lifetime that ends beyond
what the clock can show has none: the call that asks for it breaks off, and the request with it.
Settings are accepted with such lifetimes (`Settings.longest_lifetime_breaks_off`). Main statement:
under accepted settings nothing else breaks off a sign in or a sweep, the sweep has changed nothing
then, and the sign in has left its session behind (`Settings.lifetimes_in_reach`).
-/

namespace Gatehouse

/-! ## The calendar -/

namespace Timestamp

/-- The calendar holds an instant. -/
def InCalendar (time : Timestamp) : Prop :=
  earliest.nanos ≤ time.nanos ∧ time.nanos ≤ latest.nanos

/-- Whether the calendar holds an instant is decided by comparing. -/
instance (time : Timestamp) : Decidable time.InCalendar :=
  inferInstanceAs (Decidable (_ ∧ _))

/-- A sum is not before its start. -/
theorem le_plus (issued : Timestamp) (ttl : Duration) : issued.nanos ≤ (issued.plus ttl).nanos :=
  Int.le_add_of_nonneg_right (Int.natCast_nonneg _)

/-- An expiry is the exact sum, up to the last instant of the calendar. The limit on spans is not
felt: it lies beyond the length of the calendar. -/
theorem nanos_after {issued : Timestamp} (h : earliest.nanos ≤ issued.nanos) (ttl : Duration) :
    (issued.after ttl).nanos = min (issued.nanos + ttl.nanos) latest.nanos := by
  by_cases hsum : (issued.plus ttl).nanos ≤ latest.nanos
  · rw [after_of_le_latest h hsum]
    exact (Int.min_eq_left hsum).symm
  · rw [Int.not_le] at hsum
    rw [after_of_latest_lt h hsum]
    exact (Int.min_eq_right (Int.le_of_lt hsum)).symm

/-- From every instant of the calendar, every lifetime has an expiry in the calendar: the exact sum
if the calendar holds that, and its last instant otherwise. It is never before the start, and after
it if there is a lifetime at all and the calendar is not at its end; and what starts later and lives
longer does not expire earlier. -/
theorem expiry_saturates {issued : Timestamp} (hissued : issued.InCalendar) (ttl : Duration) :
    (issued.after ttl).InCalendar ∧
      (issued.after ttl =
        if (issued.plus ttl).InCalendar then issued.plus ttl else latest) ∧
      issued.nanos ≤ (issued.after ttl).nanos ∧
      (0 < ttl.nanos → issued.nanos < latest.nanos →
        issued.nanos < (issued.after ttl).nanos) ∧
      ∀ (later : Timestamp) (longer : Duration), later.InCalendar →
        issued.nanos ≤ later.nanos → ttl.nanos ≤ longer.nanos →
          (issued.after ttl).nanos ≤ (later.after longer).nanos := by
  obtain ⟨hfirst, hlast⟩ := hissued
  have hafter := nanos_after hfirst ttl
  have hinside : (issued.after ttl).InCalendar := by
    constructor <;> omega
  have hexact : issued.after ttl =
      if (issued.plus ttl).InCalendar then issued.plus ttl else latest := by
    by_cases hsum : (issued.plus ttl).InCalendar
    · rw [if_pos hsum]
      exact after_of_le_latest hfirst hsum.2
    · rw [if_neg hsum]
      -- a sum lies outside of the calendar only behind it
      apply after_of_latest_lt hfirst
      exact Int.not_le.1 fun hle => hsum ⟨Int.le_trans hfirst (le_plus issued ttl), hle⟩
  refine ⟨hinside, hexact, ?_, ?_, ?_⟩
  · omega
  · omega
  · intro later longer hlater hstart hlength
    rw [hafter, nanos_after hlater.1 longer]
    omega

/-- The longest lifetime that can be given, from a second of the year 2023 on: it ends with the
calendar, and no shorter one ends later. -/
theorem expiry_saturates_longest :
    let issued := ofSeconds 1700000000
    let ttl := Duration.ofSeconds largestCount
    issued.InCalendar ∧ issued.after ttl = latest ∧ issued.nanos < (issued.after ttl).nanos ∧
      (issued.after (.ofSeconds 3600)).nanos ≤ (issued.after ttl).nanos := by
  intro issued ttl
  have hissued : issued.InCalendar := by decide
  obtain ⟨-, hexact, -, hlater, -⟩ := expiry_saturates hissued ttl
  obtain ⟨-, -, -, -, hmono⟩ := expiry_saturates hissued (.ofSeconds 3600)
  refine ⟨hissued, hexact.trans (if_neg (by decide)), hlater (by decide) (by decide), ?_⟩
  exact hmono issued ttl hissued (Int.le_refl _) (by decide)

end Timestamp

/-- A new session is live at once if it has a lifetime and the calendar is not at its end. -/
theorem Session.New.isLiveAt_row_self {new : New} {id : SessionId} {now : Timestamp}
    (hnow : now.InCalendar) :
    (new.row id now).isLiveAt now = true ↔
      0 < new.ttl.nanos ∧ now.nanos < Timestamp.latest.nanos := by
  rw [isLiveAt_row, Timestamp.nanos_after hnow.1]
  omega

/-! ## Keys that are set -/

namespace KeyValue

/-- What setting a key for a lifetime comes to. -/
structure SetsFor (ttl : Duration) : Prop where
  /-- Setting a key breaks off only where the clock cannot show the end of the lifetime. -/
  set_eq_none_iff : ∀ (table : Table) (now : Instant) (key : String) (value : Bytes),
    table.set now key value ttl = none ↔ ¬ now.Reaches ttl
  /-- When a key has been set, it has the value. -/
  get_set : ∀ (table after : Table) (now : Instant) (key : String) (value : Bytes),
    table.set now key value ttl = some after → after.get now key = some value
  /-- Setting a key unless it has a live value breaks off only where the key has none and the clock
  cannot show the end of the lifetime. -/
  setIfAbsent_eq_none_iff : ∀ (table : Table) (now : Instant) (key : String) (value : Bytes),
    table.setIfAbsent now key value ttl = none ↔
      table.get now key = none ∧ ¬ now.Reaches ttl
  /-- Afterwards the key has the value that it had, or else the one that is told to be set. -/
  get_setIfAbsent : ∀ (table after : Table) (now : Instant) (key : String) (value : Bytes)
    (isSet : Bool), table.setIfAbsent now key value ttl = some (isSet, after) →
      isSet = (table.get now key).isNone ∧
        after.get now key = (table.get now key).or (some value)

namespace Table

variable {table after : Table} {now : Instant} {key : String} {value : Bytes} {ttl : Duration}

/-- A key cannot be set for a lifetime whose end the clock cannot show. -/
theorem set_eq_none_iff : table.set now key value ttl = none ↔ ¬ now.Reaches ttl := by
  rw [set, Option.map_eq_none_iff]
  exact Instant.plus?_eq_none_iff

/-- A key that has been set for some time has the value. -/
theorem get_of_set (hpositive : 0 < ttl.nanos) (h : table.set now key value ttl = some after) :
    after.get now key = some value := by
  obtain ⟨deadline, hdeadline, rfl⟩ := Option.map_eq_some_iff.1 h
  have hlive : Entry.isLiveAt ⟨key, value, deadline⟩ now = true := by
    simp only [Entry.isLiveAt, Instant.nanos_of_plus? hdeadline, decide_eq_true_eq]
    omega
  rw [get_eq_map_live?, live?_put_self ⟨key, value, deadline⟩, Option.filter_some, if_pos hlive]
  rfl

/-- A key that has a live value is not set, for whatever lifetime. -/
theorem setIfAbsent_eq_none_iff :
    table.setIfAbsent now key value ttl = none ↔
      table.get now key = none ∧ ¬ now.Reaches ttl := by
  have hset : table.set now key value ttl = none ↔ ¬ now.Reaches ttl := set_eq_none_iff
  rw [setIfAbsent, ← hset]
  cases table.get now key with
  | none => simp
  | some held => simp

/-- A key that was to be set unless it has a live value has that one, or else the new one. -/
theorem get_of_setIfAbsent {isSet : Bool} (hpositive : 0 < ttl.nanos)
    (h : table.setIfAbsent now key value ttl = some (isSet, after)) :
    isSet = (table.get now key).isNone ∧
      after.get now key = (table.get now key).or (some value) := by
  cases isSet with
  | false =>
    obtain ⟨hheld, rfl⟩ := setIfAbsent_eq_false_iff.1 h
    obtain ⟨held, hget⟩ := Option.isSome_iff_exists.1 hheld
    simp [hget]
  | true =>
    obtain ⟨hfree, -⟩ := exists_setIfAbsent_iff.1 ⟨after, h⟩
    have hset : table.set now key value ttl = some after := by
      rw [setIfAbsent, hfree] at h
      simpa using h
    simp [hfree, get_of_set hpositive hset]

end Table

/-- Keys can be set for every lifetime that is not empty, as far as the clock goes. -/
theorem setsFor_of_pos {ttl : Duration} (hpositive : 0 < ttl.nanos) : SetsFor ttl where
  set_eq_none_iff _ _ _ _ := Table.set_eq_none_iff
  get_set _ _ _ _ _ h := Table.get_of_set hpositive h
  setIfAbsent_eq_none_iff _ _ _ _ := Table.setIfAbsent_eq_none_iff
  get_setIfAbsent _ _ _ _ _ _ h := Table.get_of_setIfAbsent hpositive h

end KeyValue

/-! ## Signing in -/

/-- A name and a password get as far as to a new session: whoever is meant by the name is active,
the password fits, the directory gives the context, and the refresh token that is drawn is a new
one. -/
structure World.Enters (world : World) (around : Surroundings) (username password : String)
    (context : Context) : Prop where
  /-- The password is that of an active member of staff with the context. -/
  member : ∃ member, world.directory.staffNamed? username = some member ∧
    member.isActive = true ∧ around.hasher.fits password member.passwordHash = true ∧
    world.directory.context? .staff member.id = some context
  /-- The refresh token is a new one. -/
  fresh : world.sessions.row? context.kind (Token.refreshText (around.random world.draws)) = none

/-- What is left of a sign in that breaks off when it caches the context: a session whose refresh
token nobody was given. -/
structure Service.LeavesSession (service : Service) (around : Surroundings) (client : ClientInfo)
    (context : Context) (before after : World) : Prop where
  /-- The session has been stored, and nothing else has changed. -/
  after_eq : after = opening before (service.newSession around before context client)
  /-- The session stands behind the others. -/
  rows_eq : after.sessions.rows = before.sessions.rows ++
    [(service.newSession around before context client).row (before.sessions.lastId + 1)
      before.clock.now]
  /-- It is live, unless the calendar is at its end. -/
  live : before.clock.now.InCalendar → before.clock.now.nanos < Timestamp.latest.nanos →
    ((service.newSession around before context client).row (before.sessions.lastId + 1)
      before.clock.now).isLiveAt before.clock.now = true

namespace Service

variable {service : Service} {around : Surroundings} {world after : World} {client : ClientInfo}

/-- Opening a session breaks off when the session has been stored and the clock cannot show the end
of a cached context's lifetime, and never else. -/
theorem perform_openSession_eq_none_iff {context : Context} :
    Action.perform (World.handler around) (service.openSession context client) world =
        (none, after) ↔
      world.sessions.row? context.kind (Token.refreshText (around.random world.draws)) = none ∧
        ¬ world.clock.instant.Reaches service.contextTtl ∧
        after = opening world (service.newSession around world context client) := by
  rw [perform_openSession around world service context client rfl]
  by_cases hfree : world.sessions.row? context.kind
    (Token.refreshText (around.random world.draws)) = none
  · have hnew : world.sessions.row? (service.newSession around world context client).kind
        (service.newSession around world context client).token = none := hfree
    rw [(Session.Table.create_of_free hnew world.clock.now).1, ← Instant.plus?_eq_none_iff]
    cases world.clock.instant.plus? service.contextTtl with
    | none => simp [hfree, eq_comm]
    | some deadline => simp
  · have htaken : world.sessions.row? (service.newSession around world context client).kind
        (service.newSession around world context client).token ≠ none := hfree
    obtain ⟨error, herror⟩ := (Session.Table.create_of_taken htaken world.clock.now).1
    simp [herror, hfree]

/-- Signing in a member of staff breaks off when it has got to a new session and the clock cannot
show the end of a cached context's lifetime, and never else. -/
theorem perform_signInStaff_eq_none_iff {username password : String} :
    Action.perform (World.handler around) (service.signInStaff username password client) world =
        (none, after) ↔
      ¬ world.clock.instant.Reaches service.contextTtl ∧ ∃ context,
        world.Enters around username password context ∧
          after = opening world (service.newSession around world context client) := by
  rw [perform_signInStaff]
  constructor
  · intro hrun
    -- whoever is refused before a session is opened gets an answer
    split at hrun
    · cases hrun
    rename_i member hfound
    obtain ⟨hnamed, hactive⟩ := Option.filter_eq_some_iff.1 hfound
    split at hrun
    · cases hrun
    rename_i hfits
    split at hrun
    · cases hrun
    rename_i context hcontext
    obtain ⟨hfresh, hreach, hafter⟩ := perform_openSession_eq_none_iff.1 hrun
    refine ⟨hreach, context, ⟨⟨member, hnamed, hactive, ?_, hcontext⟩, hfresh⟩, hafter⟩
    simpa using hfits
  · rintro ⟨hreach, context, ⟨⟨member, hnamed, hactive, hfits, hcontext⟩, hfresh⟩, hafter⟩
    rw [hnamed, Option.filter_some, if_pos hactive]
    simp only [hfits, hcontext, Bool.not_true, Bool.false_eq_true, if_false]
    exact perform_openSession_eq_none_iff.2 ⟨hfresh, hreach, hafter⟩

/-- Where a refresh token is a new one and sessions have a lifetime, a sign in that has stored its
session and got no further leaves a live one. -/
theorem leavesSession_iff {context : Context} (hpositive : 0 < service.refreshTtl.nanos)
    (hfresh : world.sessions.row? context.kind (Token.refreshText (around.random world.draws)) =
      none) :
    service.LeavesSession around client context world after ↔
      after = opening world (service.newSession around world context client) := by
  constructor
  · exact LeavesSession.after_eq
  · rintro rfl
    refine ⟨rfl, (Session.Table.create_of_free hfresh world.clock.now).2, fun hnow hlast => ?_⟩
    exact (Session.New.isLiveAt_row_self hnow).2 ⟨hpositive, hlast⟩

end Service

/-! ## Sweeps -/

/-- A request that makes only calls that always have an answer comes to its end. -/
theorem World.run_fst_ne_none {α : Type} {request : Request α}
    (h : Program.Within (I := requests) AlwaysAnswered (fun _ _ => True) (fun _ => True) request)
    (around : Surroundings) (world : World) :
    (request.run (World.handler around) world).1 ≠ none := by
  have hanswer (call : RequestCall) (state : World) (_ : True) (hcall : AlwaysAnswered call) :
      True ∧ ∃ reply, (World.handler around call state).1 = some reply ∧ True := by
    obtain ⟨reply, hreply⟩ := Option.ne_none_iff_exists'.1 (handler_ne_none hcall around state)
    exact ⟨trivial, reply, hreply, trivial⟩
  obtain ⟨value, after, hrun, -⟩ := h.completes hanswer trivial
  rw [hrun]
  rintro ⟨⟩

namespace Sweep

variable {settings : SweepSettings} {purges : Bool} {around : Surroundings} {world after : World}

/-- A sweep that has its lock comes to its end. -/
theorem run_sweepLocked_ne_none :
    ((sweepLocked settings purges).run (World.handler around) world).1 ≠ none := by
  refine World.run_fst_ne_none (sweepLocked_within ?_ trivial trivial purges) around world
  rintro kind ((call | call | call) | call) hcall
  · cases hcall
  · trivial
  · cases hcall
  · trivial

/-- A sweep breaks off when its lock is free and the clock cannot show the end of the lock's
lifetime, and never else. It has changed nothing then. -/
theorem run_runOnce_eq_none_iff :
    (runOnce settings purges).run (World.handler around) world = (none, after) ↔
      ¬ world.clock.instant.Reaches settings.lockTtl ∧
        world.keyValue.get world.clock.instant (Lock.keyFor settings.job) = none ∧
        after = world := by
  rw [runOnce, Program.run_bind', Lock.run_acquire, ← Instant.plus?_eq_none_iff]
  cases hheld : world.keyValue.get world.clock.instant (Lock.keyFor settings.job) with
  | some held => simp
  | none =>
    cases world.clock.instant.plus? settings.lockTtl with
    | none => simp [eq_comm]
    | some deadline =>
      simp only [Option.isSome_none, Bool.false_eq_true, if_false, reduceCtorEq, false_and,
        iff_false]
      intro hrun
      exact run_sweepLocked_ne_none (congrArg Prod.fst hrun)

end Sweep

/-! ## Accepted settings -/

namespace Settings

variable {settings : Settings}

/-- The service that is set up. -/
def service (settings : Settings) : Service :=
  ⟨settings.issuer, settings.refreshTtl, settings.contextTtl, settings.channelId.isSome⟩

/-- Under accepted settings, keys can be set for the lifetimes of cached contexts and of the sweep's
lock, and have their values at once, exactly as far as the clock can show the end of the lifetime.
Where it cannot, signing in breaks off for whoever gets as far as to a new session, and leaves the
session behind; and sweeps break off unless the lock is held, and leave everything as it was.
Nothing else breaks off a sign in or a sweep. -/
theorem lifetimes_in_reach (hcheck : settings.check = .ok ()) :
    KeyValue.SetsFor settings.contextTtl ∧ KeyValue.SetsFor settings.sweep.lockTtl ∧
      (∀ (around : Surroundings) (world after : World) (username password : String)
          (client : ClientInfo),
        Action.perform (World.handler around)
            (settings.service.signInStaff username password client) world = (none, after) ↔
          ¬ world.clock.instant.Reaches settings.contextTtl ∧ ∃ context,
            world.Enters around username password context ∧
              settings.service.LeavesSession around client context world after) ∧
      ∀ (around : Surroundings) (world after : World) (purges : Bool),
        (Sweep.runOnce settings.sweep purges).run (World.handler around) world = (none, after) ↔
          ¬ world.clock.instant.Reaches settings.sweep.lockTtl ∧
            world.keyValue.get world.clock.instant (Lock.keyFor settings.sweep.job) = none ∧
            after = world := by
  have hpositive : ∀ named ∈ settings.durations, 0 < named.2.nanos :=
    (check_eq_ok_iff.1 hcheck).2.1
  have hcontext : 0 < settings.contextTtl.nanos :=
    hpositive ("context cache TTL", settings.contextTtl) (by simp [durations])
  have hlock : 0 < settings.sweep.lockTtl.nanos :=
    hpositive ("sweep lock TTL", settings.sweep.lockTtl) (by simp [durations])
  have hrefresh : 0 < settings.service.refreshTtl.nanos :=
    hpositive ("refresh token TTL", settings.refreshTtl) (by simp [durations])
  refine ⟨KeyValue.setsFor_of_pos hcontext, KeyValue.setsFor_of_pos hlock, ?_,
    fun around world after purges => Sweep.run_runOnce_eq_none_iff⟩
  intro around world after username password client
  rw [Service.perform_signInStaff_eq_none_iff]
  refine and_congr_right fun _ => exists_congr fun context => and_congr_right fun henters => ?_
  exact (Service.leavesSession_iff hrefresh henters.fresh).symm

/-- Settings with one lifetime for cached contexts and the sweep's lock, and all else as usual. -/
def plainKept (lifetime : Duration) : Settings :=
  { secret := List.replicate 32 7, contextTtl := lifetime, sweep := { lockTtl := lifetime } }

/-- The only member of staff gets as far as to a first session, at any time. -/
theorem enters_plain (clock : Clock) :
    World.Enters (.fresh clock .plain) .plain "root" "first password"
      ⟨1, .staff, "root", some .superAdmin, .empty⟩ :=
  ⟨⟨_, rfl, rfl, by decide, rfl⟩, rfl⟩

/-- The longest lifetime that the clock can show from its start on: a second later it is too long,
and a sign in leaves a session behind. -/
theorem lifetimes_in_reach_edge :
    let settings := plainKept (.ofSeconds 0x7FFFFFFFFFFFFFFF)
    let later : World := .fresh ⟨⟨0⟩, .ofSeconds 1⟩ .plain
    let attempt := settings.service.signInStaff "root" "first password" {}
    settings.check = .ok () ∧
      (∃ table, KeyValue.Table.set {} ⟨0⟩ "key" [1] settings.contextTtl = some table ∧
        table.get ⟨0⟩ "key" = some [1]) ∧
      (Action.perform (World.handler .plain) attempt .plain).1 ≠ none ∧
      ((Sweep.runOnce settings.sweep true).run (World.handler .plain) .plain).1 ≠ none ∧
      (∃ after, Action.perform (World.handler .plain) attempt later = (none, after) ∧
        after.sessions.rows.length = 1) ∧
      (Sweep.runOnce settings.sweep true).run (World.handler .plain) later = (none, later) := by
  intro settings later attempt
  have hcheck : settings.check = .ok () := rfl
  obtain ⟨hcontext, -, hsign, hsweep⟩ := lifetimes_in_reach hcheck
  have hstart : World.plain.clock.instant.Reaches settings.contextTtl := by decide
  have hlater : ¬ later.clock.instant.Reaches settings.contextTtl := by decide
  refine ⟨hcheck, ?_, ?_, ?_, ?_, ?_⟩
  · obtain ⟨table, htable⟩ := Option.ne_none_iff_exists'.1
      (mt (hcontext.set_eq_none_iff {} ⟨0⟩ "key" [1]).1 (not_not_intro hstart))
    exact ⟨table, htable, hcontext.get_set {} table ⟨0⟩ "key" [1] htable⟩
  · exact fun hnone => ((hsign _ _ _ _ _ _).1 (Prod.ext hnone rfl)).1 hstart
  · exact fun hnone => ((hsweep _ _ _ _).1 (Prod.ext hnone rfl)).1 hstart
  · have henters := enters_plain later.clock
    have hrefresh : 0 < settings.service.refreshTtl.nanos := by decide
    have hleft : settings.service.LeavesSession .plain {} _ later _ :=
      (Service.leavesSession_iff hrefresh henters.fresh).2 rfl
    refine ⟨_, (hsign _ _ _ _ _ _).2 ⟨hlater, _, henters, hleft⟩, ?_⟩
    rw [hleft.rows_eq]
    rfl
  · exact (hsweep _ _ _ _).2 ⟨hlater, rfl, rfl⟩

/-- The longest lifetime that can be given is accepted, and no clock can show its end. A key cannot
be set for it; a sign in breaks off and leaves a session behind; and a sweep breaks off, and leaves
the sessions that have expired. -/
theorem longest_lifetime_breaks_off :
    let settings := plainKept (.ofSeconds largestCount)
    settings.check = .ok () ∧
      KeyValue.Table.set {} ⟨0⟩ "key" [1] settings.contextTtl = none ∧
      KeyValue.Table.setIfAbsent {} ⟨0⟩ "key" [1] settings.sweep.lockTtl = none ∧
      (∃ after, Action.perform (World.handler .plain)
          (settings.service.signInStaff "root" "first password" {}) .plain = (none, after) ∧
        World.plain.sessions.rows.length = 0 ∧ after.sessions.rows.length = 1) ∧
      (Sweep.runOnce settings.sweep true).run (World.handler .plain) Sweep.plainWorld =
        (none, Sweep.plainWorld) ∧
      (Sweep.plainWorld.victims .staff).length = 3 := by
  intro settings
  -- the lifetime alone is longer than what can be shown
  have hbeyond (now : Instant) : ¬ now.Reaches (.ofSeconds largestCount) := by
    simp only [Instant.Reaches, Duration.ofSeconds, largestCount, Duration.nanosPerSecond]
    omega
  have hset : KeyValue.Table.set {} ⟨0⟩ "key" [1] settings.contextTtl = none :=
    KeyValue.Table.set_eq_none_iff.2 (hbeyond _)
  have hsetIfAbsent : KeyValue.Table.setIfAbsent {} ⟨0⟩ "key" [1] settings.sweep.lockTtl = none :=
    KeyValue.Table.setIfAbsent_eq_none_iff.2 ⟨rfl, hbeyond _⟩
  refine ⟨rfl, hset, hsetIfAbsent, ?_, ?_, by decide⟩
  · have henters := enters_plain World.plain.clock
    exact ⟨_, Service.perform_signInStaff_eq_none_iff.2 ⟨hbeyond _, _, henters, rfl⟩, rfl, rfl⟩
  · exact Sweep.run_runOnce_eq_none_iff.2 ⟨hbeyond _, rfl, rfl⟩

end Settings

end Gatehouse
