import Gatehouse.Proofs.Sql.Intervals
import Gatehouse.Proofs.Sql.Sessions
import Gatehouse.World

/-!
# Two back ends

The sessions and the shared entries are kept in a database or in memory. Main statement
(`back_ends_agree`): whatever is called and however time passes, a database that executes its
statements gives answers that memory can give, and the other way round. The answers are the same but
for the ids of sessions and the wording of failures. What is open in memory is the order in which a
call finds the rows, and so which sessions a batch deletes.
-/

namespace Gatehouse

/-- What a call gives, without the id of a session. -/
def StoreCall.anonymous : (call : StoreCall) → call.Value → call.Value
  | keyValue _, value => value
  | session call, value => call.anonymous value
  | directory _, value => value

/-- A call to a store and its answer, without the id of a session and the wording of a database. -/
def Exchange.outline (exchange : Exchange stores) : Exchange stores :=
  ⟨exchange.call, Gatehouse.outline exchange.call.anonymous exchange.reply⟩

/-- A call to the shared entries is answered by the table that holds them. -/
theorem World.answerStore_keyValue {world : World} {call : KeyValue.Call} {value : call.Value}
    {later : KeyValue.Table}
    (h : world.keyValue.answer world.clock.instant call = some (value, later)) :
    world.answerStore (.keyValue call) = (some (.ok value), { world with keyValue := later }) := by
  rw [answerStore, h]

/-- A call to the shared entries leaves the sessions. -/
theorem World.sessions_answerStore_keyValue (world : World) (call : KeyValue.Call) :
    (world.answerStore (.keyValue call)).2.sessions = world.sessions := by
  rw [answerStore]
  split <;> rfl

namespace Sql

/-- A call to the sessions or to the shared entries. -/
inductive Query where
  /-- A call to the sessions. -/
  | session (call : Session.Call)
  /-- A call to the shared entries. -/
  | keyValue (call : KeyValue.Call)

/-- The call to a store. -/
def Query.call : Query → StoreCall
  | session call => .session call
  | keyValue call => .keyValue call

/-- Whether a call is to store a session. -/
def Query.creates : Query → Bool
  | session call => call.creates
  | keyValue _ => false

/-- The times and lifetimes of a call are whole microseconds, which a database and memory can
represent. -/
def Query.RepresentedBy (clock : Clock) : Query → Prop
  | session call => clock.now.IsWhole ∧ call.RepresentedAt clock.now
  | keyValue call => clock.now.IsWhole ∧ call.RepresentedBy clock

/-- What happens to a back end. -/
inductive Turn where
  /-- A call is made. -/
  | ask (query : Query)
  /-- Time passes. -/
  | wait (duration : Duration)

/-- All times and lifetimes from the reading of a clock on can be represented. -/
def Represented : Clock → List Turn → Prop
  | _, [] => True
  | clock, .ask query :: turns => query.RepresentedBy clock ∧ Represented clock turns
  | clock, .wait duration :: turns => Represented (clock.advance duration) turns

/-- How many calls are to store a session. -/
def creations : List Turn → Nat
  | [] => 0
  | .ask query :: turns => (if query.creates then 1 else 0) + creations turns
  | .wait _ :: turns => creations turns

/-- Something that keeps the sessions and the shared entries in a state: a call that is made at the
reading of a clock has one of some answers, and leaves a state. -/
def BackEnd (σ : Type) : Type :=
  Clock → σ → (call : StoreCall) → Except StorageError call.Value → σ → Prop

/-- A back end gives answers to the calls among some turns. -/
inductive BackEnd.Gives {σ : Type} (answers : BackEnd σ) :
    Clock → σ → List Turn → List (Exchange stores) → Prop where
  /-- Nothing happens. -/
  | nil {clock : Clock} {state : σ} : Gives answers clock state [] []
  /-- A call is answered. -/
  | ask {clock : Clock} {state after : σ} {query : Query}
      {reply : Except StorageError query.call.Value} {turns : List Turn}
      {exchanges : List (Exchange stores)} (hanswers : answers clock state query.call reply after)
      (hgives : Gives answers clock after turns exchanges) :
      Gives answers clock state (.ask query :: turns) (⟨query.call, reply⟩ :: exchanges)
  /-- Time passes. -/
  | wait {clock : Clock} {state : σ} {duration : Duration} {turns : List Turn}
      {exchanges : List (Exchange stores)}
      (hgives : Gives answers (clock.advance duration) state turns exchanges) :
      Gives answers clock state (.wait duration :: turns) exchanges

/-- A database that executes statements, with the clock of the process. -/
def inDatabase : BackEnd Tables := fun clock tables call reply after =>
  Yields (storedMicros clock.now) (answer clock.now call).run tables reply after

/-- Memory, whose rows of sessions come in any order. -/
def inMemory : BackEnd Gatehouse.World := fun clock world call reply after =>
  ∃ rows, rows.Perm world.sessions.rows ∧
    Gatehouse.World.answerStore { world with clock, sessions := { world.sessions with rows } }
      call = (some reply, after)

/-- A database and memory hold the same. -/
structure Same (started : Timestamp) (tables : Tables) (world : Gatehouse.World) : Prop where
  /-- They hold the same sessions. -/
  sessions : SameSessions tables.sessions world.sessions
  /-- They hold the same shared entries. -/
  entries : SameEntries started tables.entries world.keyValue

variable {clock : Clock} {tables after : Tables} {world world' : Gatehouse.World} {query : Query}

/-- A new database and a new memory hold the same. -/
theorem same_fresh (clock : Clock) : Same clock.started {} { clock } where
  sessions := ⟨fun _ => .refl _, fun _ => List.nodup_nil, .nil⟩
  entries := ⟨.refl _, .nil⟩

/-- What a database answers, memory can answer. -/
theorem Same.to_memory (h : Same clock.started tables world) (hquery : query.RepresentedBy clock)
    {reply : Except StorageError query.call.Value}
    (hanswers : inDatabase clock tables query.call reply after) :
    ∃ reply' world', inMemory clock world query.call reply' world' ∧
      Gatehouse.outline query.call.anonymous reply' = Gatehouse.outline query.call.anonymous reply ∧
      Same clock.started after world' := by
  cases query with
  | session call =>
    obtain ⟨hnow, hcall⟩ := hquery
    obtain ⟨rows, hrows, hreply, hsessions, hentries⟩ := h.sessions.yields hnow hcall hanswers
    refine ⟨_, _, ⟨rows, hrows, rfl⟩, hreply.symm, hsessions, ?_⟩
    rw [hentries]
    exact h.entries
  | keyValue call =>
    obtain ⟨hnow, hcall⟩ := hquery
    obtain ⟨value, later, hanswer, rfl, hentries, hsessions⟩ :=
      h.entries.yields hnow hcall hanswers
    refine ⟨_, _, ⟨_, .refl _, Gatehouse.World.answerStore_keyValue hanswer⟩, rfl, ?_, hentries⟩
    rw [hsessions]
    exact h.sessions

/-- What memory answers, a database can answer, if there are not too many sessions. -/
theorem Same.to_database (h : Same clock.started tables world)
    (hquery : query.RepresentedBy clock)
    (hfew : world.sessions.rows.length < 0x8000000000000000)
    {reply : Except StorageError query.call.Value}
    (hanswers : inMemory clock world query.call reply world') :
    ∃ reply' after, inDatabase clock tables query.call reply' after ∧
      Gatehouse.outline query.call.anonymous reply' = Gatehouse.outline query.call.anonymous reply ∧
      Same clock.started after world' := by
  obtain ⟨rows, hrows, hanswer⟩ := hanswers
  have hordered : SameSessions tables.sessions { world.sessions with rows } :=
    h.sessions.reorder hrows
  cases query with
  | session call =>
    obtain ⟨hnow, hcall⟩ := hquery
    cases hanswer
    rw [← hrows.length_eq] at hfew
    obtain ⟨reply', after, hyields, hreply, hsessions, hentries⟩ :=
      hordered.exists_yields hnow hcall hfew
    refine ⟨reply', after, hyields, hreply, hsessions, ?_⟩
    rw [hentries]
    exact h.entries
  | keyValue call =>
    obtain ⟨hnow, hcall⟩ := hquery
    obtain ⟨reply', after, hyields⟩ := h.entries.exists_answer hnow hcall
    obtain ⟨value, later, hsame, rfl, hentries, hsessions⟩ := h.entries.yields hnow hcall hyields
    cases (Gatehouse.World.answerStore_keyValue hsame).symm.trans hanswer
    refine ⟨.ok value, after, hyields, rfl, ?_, hentries⟩
    rw [hsessions]
    exact hordered

/-- Memory answers every call that can be represented. -/
theorem exists_answers (world : Gatehouse.World) (hquery : query.RepresentedBy clock) :
    ∃ reply world', inMemory clock world query.call reply world' := by
  cases query with
  | session call => exact ⟨_, _, _, .refl _, rfl⟩
  | keyValue call =>
    obtain ⟨value, later, hanswer⟩ := world.keyValue.exists_answer hquery.2
    exact ⟨_, _, _, .refl _, Gatehouse.World.answerStore_keyValue hanswer⟩

/-- No call adds more than one session to memory. -/
theorem length_rows_le {reply : Except StorageError query.call.Value}
    (hanswers : inMemory clock world query.call reply world') :
    world'.sessions.rows.length ≤
      world.sessions.rows.length + (if query.creates then 1 else 0) := by
  obtain ⟨rows, hrows, hanswer⟩ := hanswers
  rw [← hrows.length_eq]
  cases query with
  | session call =>
    cases hanswer
    exact Session.Table.length_rows_answer_le _ _ _
  | keyValue call =>
    have hsessions := (congrArg (fun outcome => outcome.2.sessions) hanswer).symm.trans
      (Gatehouse.World.sessions_answerStore_keyValue _ call)
    rw [hsessions]
    exact Nat.le_refl _

/-! ## Runs -/

variable {turns : List Turn} {exchanges : List (Exchange stores)}

/-- Memory gives answers to all calls that can be represented. -/
theorem exists_gives (hturns : Represented clock turns) (world : Gatehouse.World) :
    ∃ exchanges, inMemory.Gives clock world turns exchanges := by
  induction turns generalizing clock world with
  | nil => exact ⟨[], .nil⟩
  | cons turn turns ih =>
    cases turn with
    | ask query =>
      obtain ⟨reply, world', hanswers⟩ := exists_answers world hturns.1
      obtain ⟨exchanges, hgives⟩ := ih hturns.2 world'
      exact ⟨_, .ask hanswers hgives⟩
    | wait duration =>
      obtain ⟨exchanges, hgives⟩ := ih hturns world
      exact ⟨exchanges, .wait hgives⟩

/-- What one back end gives, another can give, if states of both are related before each turn and
the other can give what the one answers to a call. -/
theorem BackEnd.Gives.simulated {σ τ : Type} {first : BackEnd σ} {second : BackEnd τ}
    {R : Clock → List Turn → σ → τ → Prop}
    (hask : ∀ {clock query turns state state' after}
      {reply : Except StorageError (Query.call query).Value},
      R clock (.ask query :: turns) state state' → first clock state query.call reply after →
        ∃ reply' after', second clock state' query.call reply' after' ∧
          Gatehouse.outline query.call.anonymous reply' =
            Gatehouse.outline query.call.anonymous reply ∧
          R clock turns after after')
    (hwait : ∀ {clock duration turns state state'}, R clock (.wait duration :: turns) state state' →
      R (clock.advance duration) turns state state')
    {state : σ} {state' : τ} (h : R clock turns state state')
    (hgives : first.Gives clock state turns exchanges) :
    ∃ exchanges', second.Gives clock state' turns exchanges' ∧
      exchanges'.map Exchange.outline = exchanges.map Exchange.outline := by
  -- over the turns of the one; the states are related before each of them
  induction hgives generalizing state' with
  | nil => exact ⟨[], .nil, rfl⟩
  | ask hanswers _ ih =>
    obtain ⟨reply', after', hanswers', hreply, hafter⟩ := hask h hanswers
    obtain ⟨exchanges', hgives', houtline⟩ := ih hafter
    refine ⟨_, .ask hanswers' hgives', ?_⟩
    rw [List.map_cons, List.map_cons, houtline, Exchange.outline, Exchange.outline, hreply]
  | wait _ ih =>
    obtain ⟨exchanges', hgives', houtline⟩ := ih (hwait h)
    exact ⟨exchanges', .wait hgives', houtline⟩

/-- What a database gives, memory can give. -/
theorem Same.gives_in_memory (h : Same clock.started tables world)
    (hturns : Represented clock turns) (hgives : inDatabase.Gives clock tables turns exchanges) :
    ∃ exchanges', inMemory.Gives clock world turns exchanges' ∧
      exchanges'.map Exchange.outline = exchanges.map Exchange.outline := by
  refine BackEnd.Gives.simulated (R := fun clock turns tables world =>
    Represented clock turns ∧ Same clock.started tables world) ?_ id ⟨hturns, h⟩ hgives
  intro clock query turns tables world after reply hboth hanswers
  obtain ⟨hturns, hsame⟩ := hboth
  obtain ⟨reply', world', hanswers', hreply, hafter⟩ := hsame.to_memory hturns.1 hanswers
  exact ⟨reply', world', hanswers', hreply, hturns.2, hafter⟩

/-- What memory gives, a database can give, if there are not too many sessions. -/
theorem Same.gives_in_database (h : Same clock.started tables world)
    (hturns : Represented clock turns)
    (hfew : world.sessions.rows.length + creations turns < 0x8000000000000000)
    (hgives : inMemory.Gives clock world turns exchanges) :
    ∃ exchanges', inDatabase.Gives clock tables turns exchanges' ∧
      exchanges'.map Exchange.outline = exchanges.map Exchange.outline := by
  refine BackEnd.Gives.simulated (R := fun clock turns world tables =>
    (Represented clock turns ∧ Same clock.started tables world) ∧
      world.sessions.rows.length + creations turns < 0x8000000000000000)
    ?_ id ⟨⟨hturns, h⟩, hfew⟩ hgives
  intro clock query turns world tables world' reply hboth hanswers
  obtain ⟨⟨hturns, hsame⟩, hfew⟩ := hboth
  rw [creations] at hfew
  obtain ⟨reply', after, hanswers', hreply, hafter⟩ :=
    hsame.to_database hturns.1 (by omega) hanswers
  have hlength := length_rows_le hanswers
  exact ⟨reply', after, hanswers', hreply, ⟨hturns.2, hafter⟩, by omega⟩

/-- A database and memory agree. Whatever is called and however time passes, memory answers; what a
database gives, memory can give as well; and what memory gives, a database can give as well, unless
there are more sessions than a database can number. All this is but for the ids of sessions and the
wording of failures. -/
theorem back_ends_agree (clock : Clock) (turns : List Turn) (hturns : Represented clock turns) :
    (∃ exchanges, inMemory.Gives clock { clock } turns exchanges) ∧
    (∀ exchanges, inDatabase.Gives clock {} turns exchanges →
      ∃ exchanges', inMemory.Gives clock { clock } turns exchanges' ∧
        exchanges'.map Exchange.outline = exchanges.map Exchange.outline) ∧
    (creations turns < 0x8000000000000000 →
      ∀ exchanges, inMemory.Gives clock { clock } turns exchanges →
        ∃ exchanges', inDatabase.Gives clock {} turns exchanges' ∧
          exchanges'.map Exchange.outline = exchanges.map Exchange.outline) := by
  refine ⟨exists_gives hturns _, ?_, ?_⟩
  · intro exchanges hgives
    exact (same_fresh clock).gives_in_memory hturns hgives
  · intro hfew exchanges hgives
    exact (same_fresh clock).gives_in_database hturns (by simpa using hfew) hgives

/-- A lock and a session are made for a second, which then goes by. -/
def expiringTurns : List Turn :=
  [ .ask (.keyValue (.setIfAbsent "lock" [1] (.ofSeconds 1))),
    .ask (.session (.create ⟨1, .staff, "token", none, none, .ofSeconds 1⟩)),
    .wait (.ofSeconds 1),
    .ask (.keyValue (.setIfAbsent "lock" [2] (.ofSeconds 1))),
    .ask (.session (.find .staff "token")),
    .ask (.session (.deleteSweepable .staff 5)) ]

/-- At the end of the second the lock is free again, and the session is not found and is deleted. -/
def expiringAnswers : List (Exchange stores) :=
  [ ⟨.keyValue (.setIfAbsent "lock" [1] (.ofSeconds 1)), .ok true⟩,
    ⟨.session (.create ⟨1, .staff, "token", none, none, .ofSeconds 1⟩), .ok (1 : Int64)⟩,
    ⟨.keyValue (.setIfAbsent "lock" [2] (.ofSeconds 1)), .ok true⟩,
    ⟨.session (.find .staff "token"), .error (.notFound "refresh session")⟩,
    ⟨.session (.deleteSweepable .staff 5), .ok (1 : Nat)⟩ ]

/-- What memory gives for a lock and a session that expire, a database gives too. -/
theorem back_ends_agree_expiring :
    Represented ⟨⟨0⟩, .zero⟩ expiringTurns ∧ creations expiringTurns < 0x8000000000000000 ∧
      ∃ exchanges, inDatabase.Gives ⟨⟨0⟩, .zero⟩ {} expiringTurns exchanges ∧
        exchanges.map Exchange.outline = expiringAnswers.map Exchange.outline := by
  have hnow (seconds : Nat) : (Clock.mk ⟨0⟩ (.ofSeconds seconds)).now.IsWhole := by
    simp only [Clock.now, Timestamp.plus, Timestamp.IsWhole, Duration.ofSeconds,
      Duration.nanosPerSecond]
    omega
  have hlock (seconds : Nat)
      (hclock : ((Clock.mk ⟨0⟩ (.ofSeconds seconds)).instant.plus? (.ofSeconds 1)).isSome) :
      (Clock.mk ⟨0⟩ (.ofSeconds seconds)).Represents (.ofSeconds 1) :=
    @Clock.represents_of_lt _ 1000000 (by decide) hclock
  have hsession : ((Clock.mk ⟨0⟩ .zero).now.after (.ofSeconds 1)).IsWhole :=
    (hnow 0).after 1000000 (by decide) (by decide)
  have hturns : Represented ⟨⟨0⟩, .zero⟩ expiringTurns :=
    ⟨⟨hnow 0, hlock 0 rfl⟩, ⟨hnow 0, hsession⟩, ⟨hnow 1, hlock 1 rfl⟩, ⟨hnow 1, trivial⟩,
      ⟨hnow 1, trivial⟩, trivial⟩
  have hmemory : inMemory.Gives ⟨⟨0⟩, .zero⟩ { clock := ⟨⟨0⟩, .zero⟩ } expiringTurns
      expiringAnswers := by
    refine .ask ⟨[], .refl _, rfl⟩ ?_
    refine .ask ⟨[], .refl _, rfl⟩ ?_
    refine .wait ?_
    refine .ask ⟨_, .refl _, rfl⟩ ?_
    refine .ask ⟨_, .refl _, rfl⟩ ?_
    refine .ask ⟨_, .refl _, rfl⟩ ?_
    exact .nil
  have hcreations : creations expiringTurns < 0x8000000000000000 := by decide
  obtain ⟨-, -, hdatabase⟩ := back_ends_agree ⟨⟨0⟩, .zero⟩ expiringTurns hturns
  exact ⟨hturns, hcreations, hdatabase hcreations _ hmemory⟩

end Sql

end Gatehouse
