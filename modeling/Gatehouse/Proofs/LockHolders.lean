import Gatehouse.Proofs.History
import Gatehouse.Proofs.Keys
import Gatehouse.Proofs.KeyValue
import Gatehouse.Proofs.Schedule

/-!
# Holders of a lock

Any number of instances that take and release locks in one world, each at any time, while time
passes. A lock is released by whoever has a guard for it, in time or late; a late release drops the
entry of whoever has taken the lock since, and then a third can take it while the second still holds
it (`lock_shared`). Main statement: this is the only way, and as long as no guard is released late
while another one holds the lock, no two guards hold it at once (`lock_exclusive`).
-/

namespace Gatehouse

/-- A lock is taken unless its key has a live value, or the clock cannot show the end of the
lifetime. -/
theorem Lock.run_acquire (around : Surroundings) (world : World) (job : String) (ttl : Duration) :
    (acquire job ttl).run (World.handler around) world =
      if (world.keyValue.get world.clock.instant (keyFor job)).isSome then
        (some (.ok none), world)
      else
        match world.clock.instant.plus? ttl with
        | none => (none, world)
        | some deadline => (some (.ok (some (keyFor job))),
            { world with
              keyValue := world.keyValue.put ⟨keyFor job, heldValue, deadline⟩ }) := by
  have hset : (Request.keyValue (.setIfAbsent (keyFor job) heldValue ttl)).run
      (World.handler around) world =
        World.handler around (.store (.keyValue (.setIfAbsent (keyFor job) heldValue ttl))) world :=
    Program.run_call (World.handler around) _ world
  rw [acquire, Program.run_bind', hset]
  simp only [World.handler, World.answerStore, KeyValue.Table.answer, KeyValue.Table.setIfAbsent,
    KeyValue.Table.set]
  by_cases hlive : (world.keyValue.get world.clock.instant (keyFor job)).isSome = true
  · simp only [if_pos hlive]
    rfl
  · simp only [if_neg hlive]
    cases world.clock.instant.plus? ttl <;> rfl

/-- A guard that was given to whoever took a lock. -/
structure Guard where
  /-- The job whose lock was taken. -/
  job : String
  /-- The key to release it with. -/
  key : String
  /-- When it was taken. -/
  taken : Instant
  /-- The lifetime it was taken for. -/
  ttl : Duration
  /-- Whether it has been released. -/
  isReleased : Bool := false

/-- A guard holds its lock: it has not been released and is younger than its lifetime. -/
def Guard.Holds (guard : Guard) (now : Instant) : Prop :=
  guard.isReleased = false ∧ now.nanos < guard.taken.nanos + guard.ttl.nanos

/-- A guard that holds has held since it was taken. -/
theorem Guard.Holds.earlier {guard : Guard} {now later : Instant} (h : guard.Holds later)
    (hle : now.nanos ≤ later.nanos) : guard.Holds now :=
  ⟨h.1, Nat.lt_of_le_of_lt hle h.2⟩

/-- A world that instances share, and the guards that they were given in it. -/
structure Custody where
  /-- The world. -/
  world : World
  /-- The guards, the oldest first. -/
  guards : List Guard := []

/-- What happens next. -/
inductive LockMove where
  /-- An instance tries to take the lock of a job for a lifetime. -/
  | acquire (job : String) (ttl : Duration)
  /-- An instance releases the lock that its guard is for, and has the guard no more. -/
  | release (guard : Nat)
  /-- Time passes. -/
  | wait (duration : Duration)

namespace Custody

/-- The steady clock now. -/
def now (custody : Custody) : Instant := custody.world.clock.instant

variable (around : Surroundings)

/-- Makes a move. -/
def make (custody : Custody) : LockMove → Custody
  | .acquire job ttl =>
    match (Lock.acquire job ttl).run (World.handler around) custody.world with
    | (some (.ok (some key)), world) =>
      { world, guards := custody.guards ++ [⟨job, key, custody.now, ttl, false⟩] }
    | (_, world) => { custody with world }
  | .release number =>
    match custody.guards[number]? with
    | some ⟨job, key, taken, ttl, false⟩ =>
      { world := ((Lock.release key).run (World.handler around) custody.world).2
        guards := custody.guards.set number ⟨job, key, taken, ttl, true⟩ }
    | _ => custody
  | .wait duration =>
    { custody with
      world := { custody.world with clock := custody.world.clock.advance duration } }

/-- Makes moves one after the other. -/
def makeAll (moves : List LockMove) (custody : Custody) : Custody :=
  moves.foldl (make around) custody

/-- A move is no late release at the cost of others: whoever releases a lock still holds it, or else
nobody does. -/
def Considerate (custody : Custody) : LockMove → Prop
  | .release number => ∀ guard, custody.guards[number]? = some guard → guard.isReleased = false →
      guard.Holds custody.now ∨
        ∀ other ∈ custody.guards, other.job = guard.job → ¬ other.Holds custody.now
  | _ => True

/-- All moves are considerate when they are made. -/
def AllConsiderate : List LockMove → Custody → Prop
  | [], _ => True
  | move :: moves, custody =>
    custody.Considerate move ∧ AllConsiderate moves (custody.make around move)

/-- What makes locks exclusive: whoever holds one has its entry, and nobody else holds it. -/
structure Exclusive (custody : Custody) : Prop where
  /-- Guards are given with the key of the job. -/
  keyed : ∀ guard ∈ custody.guards, guard.key = Lock.keyFor guard.job
  /-- The entry of a lock that is held lives as long as the guard holds. -/
  entry : ∀ guard ∈ custody.guards, guard.Holds custody.now →
    ∃ entry, custody.world.keyValue.lookup? guard.key = some entry ∧
      guard.taken.nanos + guard.ttl.nanos ≤ entry.deadline.nanos
  /-- A lock is held through one guard. -/
  unique : ∀ (first second : Nat) (guard other : Guard), custody.guards[first]? = some guard →
    custody.guards[second]? = some other → guard.job = other.job → guard.Holds custody.now →
      other.Holds custody.now → first = second

variable {around} {custody : Custody}

/-- Before any guard is given, nobody holds a lock. -/
theorem Exclusive.start (world : World) : Exclusive { world } := by
  refine ⟨?_, ?_, ?_⟩
  · rintro guard ⟨⟩
  · rintro guard ⟨⟩
  · rintro first second guard other ⟨⟩

/-- A lock whose key has no live value is held by nobody. -/
theorem Exclusive.not_holds (h : custody.Exclusive) {job : String}
    (hfree : (custody.world.keyValue.get custody.now (Lock.keyFor job)).isSome = false)
    {guard : Guard} (hmem : guard ∈ custody.guards) (hjob : guard.job = job) :
    ¬ guard.Holds custody.now := by
  intro hholds
  obtain ⟨entry, hentry, hdeadline⟩ := h.entry guard hmem hholds
  rw [h.keyed guard hmem, hjob] at hentry
  have hlive : entry.isLiveAt custody.now = true := by
    simpa [KeyValue.Entry.isLiveAt] using Nat.lt_of_lt_of_le hholds.2 hdeadline
  rw [KeyValue.Table.isSome_get hentry hlive] at hfree
  cases hfree

/-- Taking a lock that is free keeps locks exclusive. -/
theorem Exclusive.acquire (h : custody.Exclusive) {job : String} {ttl : Duration}
    {deadline : Instant}
    (hfree : (custody.world.keyValue.get custody.now (Lock.keyFor job)).isSome = false)
    (hdeadline : custody.now.plus? ttl = some deadline) :
    Exclusive
      { world := { custody.world with
          keyValue := custody.world.keyValue.put ⟨Lock.keyFor job, Lock.heldValue, deadline⟩ }
        guards := custody.guards ++ [⟨job, Lock.keyFor job, custody.now, ttl, false⟩] } := by
  have hnobody {guard : Guard} (hmem : guard ∈ custody.guards) (hjob : guard.job = job) :=
    h.not_holds hfree hmem hjob
  refine ⟨?_, ?_, ?_⟩
  · intro guard hmem
    rcases List.mem_append.1 hmem with hold | hnew
    · exact h.keyed guard hold
    · obtain rfl := List.mem_singleton.1 hnew
      rfl
  · intro guard hmem hholds
    rcases List.mem_append.1 hmem with hold | hnew
    · obtain ⟨entry, hentry, hlasts⟩ := h.entry guard hold hholds
      refine ⟨entry, (KeyValue.Table.lookup?_put_of_ne ?_).trans hentry, hlasts⟩
      -- whoever holds a lock holds another one
      rw [h.keyed guard hold]
      exact fun heq => hnobody hold (Lock.keyFor_inj.1 heq) hholds
    · obtain rfl := List.mem_singleton.1 hnew
      exact ⟨_, KeyValue.Table.lookup?_put_self _,
        Nat.le_of_eq (Instant.nanos_of_plus? hdeadline).symm⟩
  · intro first second guard other hfirst hsecond hjob hholds hother
    rcases getElem?_concat_cases hfirst with hfound | ⟨hlast, rfl⟩
    · rcases getElem?_concat_cases hsecond with hfound' | ⟨-, rfl⟩
      · exact h.unique first second guard other hfound hfound' hjob hholds hother
      · exact absurd hholds (hnobody (List.mem_of_getElem? hfound) hjob)
    · rcases getElem?_concat_cases hsecond with hfound' | ⟨hlast', rfl⟩
      · exact absurd hother (hnobody (List.mem_of_getElem? hfound') hjob.symm)
      -- both are the guard that was given last
      · have hlt := (List.getElem?_eq_some_iff.1 hfirst).1
        have hlt' := (List.getElem?_eq_some_iff.1 hsecond).1
        rw [List.length_append, List.length_singleton] at hlt hlt'
        omega

/-- Releasing a lock keeps locks exclusive, if nobody else holds it. -/
theorem Exclusive.release (h : custody.Exclusive) {number : Nat} {guard : Guard}
    (hguard : custody.guards[number]? = some guard)
    (halone : ∀ (place : Nat) (other : Guard), custody.guards[place]? = some other →
      place ≠ number → other.job = guard.job → ¬ other.Holds custody.now) :
    Exclusive
      { world := { custody.world with keyValue := custody.world.keyValue.erase guard.key }
        guards := custody.guards.set number { guard with isReleased := true } } := by
  have hreleased : ¬ Guard.Holds { guard with isReleased := true } custody.now := by
    rintro ⟨⟨⟩, -⟩
  have hkey := h.keyed guard (List.mem_of_getElem? hguard)
  refine ⟨?_, ?_, ?_⟩
  · intro other hmem
    rcases List.mem_or_eq_of_mem_set hmem with hold | rfl
    · exact h.keyed other hold
    · exact hkey
  · intro other hmem hholds
    obtain ⟨place, hplace⟩ := List.mem_iff_getElem?.1 hmem
    rcases getElem?_set_cases hplace with ⟨rfl, rfl⟩ | ⟨hne, hfound⟩
    · exact absurd hholds hreleased
    · have hmem := List.mem_of_getElem? hfound
      obtain ⟨entry, hentry, hlasts⟩ := h.entry other hmem hholds
      refine ⟨entry, (KeyValue.Table.lookup?_erase_of_ne ?_).trans hentry, hlasts⟩
      rw [h.keyed other hmem, hkey]
      exact fun heq => halone place other hfound hne.symm (Lock.keyFor_inj.1 heq) hholds
  · intro first second guard' other hfirst hsecond hjob hholds hother
    rcases getElem?_set_cases hfirst with ⟨rfl, rfl⟩ | ⟨-, hfirst⟩
    · exact absurd hholds hreleased
    rcases getElem?_set_cases hsecond with ⟨rfl, rfl⟩ | ⟨-, hsecond⟩
    · exact absurd hother hreleased
    exact h.unique first second guard' other hfirst hsecond hjob hholds hother

/-- Locks stay exclusive while time passes. -/
theorem Exclusive.wait (h : custody.Exclusive) (duration : Duration) :
    (custody.make around (.wait duration)).Exclusive := by
  have hle : custody.now.nanos ≤ (custody.make around (.wait duration)).now.nanos :=
    Nat.le_add_right _ _
  refine ⟨h.keyed, ?_, ?_⟩
  · exact fun guard hmem hholds => h.entry guard hmem (hholds.earlier hle)
  · exact fun first second guard other hfirst hsecond hjob hholds hother =>
      h.unique first second guard other hfirst hsecond hjob (hholds.earlier hle)
        (hother.earlier hle)

/-- Whoever tries to take a lock gets a guard if the lock is free, and otherwise changes nothing. -/
theorem make_acquire (around : Surroundings) (custody : Custody) (job : String) (ttl : Duration) :
    custody.make around (.acquire job ttl) = custody ∨
      ((custody.world.keyValue.get custody.now (Lock.keyFor job)).isSome = false ∧
        ∃ deadline, custody.now.plus? ttl = some deadline ∧
          custody.make around (.acquire job ttl) =
            { world := { custody.world with
                keyValue := custody.world.keyValue.put
                  ⟨Lock.keyFor job, Lock.heldValue, deadline⟩ }
              guards := custody.guards ++
                [⟨job, Lock.keyFor job, custody.now, ttl, false⟩] }) := by
  rw [make, Lock.run_acquire, now]
  rcases hfree : (custody.world.keyValue.get custody.world.clock.instant
    (Lock.keyFor job)).isSome with _ | _
  · rcases custody.world.clock.instant.plus? ttl with _ | deadline
    · exact .inl rfl
    · exact .inr ⟨rfl, deadline, rfl, rfl⟩
  · exact .inl rfl

/-- A considerate move keeps locks exclusive. -/
theorem Exclusive.make (h : custody.Exclusive) {move : LockMove}
    (hmove : custody.Considerate move) : (custody.make around move).Exclusive := by
  cases move with
  | acquire job ttl =>
    rcases make_acquire around custody job ttl with
      heq | ⟨hfree, deadline, hdeadline, heq⟩
    · rw [heq]
      exact h
    · rw [heq]
      exact h.acquire hfree hdeadline
  | release number =>
    rw [Custody.make]
    split
    · rename_i job key taken ttl hguard
      refine h.release hguard ?_
      intro place other hother hne hjob hholds
      rcases hmove _ hguard rfl with hown | hnobody
      · exact hne (h.unique place number other _ hother hguard hjob hholds hown)
      · exact hnobody other (List.mem_of_getElem? hother) hjob hholds
    · exact h
  | wait duration => exact h.wait duration

/-- Considerate moves keep locks exclusive. -/
theorem Exclusive.makeAll {moves : List LockMove} (h : custody.Exclusive)
    (hmoves : custody.AllConsiderate around moves) : (custody.makeAll around moves).Exclusive := by
  induction moves generalizing custody with
  | nil => exact h
  | cons move moves ih => exact ih (h.make hmoves.1) hmoves.2

end Custody

/-- Locks are exclusive as long as no guard is released late while another one holds the lock: after
any moves of any instances, two guards that have been given for the lock of one job, and are both
unreleased and younger than their lifetimes, are the same. -/
theorem lock_exclusive {around : Surroundings} {start : World} {moves : List LockMove}
    (hmoves : Custody.AllConsiderate around moves { world := start }) {first second : Nat}
    {guard other : Guard}
    (hfirst : (Custody.makeAll around moves { world := start }).guards[first]? = some guard)
    (hsecond : (Custody.makeAll around moves { world := start }).guards[second]? = some other)
    (hjob : guard.job = other.job)
    (hholds : guard.Holds (Custody.makeAll around moves { world := start }).now)
    (hother : other.Holds (Custody.makeAll around moves { world := start }).now) :
    first = second :=
  ((Custody.Exclusive.start start).makeAll hmoves).unique first second guard other hfirst hsecond
    hjob hholds hother

/-- A lock is released in time, taken again, abandoned, and taken over when its lifetime has ended.
-/
def LockMove.plainTakeover : List LockMove :=
  [.acquire "job" (.ofSeconds 10), .release 0, .acquire "job" (.ofSeconds 10),
    .wait (.ofSeconds 11), .acquire "job" (.ofSeconds 10)]

/-- What has come of that. -/
def Custody.plainTakeover : Custody :=
  .makeAll .plain LockMove.plainTakeover { world := .fresh ⟨⟨0⟩, .zero⟩ {} }

/-- When a lock has been taken over, whoever took it over holds it, and nobody else does. -/
theorem lock_exclusive_takeover :
    ∃ guard, Custody.plainTakeover.guards[2]? = some guard ∧
      guard.Holds Custody.plainTakeover.now ∧
        ∀ (place : Nat) (other : Guard), Custody.plainTakeover.guards[place]? = some other →
          other.job = guard.job → other.Holds Custody.plainTakeover.now → place = 2 := by
  have hmoves : Custody.AllConsiderate .plain LockMove.plainTakeover
      { world := .fresh ⟨⟨0⟩, .zero⟩ {} } := by
    refine ⟨trivial, ?_, trivial, trivial, trivial, trivial⟩
    -- the only release is in time
    rintro guard ⟨⟩ -
    exact .inl ⟨rfl, by decide⟩
  have hlast : Guard.Holds ⟨"job", "job_lock", ⟨11000000000⟩, .ofSeconds 10, false⟩
      Custody.plainTakeover.now := ⟨rfl, by decide⟩
  refine ⟨_, rfl, hlast, ?_⟩
  intro place other hother hjob hholds
  exact lock_exclusive hmoves hother rfl hjob hholds hlast

/-- A lock outlives its lifetime, is taken over, and is released late; then it is taken again. -/
def Custody.plainLate : Custody :=
  .makeAll .plain
    [.acquire "job" (.ofSeconds 10), .wait (.ofSeconds 11), .acquire "job" (.ofSeconds 10),
      .release 0, .acquire "job" (.ofSeconds 10)]
    { world := .fresh ⟨⟨0⟩, .zero⟩ {} }

/-- Locks are not exclusive as such: a late release lets a third instance take a lock that the
second one still holds. -/
theorem lock_shared :
    ∃ guard other, Custody.plainLate.guards[1]? = some guard ∧
      Custody.plainLate.guards[2]? = some other ∧ guard.job = other.job ∧
        guard.Holds Custody.plainLate.now ∧ other.Holds Custody.plainLate.now :=
  ⟨⟨"job", "job_lock", ⟨11000000000⟩, .ofSeconds 10, false⟩,
    ⟨"job", "job_lock", ⟨11000000000⟩, .ofSeconds 10, false⟩, rfl, rfl, rfl,
    ⟨rfl, by decide⟩, ⟨rfl, by decide⟩⟩

end Gatehouse
