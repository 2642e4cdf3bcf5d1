import Gatehouse.Sweep

/-!
# Requests and a periodic sweep on one clock

A clock that moves only when everybody waits. In the foreground runs a batch of requests, started in
order, each until it pauses; in the background there may be a sweep that is repeated at an interval.
When all wait, the clock jumps to the next waiter's time; at equal times the foreground goes first.
A tick of the interval that is met late is followed by the next multiple of the interval, so ticks
are never made up for.
-/

namespace Gatehouse.Timeline

/-- A request that waits: until when, in milliseconds of the steady clock, and how it goes on. -/
structure Waiting (α : Type) where
  /-- When the request goes on. -/
  wake : Nat
  /-- How the request goes on. -/
  rest : Request α

/-- How far a request came. -/
inductive Progress (α : Type) where
  /-- The request is done. -/
  | finished (value : α)
  /-- The request broke off. -/
  | broken
  /-- The request waits. -/
  | waiting (request : Waiting α)

/-- A repeated sweep in the background. -/
structure Runner where
  /-- How the sessions are swept. -/
  settings : SweepSettings
  /-- Whether shared entries past their lifetime are dropped. -/
  purges : Bool
  /-- The time from one sweep to the next. -/
  interval : Duration
  /-- When the next sweep is due, on the steady clock. -/
  due : Instant
  /-- The sweep that is under way. -/
  sweep : Option (Waiting Sweep.Outcome)
  /-- Whether a sweep has broken off, and the repetition with it. -/
  isBroken : Bool := false

/-- A world with a clock that can be read and set. -/
structure Clocked (σ : Type) where
  /-- Answers the calls of a request. -/
  handler : Handler requests σ
  /-- Reads the steady clock. -/
  read : σ → Instant
  /-- Lets time pass. -/
  advance : σ → Duration → σ

variable {σ α : Type}

/-- The milliseconds that the steady clock shows. -/
def Clocked.millis (world : Clocked σ) (state : σ) : Nat :=
  (world.read state).nanos / Duration.nanosPerMilli

/-- Moves the steady clock forward to a number of milliseconds. -/
def Clocked.moveTo (world : Clocked σ) (state : σ) (millis : Nat) : σ :=
  world.advance state (.ofMillis (millis - world.millis state))

/-- Runs a request until it ends or pauses. -/
def runToPause (world : Clocked σ) : Request α → σ → Progress α × σ
  | .done value, state => (.finished value, state)
  | .ask call next, state =>
    match call, next with
    -- A pause is not put to the world: the clock moves only when everybody waits.
    | .outside (.pause duration), next =>
      (.waiting ⟨world.millis state + duration.millisUp, next ()⟩, state)
    | call, next =>
      match world.handler call state with
      | (some reply, state) => runToPause world (next reply) state
      | (none, state) => (.broken, state)

/-- The first whole millisecond at or after a reading of the clock. -/
def millisAt (instant : Instant) : Nat :=
  (instant.nanos + (Duration.nanosPerMilli - 1)) / Duration.nanosPerMilli

/-- How late a tick may be met and still count as met in time. -/
def lateness : Duration := .ofMillis 5

/-- When the tick after the one due is due, if that one is met at `now`. -/
def Runner.nextDue (runner : Runner) (now : Instant) : Instant :=
  if runner.due.nanos + lateness.nanos < now.nanos then
    ⟨now.nanos + runner.interval.nanos -
      (now.nanos - runner.due.nanos) % runner.interval.nanos⟩
  else ⟨runner.due.nanos + runner.interval.nanos⟩

/-- When the runner has something to do next, in milliseconds. -/
def Runner.wake (runner : Runner) : Nat :=
  match runner.sweep with
  | some waiting => waiting.wake
  | none => millisAt runner.due

/-- Whether a runner is alive: one without an interval breaks off before its first sweep, and every
one with a sweep that does. -/
def Runner.isAlive (runner : Runner) : Bool := !runner.interval.isZero && !runner.isBroken

/-- Takes up what came of the runner's sweep. -/
def Runner.settle (runner : Runner) : Progress Sweep.Outcome → Runner
  | .waiting sweep => { runner with sweep := some sweep }
  | .finished _ => { runner with sweep := none }
  | .broken => { runner with sweep := none, isBroken := true }

/-- Lets the runner do what it has to do now: go on with its sweep, or start one. -/
def Runner.work (world : Clocked σ) (runner : Runner) (state : σ) : Runner × σ :=
  match runner.sweep with
  | some waiting =>
    let (progress, state) := runToPause world waiting.rest state
    (runner.settle progress, state)
  | none =>
    let runner := { runner with due := runner.nextDue (world.read state) }
    let (progress, state) := runToPause world (Sweep.runOnce runner.settings runner.purges) state
    (runner.settle progress, state)

/-- The runner's next time, if it comes before the time of the foreground. -/
def Runner.wakeBefore? (runner : Option Runner) (time : Nat) : Option (Runner × Nat) :=
  match runner with
  | none => none
  | some runner =>
    if runner.isAlive && runner.wake < time then some (runner, runner.wake) else none

/-- Waits in the foreground until a number of milliseconds, while the background works. -/
def waitUntil (world : Clocked σ) (time : Nat) : Nat → Option Runner → σ → Option Runner × σ
  | 0, runner, state => (runner, world.moveTo state time)
  | fuel + 1, runner, state =>
    match Runner.wakeBefore? runner time with
    | none => (runner, world.moveTo state time)
    | some (background, wake) =>
      let (background, state) := background.work world (world.moveTo state wake)
      waitUntil world time fuel (some background) state

/-- How many times the background can at most work before a number of milliseconds: once for every
nanosecond of an interval, and once for every pause of a sweep. -/
def workLimit (world : Clocked σ) (time : Nat) (state : σ) : Nat :=
  (time + 1) * Duration.nanosPerMilli - (world.read state).nanos + 0x100000000

/-- Lets the foreground sleep for a number of milliseconds. -/
def sleep (world : Clocked σ) (millis : Nat) (runner : Option Runner) (state : σ) :
    Option Runner × σ :=
  let time := world.millis state + millis
  waitUntil world time (workLimit world time state) runner state

/-- The time at which the first of some requests goes on. -/
def firstWake (batch : List (Progress α)) : Option Nat :=
  (batch.filterMap (fun progress =>
    match progress with
    | .waiting request => some request.wake
    | _ => none)).min?

/-- Goes on with the requests of a batch whose time has come, in order. -/
def goOn (world : Clocked σ) (time : Nat) : List (Progress α) → σ → List (Progress α) × σ
  | [], state => ([], state)
  | progress :: rest, state =>
    let (progress, state) :=
      match progress with
      | .waiting request =>
        if request.wake ≤ time then runToPause world request.rest state else (progress, state)
      | progress => (progress, state)
    let (rest, state) := goOn world time rest state
    (progress :: rest, state)

/-- Runs a batch of requests to their ends, in at most `fuel` rounds. -/
def finish (world : Clocked σ) :
    Nat → Option Runner → List (Progress α) → σ → List (Progress α) × Option Runner × σ
  | 0, runner, batch, state => (batch, runner, state)
  | fuel + 1, runner, batch, state =>
    match firstWake batch with
    | none => (batch, runner, state)
    | some time =>
      let (runner, state) := waitUntil world time (workLimit world time state) runner state
      let (batch, state) := goOn world time batch state
      finish world fuel runner batch state

/-- Starts requests in order, each until it pauses, and runs them to their ends. A request without
a value broke off. -/
def runAll (world : Clocked σ) (programs : List (Request α)) (runner : Option Runner) (state : σ) :
    List (Option α) × Option Runner × σ :=
  let (batch, state) := goOn world 0 (programs.map (fun program => .waiting ⟨0, program⟩)) state
  let (batch, runner, state) := finish world 0x100000000 runner batch state
  let values := batch.map (fun progress =>
    match progress with
    | .finished value => some value
    | _ => none)
  (values, runner, state)

/-- Runs one request to its end. -/
def runOne (world : Clocked σ) (program : Request α) (runner : Option Runner) (state : σ) :
    Option α × Option Runner × σ :=
  let (values, runner, state) := runAll world [program] runner state
  (values.head?.join, runner, state)

/-- A runner that is started now: its first sweep is due one interval later. -/
def start (world : Clocked σ) (settings : SweepSettings) (purges : Bool) (interval : Duration)
    (state : σ) : Runner :=
  { settings, purges, interval
    due := ⟨(world.read state).nanos + interval.nanos⟩
    sweep := none }

/-- Stops a runner: a sweep that is under way is waited for, in at most `fuel` rounds. -/
def stop (world : Clocked σ) : Nat → Runner → σ → σ
  | 0, _, state => state
  | fuel + 1, runner, state =>
    match runner.sweep with
    | none => state
    | some waiting =>
      let state := world.moveTo state waiting.wake
      let (runner, state) := runner.work world state
      stop world fuel runner state

end Gatehouse.Timeline
