import Gatehouse.Timeline

/-!
# The world of a single process

The stores held in memory together with the clocks and the supply of random bytes: everything that
the calls of a request can change. Pauses take whole milliseconds, so a pause is rounded up to one.
-/

namespace Gatehouse

/-- What stays as it is while requests are worked on. -/
structure Surroundings where
  /-- The way to make and check stored password hashes. -/
  hasher : Hasher
  /-- The identity provider. -/
  provider : String → Except AuthError Directory.Identity
  /-- The random bytes for the names of access tokens. -/
  entropy : Token.Entropy
  /-- The random bytes of each further draw. -/
  random : Nat → Bytes

/-- The stores in memory, the clocks, and how many draws of random bytes have been made. -/
structure World where
  /-- The clocks. -/
  clock : Clock
  /-- The shared entries. -/
  keyValue : KeyValue.Table := {}
  /-- The refresh sessions. -/
  sessions : Session.Table := {}
  /-- The directory. -/
  directory : Directory.Table := {}
  /-- The number of draws made. -/
  draws : Nat := 0

namespace World

/-- Answers a call to a store in memory. There is no answer when a lifetime ends later than the
clock can show. -/
def answerStore (world : World) :
    (call : StoreCall) → Option (Except StorageError call.Value) × World
  | .keyValue call =>
    match world.keyValue.answer world.clock.instant call with
    | some (value, keyValue) => (some (.ok value), { world with keyValue })
    | none => (none, world)
  | .session call =>
    let (reply, sessions) := world.sessions.answer world.clock.now call
    (some reply, { world with sessions })
  | .directory call =>
    let (reply, directory) := world.directory.answer call
    (some reply, { world with directory })

/-- The length of time that a pause takes. -/
def pauseTaken (duration : Duration) : Duration := .ofMillis duration.millisUp

/-- Answers a call to the outside, on the clocks and draws of a world. -/
def answerOutside (around : Surroundings) (clock : Clock) (draws : Nat) :
    (call : OutsideCall) → call.Reply × Clock × Nat
  | .now => (clock.now, clock, draws)
  | .pause duration => ((), clock.advance (pauseTaken duration), draws)
  | .tokenEntropy => (around.entropy, clock, draws)
  | .refreshEntropy => (around.random draws, clock, draws + 1)
  | .hashPassword password =>
    (around.hasher.hash ((around.random draws).take 16) password, clock, draws + 1)
  | .checkPassword password stored => (around.hasher.fits password stored, clock, draws)
  | .verifyIdentity token => (around.provider token, clock, draws)

/-- Answers every call of a request. -/
def handler (around : Surroundings) : Handler requests World := fun call world =>
  match call with
  | .store call => world.answerStore call
  | .outside call =>
    let (reply, clock, draws) := answerOutside around world.clock world.draws call
    (some reply, { world with clock, draws })

/-- The world with its clock, for requests that share it. -/
def clocked (around : Surroundings) : Timeline.Clocked World where
  handler := handler around
  read world := world.clock.instant
  advance world duration := { world with clock := world.clock.advance duration }

end World

end Gatehouse
