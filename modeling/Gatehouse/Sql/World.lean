import Gatehouse.Sql.Server
import Gatehouse.World

/-!
# The world of a process whose stores are in a database

Every call to a store is put to the database; the clocks and the supply of random bytes are those of
a process that keeps its stores in memory.
-/

namespace Gatehouse.Sql

/-- The database, the clocks, and how many draws of random bytes have been made. -/
structure World where
  /-- The clocks. -/
  clock : Clock
  /-- The database. -/
  server : Server
  /-- The number of draws made. -/
  draws : Nat := 0

namespace World

variable {α : Type}

/-- Does work on the database. -/
def work (world : World) (work : Work α) : Option (Except StorageError α) × World :=
  let (outcome, server) := Program.run Server.answer work.run world.server
  (outcome, { world with server })

/-- Answers every call of a request. -/
def handler (around : Surroundings) : Handler requests World := fun call world =>
  match call with
  | .store call => world.work (answer world.clock.now call)
  | .outside call =>
    let (reply, clock, draws) :=
      Gatehouse.World.answerOutside around world.clock world.draws call
    (some reply, { world with clock, draws })

/-- The world with its clock, for requests that share it. -/
def clocked (around : Surroundings) : Timeline.Clocked World where
  handler := handler around
  read world := world.clock.instant
  advance world duration := { world with clock := world.clock.advance duration }

end World

end Gatehouse.Sql
