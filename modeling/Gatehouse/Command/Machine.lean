import Gatehouse.Command.Procedure
import Gatehouse.Sql.World

/-!
# A machine for commands

A process that runs commands on a database which answers from a script: its input and files are laid
down beforehand, it keeps what is printed, and it is to stop as soon as it listens.
-/

namespace Gatehouse.Command

/-- The state of a machine. -/
structure Machine where
  /-- The database and the clocks. -/
  stores : Sql.World
  /-- The input that is left. -/
  input : Bytes := []
  /-- The lines printed, the latest first. -/
  printed : List String := []

namespace Machine

/-- Takes the next line from the input, with its end. -/
def takeLine (machine : Machine) : Bytes × Machine :=
  let text := machine.input.takeWhile (· != 10)
  let rest := machine.input.dropWhile (· != 10)
  (text ++ rest.take 1, { machine with input := rest.drop 1 })

/-- Changes the database by what is done on it. -/
def onServer {α : Type} (machine : Machine) (act : Sql.Server → α × Sql.Server) : α × Machine :=
  let (outcome, server) := act machine.stores.server
  (outcome, { machine with stores := { machine.stores with server } })

/-- Answers every call of a command. -/
def handler (around : Surroundings) (files : String → FileContent) : Handler process Machine :=
  fun call machine =>
    match call with
    | .print line => (some (), { machine with printed := line :: machine.printed })
    | .readLine =>
      let (line, machine) := machine.takeLine
      (some line, machine)
    | .readFile path => (some (files path), machine)
    | .openStores settings =>
      let (outcome, machine) :=
        machine.onServer (fun server => { server with settings }.setUp)
      (some outcome, machine)
    | .statement statement => machine.onServer (Sql.Server.answer statement)
    | .request call =>
      let (reply, stores) := Sql.World.handler around call machine.stores
      (reply, { machine with stores })
    | .listen _ _ => (some (), machine)

/-- What is printed, line by line. -/
def output (machine : Machine) : String :=
  String.join (machine.printed.reverse.map (fun line => line ++ "\n"))

end Machine

end Gatehouse.Command
