import Gatehouse.Command.Machine
import Gatehouse.Command.Run

/-!
# The program

Runs a command in the process itself: lines are printed, the input and files are read, and random
bytes are drawn from the system. No database can be reached from here.
-/

namespace Gatehouse.Command

/-- Reads the next line of the input, byte by byte. -/
partial def readInputLine (input : IO.FS.Stream) (front : Bytes) : IO Bytes := do
  let bytes ← input.read 1
  match bytes.data.toList with
  | [] => return front.reverse
  | byte :: _ =>
    if byte = 10 then return (byte :: front).reverse else readInputLine input (byte :: front)

/-- Reads a file. -/
def readSystemFile (path : String) : IO FileContent := do
  match FileFault.ofPath? path with
  | some fault => return .error fault
  | none =>
    try
      let bytes ← IO.FS.readBinFile path
      return FileContent.ofBytes bytes.data.toList
    catch error =>
      match error with
      | .inappropriateType _ 20 _ => return .error .notDirectory
      | .inappropriateType .. => return .error .directory
      | .invalidArgument _ 36 _ => return .error .nameTooLong
      | _ => return .error .missing

/-- Answers a call of a command. -/
def answerInProcess (around : Surroundings) (machine : Machine) :
    (call : ProcessCall) → IO (Option call.Reply × Machine)
  | .print line => do
    IO.println line
    return (some (), machine)
  | .readLine => do return (some (← readInputLine (← IO.getStdin) []), machine)
  | .readFile path => do return (some (← readSystemFile path), machine)
  | call => return Machine.handler around (fun _ => .error .missing) call machine

/-- Runs a program of a command. -/
def perform {α : Type} (around : Surroundings) : Program process α → Machine → IO (Option α)
  | .done value, _ => return some value
  | .ask call next, machine => do
    match ← answerInProcess around machine call with
    | (some reply, machine) => perform around (next reply) machine
    | (none, _) => return none

/-- The variables of the environment that the program looks at. -/
def variableNames : List String :=
  ["DATABASE_URL", "PGHOST", "PGPORT", "PGUSER", "PGPASSWORD", "PGDATABASE"] ++
    (front.switches ++ places.flatMap (fun place => place.2.switches)).filterMap Switch.stand

/-- Reads the environment. -/
def readEnvironment : IO Environment := do
  let values ← variableNames.mapM (fun name => do return (name, ← IO.getEnv name))
  return fun name => (values.lookup name).join

/-- A database that cannot be reached. -/
def noDatabase : Sql.Server where
  settings := { host := "localhost", user := "", password := none, database := "" }
  address := none
  login := .trusted

end Gatehouse.Command

open Gatehouse Gatehouse.Command

/-- Runs the program. -/
def main (arguments : List String) : IO UInt32 := do
  let seed ← IO.getRandomBytes 32
  let around : Surroundings :=
    { hasher := PasswordHash.hasher PasswordHash.defaultCost
      provider := fun _ => .error .invalidCredentials
      entropy := seed.data.toList.take 16
      random := fun _ => seed.data.toList }
  let machine : Machine := { stores := { clock := default, server := noDatabase } }
  match ← perform around (execute (← readEnvironment) arguments) machine with
  | none => return 1
  | some ending =>
    if !ending.complaint.isEmpty then IO.eprintln ending.complaint
    return ending.status.toUInt32
