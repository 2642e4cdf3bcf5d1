import Gatehouse.Command.Invocation
import Gatehouse.Sql.Store
import Gatehouse.Sweep

/-!
# Procedures

What a command asks of the process that it runs in, and the programs made of these calls. A
procedure is such a program that may be given up, with a message and perhaps what caused it.
-/

namespace Gatehouse.Command

/-- Why a command is given up. -/
structure Abort where
  /-- What could not be done. -/
  message : String
  /-- What caused it, if the message does not say so. -/
  cause : Option String := none
  deriving DecidableEq, Repr

/-- The text of an abort: the cause stands in a paragraph of its own, and all its lines are
indented. -/
def Abort.text (abort : Abort) : String :=
  match abort.cause with
  | none => "Error: " ++ abort.message
  | some cause =>
    "Error: " ++ abort.message ++ "\n\nCaused by:\n    " ++
      String.intercalate "\n    " (cause.splitOn "\n")

/-- A call that a command makes. -/
inductive ProcessCall where
  /-- Prints a line. -/
  | print (line : String)
  /-- Reads the next line of the input, with its end. -/
  | readLine
  /-- Reads a file. -/
  | readFile (path : String)
  /-- Connects to the database and sets up the tables. -/
  | openStores (settings : Sql.Settings)
  /-- Makes a statement on the database. -/
  | statement (statement : Sql.Statement)
  /-- Makes a call that a request makes. -/
  | request (call : RequestCall)
  /-- Answers requests, with the error texts of a catalog, until the process is to stop. -/
  | listen (serving : Serving) (catalog : Catalog)

/-- What a call that a command makes gives. -/
def ProcessCall.Reply : ProcessCall → Type
  | .print _ => Unit
  | .readLine => Bytes
  | .readFile _ => FileContent
  | .openStores _ => Except StorageError Unit
  | .statement made => Except Sql.Fault (Sql.Answer made.Row)
  | .request call => call.Reply
  | .listen _ _ => Unit

/-- All that a command can ask. -/
def process : Interface where
  Call := ProcessCall
  Reply := ProcessCall.Reply

/-- A program of a command that may be given up. -/
abbrev Procedure (α : Type) : Type := ExceptT Abort (Program process) α

namespace Procedure

variable {α ε : Type}

/-- Makes a call that cannot fail. -/
def call (call : ProcessCall) : Procedure call.Reply :=
  ExceptT.lift (Program.call (I := process) call)

/-- Prints a line. -/
def print (line : String) : Procedure Unit := call (.print line)

/-- Goes on with a value, and gives up where there is a failure. -/
def require (abort : ε → Abort) : Except ε α → Procedure α
  | .ok value => pure value
  | .error error => throw (abort error)

/-- The abort of a procedure whose store fails. -/
def storeAbort (error : StorageError) : Abort := ⟨error.message, none⟩

/-- Connects to the database and sets up the tables. -/
def openStores (settings : Sql.Settings) : Procedure Unit := do
  let outcome : Except StorageError Unit ← call (.openStores settings)
  require storeAbort outcome

/-- Works on the database. -/
def work (work : Sql.Work α) : Procedure α := do
  let outcome ← ExceptT.lift
    (Program.interpret (fun made => Program.call (I := process) (.statement made)) work.run)
  require storeAbort outcome

/-- Works on a request. -/
def request (request : Request α) : Procedure α :=
  ExceptT.lift
    (Program.interpret (fun call => Program.call (I := process) (.request call)) request)

end Procedure

end Gatehouse.Command
