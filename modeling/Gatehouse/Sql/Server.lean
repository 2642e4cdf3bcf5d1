import Gatehouse.Sql.Settings
import Gatehouse.Sql.Store

/-!
# A database that answers from a script

A database whose replies are laid down beforehand, one for each statement, and which keeps a record
of the connections made to it and of the statements it was sent. A connection is made when a
statement finds none.
-/

namespace Gatehouse.Sql

/-- How the database meets a login. -/
inductive Login where
  /-- Everybody is let in. -/
  | trusted
  /-- A password is asked for, and any is taken. -/
  | password
  /-- Nobody is let in. -/
  | refused
  deriving DecidableEq, Repr

/-- The reply to a statement. -/
inductive Reply where
  /-- Rows, and the number of rows changed. -/
  | answer (rows : List (List Cell)) (affected : Nat)
  /-- The statement is refused before the values are sent. -/
  | refusedEarly
  /-- The statement is refused when it is carried out. -/
  | refused
  /-- The connection is closed instead of a reply. -/
  | close

/-- A statement that the database was sent. -/
structure Sent where
  /-- The statement. -/
  statement : Statement
  /-- Whether its values were sent as well. -/
  withParams : Bool

/-- A database that answers from a script. -/
structure Server where
  /-- How connections are made. -/
  settings : Settings
  /-- The host and the port where the database is, if there is one. -/
  address : Option (String × Nat)
  /-- How the database meets a login. -/
  login : Login
  /-- The account that the program runs under. -/
  account : String := "root"
  /-- Whether the batch that sets up the tables is refused. -/
  refusesSchema : Bool := false
  /-- The replies that are left. -/
  replies : List Reply := []
  /-- Whether there is a connection. -/
  isConnected : Bool := false
  /-- What was told to the database on each connection, in order. -/
  startups : List (List (String × String)) := []
  /-- How often the batch that sets up the tables was sent. -/
  batches : Nat := 0
  /-- The statements sent, the latest first. -/
  sent : List Sent := []

namespace Server

/-- Whether a text can stand in a message to the database, where a NUL ends it. -/
def isSendable (text : String) : Bool := !text.contains '\x00'

/-- Whether all that is told on a connection can be sent. -/
def areSendable (told : List (String × String)) : Bool := told.all (fun t => isSendable t.2)

/-- What is told to the database on a connection, with the password where it is asked for, or why
nothing is. What is told before a password is asked for has to be sendable first. -/
def greeting (server : Server) : Except ConnectFault (List (String × String)) :=
  let startup := server.settings.startup server.account
  if server.address ≠ some (server.settings.host, server.settings.port) then .error .unreachable
  else if !areSendable startup then .error .unsendable
  else if server.login = .password then
    match server.settings.password with
    | none => .error .noPassword
    | some password =>
      if isSendable password then .ok (startup ++ [("password", password)])
      else .error .unsendable
  else .ok startup

/-- Makes a connection, unless there is one. A refused login is recorded, and one that is given up
before all is told is not. -/
def connect (server : Server) : Except ConnectFault Unit × Server :=
  if server.isConnected then (.ok (), server)
  else if server.settings.database.isEmpty then (.error .noDatabase, server)
  else if server.settings.maxConnections = 0 then (.error .noSlot, server)
  else
    match server.greeting with
    | .error fault => (.error fault, server)
    | .ok told =>
      let server := { server with startups := server.startups ++ [told] }
      if server.login = .refused then (.error .refused, server)
      else (.ok (), { server with isConnected := true })

/-- Makes the first connection and sets up the tables. -/
def setUp (server : Server) : Except StorageError Unit × Server :=
  match server.connect with
  | (.error fault, server) => (.error (Fault.unconnected fault).storageError, server)
  | (.ok (), server) =>
    let server := { server with batches := server.batches + 1 }
    if server.refusesSchema then (.error Fault.refused.storageError, server) else (.ok (), server)

/-- Records that a statement was sent. -/
def record (server : Server) (statement : Statement) (withParams : Bool) : Server :=
  { server with sent := ⟨statement, withParams⟩ :: server.sent }

/-- Takes the next reply from the script; when none is left, there are no rows and no changes. -/
def take (server : Server) : Reply × Server :=
  match server.replies with
  | [] => (.answer [] 0, server)
  | reply :: replies => (reply, { server with replies })

/-- Answers a statement. There is no answer when a row does not hold what the statement's rows
hold. -/
def answer : Handler database Server := fun statement server =>
  match server.connect with
  -- Without a connection the statement is not sent, and no reply is used up.
  | (.error fault, server) => (some (.error (.unconnected fault)), server)
  | (.ok (), server) =>
    let (reply, server) := server.take
    match reply with
    | .refusedEarly => (some (.error .refused), server.record statement false)
    | .refused => (some (.error .refused), server.record statement true)
    | .close =>
      (some (.error .closed), { server.record statement true with isConnected := false })
    | .answer cells affected =>
      let reply := (cells.mapM statement.readRow?).map (fun rows => .ok ⟨rows, affected⟩)
      (reply, server.record statement true)

end Server

end Gatehouse.Sql
