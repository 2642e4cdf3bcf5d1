import Gatehouse.Request
import Gatehouse.Sql.Statement

/-!
# Stores in a database

How the calls to the three stores are put to a database. A call makes one statement after another;
the first that fails fails the call. A batch of grants that names a store which the database does
not know is refused before anything is written.
-/

namespace Gatehouse.Sql

/-- Why no connection to the database is had. -/
inductive ConnectFault where
  /-- The settings name no database. -/
  | noDatabase
  /-- There may be no connections at all. -/
  | noSlot
  /-- The database asks for a password, and the settings have none. -/
  | noPassword
  /-- What is to be told to the database holds a NUL, which ends a text in its messages. -/
  | unsendable
  /-- The database refuses the login. -/
  | refused
  /-- Nothing answers at the address. -/
  | unreachable
  deriving DecidableEq, Repr

/-- The wording of a fault. -/
def ConnectFault.message : ConnectFault → String
  | noDatabase => "Config: configuration property \"dbname\" not found"
  | noSlot => "Timeout occurred while waiting for a slot to become available"
  | noPassword => "Error occurred while creating a new object: invalid configuration"
  | unsendable => "Error occurred while creating a new object: error encoding message to server"
  | refused => "Error occurred while creating a new object: db error"
  | unreachable => "Error occurred while creating a new object: error connecting to server"

/-- Why a statement has no answer, or not the expected one. -/
inductive Fault where
  /-- There is no connection. -/
  | unconnected (fault : ConnectFault)
  /-- The database refuses the statement. -/
  | refused
  /-- The connection was closed. -/
  | closed
  /-- There are more or fewer rows than the statement has. -/
  | rowCount
  deriving DecidableEq, Repr

/-- The wording of a fault. -/
def Fault.message : Fault → String
  | unconnected fault => fault.message
  | refused => "db error"
  | closed => "connection closed"
  | rowCount => "query returned an unexpected number of rows"

/-- The failure of a store whose statement fails. -/
def Fault.storageError (fault : Fault) : StorageError := .database fault.message

/-- The answer to a statement: its rows, and how many rows of a table it changed. -/
structure Answer (ρ : Type) where
  /-- The rows. -/
  rows : List ρ
  /-- The number of rows changed. -/
  affected : Nat

/-- A database, which answers statements or does not. -/
def database : Interface where
  Call := Statement
  Reply statement := Except Fault (Answer statement.Row)

/-- Work on a database that may fail. -/
abbrev Work (α : Type) : Type := ExceptT StorageError (Program database) α

/-- Makes a statement. -/
def send (statement : Statement) : Work (Answer statement.Row) :=
  ExceptT.mk (do
    match ← Program.call (I := database) statement with
    | .ok answer => pure (.ok answer)
    | .error fault => pure (.error fault.storageError))

/-- The rows of a statement. -/
def rows (statement : Statement) : Work (List statement.Row) := do
  return (← send statement).rows

/-- The row of a statement that has one or none. -/
def optionalRow (statement : Statement) : Work (Option statement.Row) := do
  match ← rows statement with
  | [] => return none
  | [row] => return some row
  | _ => throw Fault.rowCount.storageError

/-- The row of a statement that has one. -/
def onlyRow (statement : Statement) : Work statement.Row := do
  match ← optionalRow statement with
  | some row => return row
  | none => throw Fault.rowCount.storageError

/-- The number of rows that a statement changes. -/
def affected (statement : Statement) : Work Nat := do
  return (← send statement).affected

/-- The member of staff in a row. -/
def StaffRow.member (row : StaffRow) : Except StorageError Directory.Staff :=
  match Role.ofName? row.role with
  | some role => .ok ⟨row.id, row.username, row.email, row.passwordHash, role, row.isActive⟩
  | none => .error (.serialization ("unknown role in database: " ++ row.role))

/-- The member of staff in a row that may be missing. -/
def memberOf : Option StaffRow → Except StorageError (Option Directory.Staff)
  | none => .ok none
  | some row => row.member.map some

/-- Makes a statement that changes a member of staff, who has to exist. -/
def changeStaff (id : PrincipalId) (statement : Statement) : Work Unit := do
  if (← affected statement) = 0 then throw (Directory.noStaff id)

/-- Grants stores, all of which have to exist. -/
def grantStores (id : PrincipalId) (stores : List StoreId) : Work Unit := do
  let ids : List StoreId ← rows (.knownStores stores)
  let known := StoreSet.ofList ids
  match stores.find? (fun store => !known.contains store) with
  | some missing => throw (Directory.noStore missing)
  | none => discard (send (.addGrants id stores))

/-- The stores of a member of staff who has the role given. -/
def storeList (id : PrincipalId) (role : Role) : Work StoreSet := do
  match role with
  | .superAdmin =>
    let stores : List StoreId ← rows .openStores
    return .ofList stores
  | _ =>
    let stores : List StoreId ← rows (.grantedStores id)
    return .ofList stores

/-- Puts a call to the directory to a database. -/
def answerDirectory : (call : Directory.Call) → Work call.Value
  | .findStaff username => do
    let row : Option StaffRow ← optionalRow (.findStaff username)
    MonadExcept.ofExcept (memberOf row)
  | .getStaff id => do
    let row : Option StaffRow ← optionalRow (.getStaff id)
    MonadExcept.ofExcept (memberOf row)
  | .storeList id role => storeList id role
  | .setPasswordHash id hash => changeStaff id (.setPasswordHash id hash)
  | .setRole id role => changeStaff id (.setRole id role)
  | .setActive id active => changeStaff id (.setActive id active)
  | .grantStores id stores => grantStores id stores
  | .revokeStores id stores => discard (send (.deleteGrants id stores))
  | .getCustomer id => optionalRow (.getCustomer id)
  | .upsertCustomer identity => onlyRow (.upsertCustomer identity)

/-- Puts a call to the sessions to a database, at a time. A negative count counts as none. -/
def answerSession (now : Timestamp) : (call : Session.Call) → Work call.Value
  | .create new => onlyRow (.addSession new now)
  | .find kind token => do
    match ← optionalRow (.findSession kind token) with
    | some row => return row
    | none => throw (.notFound "refresh session")
  | .revoke kind token => optionalRow (.revokeSession kind token)
  | .countSweepable kind => do
    let count : Int64 ← onlyRow (.countSweepable kind)
    return count.toInt.toNat
  | .deleteSweepable kind batchSize => affected (.deleteSweepable kind batchSize)

/-- Puts a call to the shared entries to a database. -/
def answerKeyValue : (call : KeyValue.Call) → Work call.Value
  | .get key => optionalRow (.getEntry key)
  | .set key value ttl => discard (send (.setEntry key value ttl))
  | .setIfAbsent key value ttl => do return (← affected (.setAbsentEntry key value ttl)) == 1
  | .delete key => discard (send (.deleteEntry key))
  | .purge => affected .purgeEntries

/-- Puts a call to a store to a database, at a time. -/
def answer (now : Timestamp) : (call : StoreCall) → Work call.Value
  | .keyValue call => answerKeyValue call
  | .session call => answerSession now call
  | .directory call => answerDirectory call

/-- Adds a member of staff, and gives the new id. -/
def addStaff (username email passwordHash : String) (role : Role) : Work PrincipalId :=
  onlyRow (.addStaff username email passwordHash role)

/-- Finds out whether the database answers. -/
def ping : Work Unit := discard (send .ping)

end Gatehouse.Sql
