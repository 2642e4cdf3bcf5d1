import Gatehouse.Command.Procedure
import Gatehouse.Service.Administration
import Gatehouse.Text.Blank

/-!
# Running a command

What each command does, as a procedure. Where the database is has to be known before anything else,
except to hash a password; a password is read and checked before the database is reached, and the
address to listen at is looked at after. Lines that were printed before a command is given up stay.
-/

namespace Gatehouse

namespace Sweep

/-- What a sweep did for one kind, in a line. -/
def KindReport.line (report : KindReport) : String :=
  match report.failure with
  | none =>
    report.kind.name ++ " " ++ toString report.deleted ++ " deleted in " ++
      toString report.batches ++ " batch(es)"
  | some failure =>
    report.kind.name ++ " failed after " ++ toString report.deleted ++ " deleted: " ++ failure

/-- How a sweep ends, in lines. -/
def Outcome.lines : Outcome → List String
  | skipped => ["Sweep skipped: another instance holds the lock"]
  | completed report =>
    report.kinds.map KindReport.line ++
      ["Expired cache/lock entries purged: " ++ toString report.purged]

/-- Whether a sweep met failures. -/
def Outcome.hasFailures : Outcome → Bool
  | skipped => false
  | completed report => report.hasFailures

end Sweep

namespace Command

/-- The abort of a catalog that cannot be loaded. -/
def catalogAbort (error : CatalogError) : Abort :=
  match error with
  | .unreadable _ fault => ⟨error.message, some fault.message⟩
  | .invalid problem => ⟨error.message, some problem.message⟩

/-- What is wrong with the address to listen at: it has to end in a colon and a port. -/
def addressFault? (address : String) : Option String :=
  match Text.cut ':' address.toList.reverse with
  | none => some "invalid socket address"
  | some (port, _) =>
    match Sql.port? (String.ofList port.reverse) with
    | none => some "invalid port value"
    | some _ => none

/-- The text of a line without its end. -/
def withoutEnd (line : String) : String :=
  String.ofList (Text.stripEnd (fun c => c = '\r' || c = '\n') line.toList)

/-- A password that is given, or else the one in the first line of the input. -/
def readPassword (given : Option String) : Procedure String :=
  match given with
  | some password => pure password
  | none => do
    let line : Bytes ← Procedure.call .readLine
    let text ← Procedure.require
      (fun fault => ⟨"Failed to read password from stdin", some fault.message⟩)
      (FileContent.ofBytes line)
    return withoutEnd text

/-- A stored hash of a password, which is read if it is not given and must not be too short. -/
def newHash (given : Option String) : Procedure String := do
  let password ← readPassword given
  if password.length < Service.shortestPassword then
    throw ⟨"password must be at least " ++ toString Service.shortestPassword ++ " characters", none⟩
  let outcome : Except String String ← Procedure.request (Request.outside (.hashPassword password))
  Procedure.require (fun detail => ⟨"Hashing failed: " ++ detail, none⟩) outcome

/-- Hashes a password. -/
def hashPassword (given : Option String) : Procedure Unit := do
  Procedure.print (← newHash given)

/-- Sets up the tables. -/
def setUp (database : Sql.Settings) : Procedure Unit := do
  Procedure.openStores database
  Procedure.print "Database schema initialized successfully"

/-- Sweeps once, and drops the shared entries past their lifetime as well. -/
def sweep (database : Sql.Settings) (settings : SweepSettings) : Procedure Unit := do
  Procedure.openStores database
  let outcome ← Procedure.request (Sweep.runOnce settings true)
  outcome.lines.forM Procedure.print
  if outcome.hasFailures then throw ⟨"sweep finished with errors", none⟩

/-- Adds a member of staff. -/
def createStaff (database : Sql.Settings) (username email : String) (role : Role)
    (password : Option String) : Procedure Unit := do
  let hash ← newHash password
  Procedure.openStores database
  let id ← Procedure.work (Sql.addStaff username email hash role)
  Procedure.print ("Created " ++ role.name ++ " " ++ username ++ " (id " ++ toString id ++ ")")

/-- Shows how many sessions of a kind may be deleted. -/
def showSweepable (kind : PrincipalKind) : Procedure Unit := do
  let outcome : Except StorageError Nat ← Procedure.request (Request.session (.countSweepable kind))
  let count ← Procedure.require Procedure.storeAbort outcome
  Procedure.print ("Sweepable " ++ kind.name ++ " sessions: " ++ toString count)

/-- Shows whether the database answers, and how many sessions may be deleted. -/
def showStatus (database : Sql.Settings) : Procedure Unit := do
  Procedure.openStores database
  Procedure.work Sql.ping
  Procedure.print (programName ++ " Status")
  Procedure.print "================="
  Procedure.print "Database: Connected"
  PrincipalKind.all.forM showSweepable

/-- The catalog that settings name. -/
def loadCatalog (settings : Settings) : Procedure Catalog := do
  let content : FileContent ←
    match settings.catalogPath with
    | none => pure (.ok "")
    | some path => Procedure.call (.readFile path)
  Procedure.require catalogAbort (settings.catalog (fun _ => content))

/-- Answers requests until the process is to stop. -/
def serve (database : Sql.Settings) (serving : Serving) : Procedure Unit := do
  Procedure.require (fun error => ⟨"Invalid configuration", some error.message⟩)
    serving.settings.check
  let catalog ← loadCatalog serving.settings
  Procedure.openStores database
  match addressFault? serving.address with
  | some fault => throw ⟨"Failed to bind " ++ serving.address, some fault⟩
  | none => Procedure.call (.listen serving catalog)

namespace Invocation

/-- How the database is reached: at the address given, or else as the environment says. -/
def databaseSettings (environment : Environment) (invocation : Invocation) :
    Except Abort Sql.Settings :=
  let found : Except Abort Sql.Settings :=
    match invocation.databaseUrl with
    | some url =>
      match Sql.Settings.ofUrl? url with
      | some settings => .ok settings
      | none => .error ⟨"Invalid DATABASE_URL", none⟩
    | none =>
      match Sql.Settings.ofEnvironment? environment with
      | some settings => .ok settings
      | none => .error ⟨"DATABASE_URL not set", none⟩
  found.map (fun settings =>
    settings.withTimeouts (.ofSeconds invocation.connectTimeout)
      (.ofSeconds invocation.statementTimeout))

/-- Runs an invocation. -/
def run (environment : Environment) (invocation : Invocation) : Procedure Unit :=
  let database := Procedure.require id (invocation.databaseSettings environment)
  match invocation.order with
  | .serve serving => do serve (← database) serving
  | .init => do setUp (← database)
  | .sweep settings => do sweep (← database) settings
  | .hashPassword password => hashPassword password
  | .createStaff username email role password => do
    createStaff (← database) username email role password
  | .status => do showStatus (← database)

end Invocation

/-- How the program ends. -/
inductive Ending where
  /-- The command was carried out, or the answer asked for was given. -/
  | done
  /-- The command was given up. -/
  | aborted (abort : Abort)
  /-- The arguments name no command. -/
  | misused (fault : Fault)
  deriving DecidableEq, Repr

namespace Ending

/-- The status that the program exits with. -/
def status : Ending → Nat
  | done => 0
  | aborted _ => 1
  | misused _ => 2

/-- What the program complains about. -/
def complaint : Ending → String
  | done => ""
  | aborted abort => abort.text
  | misused fault => fault.message

end Ending

/-- Runs the program with its environment and arguments. -/
def execute (environment : Environment) (arguments : List String) : Program process Ending :=
  match Invocation.read environment arguments with
  | .error fault =>
    if fault.isAnswer then do
      Program.call (I := process) (.print fault.message)
      return .done
    else return .misused fault
  | .ok invocation => do
    match ← (invocation.run environment).run with
    | .ok () => return .done
    | .error abort => return .aborted abort

end Command

end Gatehouse
