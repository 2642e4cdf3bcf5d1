import Gatehouse.Binary64.Shortest
import Gatehouse.Directory
import Gatehouse.KeyValue
import Gatehouse.Session

/-!
# Statements

Every statement that is sent to the database: what it asks, its text, the values sent along with it,
and what its rows hold. The rows of a statement have a type of their own, into which the cells that
the database gives are read.
-/

namespace Gatehouse.Sql

/-- A value that is sent along with a statement. -/
inductive Param where
  /-- A whole number. -/
  | integer (value : Int64)
  /-- A truth value. -/
  | boolean (value : Bool)
  /-- A text. -/
  | text (value : String)
  /-- No text. -/
  | null
  /-- Bytes. -/
  | bytes (value : Bytes)
  /-- A list of whole numbers. -/
  | integers (values : List Int64)
  /-- A time of the calendar. -/
  | time (value : Timestamp)
  /-- A floating-point number. -/
  | number (value : Binary64)
  deriving DecidableEq

/-- The start of the year 2000, from which a database counts. -/
def epoch : Timestamp := .ofSeconds 946684800

/-- A time as a database holds it, in whole microseconds since the start of the year 1970: what is
left over is cut off towards the start of the year 2000. -/
def storedMicros (time : Timestamp) : Int :=
  epoch.nanos / 1000 + Int.tdiv (time.nanos - epoch.nanos) 1000

/-- The layout of floating-point numbers in a record of statements: positional from a ten-thousandth
up to sixteen digits before the point. A tie goes to the larger decimal. -/
def numberLayout : Binary64.Layout := ⟨-4, 15, "", 1, true⟩

/-- A text that may be missing. -/
def Param.optional : Option String → Param
  | some value => text value
  | none => null

/-- What stands at one place of a row. -/
inductive Cell where
  /-- Nothing. -/
  | null
  /-- A truth value. -/
  | boolean (value : Bool)
  /-- A whole number; where a time is expected, in seconds since the start of the year 1970. -/
  | integer (value : Int)
  /-- A text; where bytes are expected, its UTF-8. -/
  | text (value : String)
  /-- Bytes. -/
  | bytes (value : Bytes)
  deriving DecidableEq

namespace Cell

/-- The whole number of 64 bits in a cell. -/
def integer? : Cell → Option Int64
  | integer value => some (Int64.ofInt value)
  | _ => none

/-- The truth value in a cell. -/
def boolean? : Cell → Option Bool
  | boolean value => some value
  | _ => none

/-- The text in a cell. -/
def text? : Cell → Option String
  | text value => some value
  | _ => none

/-- The bytes in a cell. -/
def bytes? : Cell → Option Bytes
  | bytes value => some value
  | text value => some (utf8 value)
  | _ => none

/-- The time in a cell. -/
def time? : Cell → Option Timestamp
  | integer value => some (.ofSeconds value)
  | _ => none

/-- What is in a cell, if it is not empty. -/
def optional? {α : Type} (read : Cell → Option α) : Cell → Option (Option α)
  | null => some none
  | cell => (read cell).map some

end Cell

/-- A member of staff as the database holds one: the role is a name. -/
structure StaffRow where
  /-- The id. -/
  id : PrincipalId
  /-- The name to sign in with. -/
  username : String
  /-- The mail address. -/
  email : String
  /-- The stored hash of the password. -/
  passwordHash : String
  /-- The name of the role. -/
  role : String
  /-- Whether the member may sign in. -/
  isActive : Bool
  deriving DecidableEq

/-- A statement. -/
inductive Statement where
  /-- Asks for nothing but an answer. -/
  | ping
  /-- Adds a member of staff. -/
  | addStaff (username email passwordHash : String) (role : Role)
  /-- Adds a session that is opened at a time. -/
  | addSession (new : Session.New) (issuedAt : Timestamp)
  /-- Finds the live session of a token. -/
  | findSession (kind : PrincipalKind) (token : String)
  /-- Revokes the live session of a token. -/
  | revokeSession (kind : PrincipalKind) (token : String)
  /-- Counts the sessions that may be deleted. -/
  | countSweepable (kind : PrincipalKind)
  /-- Deletes some of the sessions that may be deleted. -/
  | deleteSweepable (kind : PrincipalKind) (batchSize : UInt32)
  /-- Finds the member of staff with a name. -/
  | findStaff (username : String)
  /-- Finds the member of staff with an id. -/
  | getStaff (id : PrincipalId)
  /-- Lists the stores that are open for business. -/
  | openStores
  /-- Lists the stores granted to a member of staff. -/
  | grantedStores (id : PrincipalId)
  /-- Sets a stored password hash. -/
  | setPasswordHash (id : PrincipalId) (hash : String)
  /-- Sets a role. -/
  | setRole (id : PrincipalId) (role : Role)
  /-- Says whether a member of staff may sign in. -/
  | setActive (id : PrincipalId) (active : Bool)
  /-- Lists those of some stores that exist. -/
  | knownStores (stores : List StoreId)
  /-- Adds grants. -/
  | addGrants (id : PrincipalId) (stores : List StoreId)
  /-- Deletes grants. -/
  | deleteGrants (id : PrincipalId) (stores : List StoreId)
  /-- Finds the customer with an id. -/
  | getCustomer (id : PrincipalId)
  /-- Adds the customer of an identity or brings the customer up to date. -/
  | upsertCustomer (identity : Directory.Identity)
  /-- Finds the live value of a key. -/
  | getEntry (key : String)
  /-- Sets a key for a lifetime. -/
  | setEntry (key : String) (value : Bytes) (ttl : Duration)
  /-- Sets a key for a lifetime unless it has a live value. -/
  | setAbsentEntry (key : String) (value : Bytes) (ttl : Duration)
  /-- Drops a key. -/
  | deleteEntry (key : String)
  /-- Drops the entries past their lifetime. -/
  | purgeEntries
  deriving DecidableEq

/-- The table that holds the sessions of a kind. -/
def sessionTable : PrincipalKind → String
  | .staff => "staff_user_tokens"
  | .customer => "customer_tokens"

/-- The columns of a member of staff. -/
def staffColumns : String := "SELECT id, username, email, password_hash, role, is_active"

/-- Setting a key for a lifetime, whatever value it has. -/
def upsertEntry : String :=
  "INSERT INTO auth_kv (key, value, expires_at) VALUES ($1, $2, NOW() + make_interval(secs => $3))"
    ++ " ON CONFLICT (key) DO UPDATE SET value = EXCLUDED.value, expires_at = EXCLUDED.expires_at"

/-- The length of time in seconds: the whole seconds and their fraction are rounded one by one, and
so is their sum. -/
def secondsOf (duration : Duration) : Binary64 :=
  let whole := Binary64.ofNat duration.seconds
  let nanos := Binary64.ofNat (duration.nanos % Duration.nanosPerSecond)
  let fraction := (nanos.div? (Binary64.ofNat Duration.nanosPerSecond)).getD .zero
  (whole.add? fraction).getD .zero

namespace Statement

/-- The text of a statement. -/
def text : Statement → String
  | ping => "SELECT 1"
  | addStaff _ _ _ _ =>
    "INSERT INTO staff_users (username, email, password_hash, role) VALUES ($1, $2, $3, $4)" ++
      " RETURNING id"
  | addSession new _ =>
    "INSERT INTO " ++ sessionTable new.kind ++
      " (principal_id, token, user_agent, ip_address, issued_at, expires_at)" ++
      " VALUES ($1, $2, $3, $4, $5, $6) RETURNING id"
  | findSession kind _ =>
    "SELECT id, principal_id, token, user_agent, ip_address, issued_at, expires_at, revoked_at" ++
      " FROM " ++ sessionTable kind ++
      " WHERE token = $1 AND revoked_at IS NULL AND expires_at > NOW()"
  | revokeSession kind _ =>
    "UPDATE " ++ sessionTable kind ++ " SET revoked_at = NOW()" ++
      " WHERE token = $1 AND revoked_at IS NULL AND expires_at > NOW() RETURNING principal_id"
  | countSweepable kind =>
    "SELECT COUNT(*) FROM " ++ sessionTable kind ++
      " WHERE revoked_at IS NOT NULL OR expires_at <= NOW()"
  | deleteSweepable kind _ =>
    "DELETE FROM " ++ sessionTable kind ++ " WHERE id IN ( SELECT id FROM " ++
      sessionTable kind ++ " WHERE revoked_at IS NOT NULL OR expires_at <= NOW() LIMIT $1 )"
  | findStaff _ => staffColumns ++ " FROM staff_users WHERE username = $1"
  | getStaff _ => staffColumns ++ " FROM staff_users WHERE id = $1"
  | openStores => "SELECT id FROM stores WHERE is_active"
  | grantedStores _ => "SELECT store_id FROM staff_user_store_access WHERE staff_user_id = $1"
  | setPasswordHash _ _ => "UPDATE staff_users SET password_hash = $1 WHERE id = $2"
  | setRole _ _ => "UPDATE staff_users SET role = $1 WHERE id = $2"
  | setActive _ _ => "UPDATE staff_users SET is_active = $1 WHERE id = $2"
  | knownStores _ => "SELECT id FROM stores WHERE id = ANY($1)"
  | addGrants _ _ =>
    "INSERT INTO staff_user_store_access (staff_user_id, store_id)" ++
      " SELECT $1, unnest($2::bigint[]) ON CONFLICT DO NOTHING"
  | deleteGrants _ _ =>
    "DELETE FROM staff_user_store_access WHERE staff_user_id = $1 AND store_id = ANY($2)"
  | getCustomer _ => "SELECT id, line_uid, name, email FROM customers WHERE id = $1"
  | upsertCustomer _ =>
    "INSERT INTO customers (line_uid, name, email) VALUES ($1, $2, $3)" ++
      " ON CONFLICT (line_uid) DO UPDATE SET name = EXCLUDED.name," ++
      " email = COALESCE(EXCLUDED.email, customers.email) RETURNING id, line_uid, name, email"
  | getEntry _ => "SELECT value FROM auth_kv WHERE key = $1 AND expires_at > NOW()"
  | setEntry _ _ _ => upsertEntry
  | setAbsentEntry _ _ _ => upsertEntry ++ " WHERE auth_kv.expires_at <= NOW()"
  | deleteEntry _ => "DELETE FROM auth_kv WHERE key = $1"
  | purgeEntries => "DELETE FROM auth_kv WHERE expires_at <= NOW()"

/-- The values that are sent along with a statement, in the order of their numbers. -/
def params : Statement → List Param
  | ping => []
  | addStaff username email passwordHash role =>
    [.text username, .text email, .text passwordHash, .text role.name]
  | addSession new issuedAt =>
    [.integer new.principalId, .text new.token, .optional new.userAgent, .optional new.ipAddress,
      .time issuedAt, .time (issuedAt.after new.ttl)]
  | findSession _ token => [.text token]
  | revokeSession _ token => [.text token]
  | countSweepable _ => []
  | deleteSweepable _ batchSize => [.integer (Int64.ofNat batchSize.toNat)]
  | findStaff username => [.text username]
  | getStaff id => [.integer id]
  | openStores => []
  | grantedStores id => [.integer id]
  | setPasswordHash id hash => [.text hash, .integer id]
  | setRole id role => [.text role.name, .integer id]
  | setActive id active => [.boolean active, .integer id]
  | knownStores stores => [.integers stores]
  | addGrants id stores => [.integer id, .integers stores]
  | deleteGrants id stores => [.integer id, .integers stores]
  | getCustomer id => [.integer id]
  | upsertCustomer identity =>
    [.text identity.providerUid, .text identity.name, .optional identity.email]
  | getEntry key => [.text key]
  | setEntry key value ttl => [.text key, .bytes value, .number (secondsOf ttl)]
  | setAbsentEntry key value ttl => [.text key, .bytes value, .number (secondsOf ttl)]
  | deleteEntry key => [.text key]
  | purgeEntries => []

/-- What a row of a statement holds. -/
def Row : Statement → Type
  | addStaff _ _ _ _ => PrincipalId
  | addSession _ _ => Session.SessionId
  | findSession _ _ => Session.Row
  | revokeSession _ _ => PrincipalId
  | countSweepable _ => Int64
  | findStaff _ => StaffRow
  | getStaff _ => StaffRow
  | openStores => StoreId
  | grantedStores _ => StoreId
  | knownStores _ => StoreId
  | getCustomer _ => Directory.Customer
  | upsertCustomer _ => Directory.Customer
  | getEntry _ => Bytes
  | _ => Unit

end Statement

/-- Reads a row with one number. -/
def readInteger? : List Cell → Option Int64
  | [value] => value.integer?
  | _ => none

/-- Reads a row with some bytes. -/
def readBytes? : List Cell → Option Bytes
  | [value] => value.bytes?
  | _ => none

/-- Reads a member of staff. -/
def readStaff? : List Cell → Option StaffRow
  | [id, username, email, passwordHash, role, isActive] => do
    return ⟨← id.integer?, ← username.text?, ← email.text?, ← passwordHash.text?, ← role.text?,
      ← isActive.boolean?⟩
  | _ => none

/-- Reads a customer. -/
def readCustomer? : List Cell → Option Directory.Customer
  | [id, uid, name, email] => do
    return ⟨← id.integer?, ← uid.optional? Cell.text?, ← name.text?, ← email.optional? Cell.text?⟩
  | _ => none

/-- Reads a session of a kind. -/
def readSession? (kind : PrincipalKind) : List Cell → Option Session.Row
  | [id, principalId, token, userAgent, ipAddress, issuedAt, expiresAt, revokedAt] => do
    return ⟨← id.integer?, ← principalId.integer?, kind, ← token.text?,
      ← userAgent.optional? Cell.text?, ← ipAddress.optional? Cell.text?, ← issuedAt.time?,
      ← expiresAt.time?, ← revokedAt.optional? Cell.time?⟩
  | _ => none

/-- Reads a row of a statement from its cells. -/
def Statement.readRow? : (statement : Statement) → List Cell → Option statement.Row
  | .ping, _ => some ()
  | .addStaff _ _ _ _, cells => readInteger? cells
  | .addSession _ _, cells => readInteger? cells
  | .findSession kind _, cells => readSession? kind cells
  | .revokeSession _ _, cells => readInteger? cells
  | .countSweepable _, cells => readInteger? cells
  | .deleteSweepable _ _, _ => some ()
  | .findStaff _, cells => readStaff? cells
  | .getStaff _, cells => readStaff? cells
  | .openStores, cells => readInteger? cells
  | .grantedStores _, cells => readInteger? cells
  | .setPasswordHash _ _, _ => some ()
  | .setRole _ _, _ => some ()
  | .setActive _ _, _ => some ()
  | .knownStores _, cells => readInteger? cells
  | .addGrants _ _, _ => some ()
  | .deleteGrants _ _, _ => some ()
  | .getCustomer _, cells => readCustomer? cells
  | .upsertCustomer _, cells => readCustomer? cells
  | .getEntry _, cells => readBytes? cells
  | .setEntry _ _ _, _ => some ()
  | .setAbsentEntry _ _ _, _ => some ()
  | .deleteEntry _, _ => some ()
  | .purgeEntries, _ => some ()

end Gatehouse.Sql
