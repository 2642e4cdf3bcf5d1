import Gatehouse.Text.Cut
import Gatehouse.Text.Integer
import Gatehouse.Time

/-!
# Settings of a database connection

Where the database is and how it is reached, read from an address in one text or from the variables
of the environment.
-/

namespace Gatehouse

/-- The variables of the environment. -/
abbrev Environment := String → Option String

namespace Sql

/-- How a database is reached. -/
structure Settings where
  /-- The host. -/
  host : String
  /-- The port. -/
  port : Nat := 5432
  /-- The name to sign in with. -/
  user : String
  /-- The password, if there is one. -/
  password : Option String
  /-- The name of the database. -/
  database : String
  /-- How many connections there may be at once. -/
  maxConnections : Nat := 16
  /-- How long to wait for a connection. -/
  connectTimeout : Duration := .ofSeconds 5
  /-- How long the database works on a statement at most. -/
  statementTimeout : Duration := .ofSeconds 10
  deriving DecidableEq, Repr

/-- The largest port. -/
def largestPort : Nat := 65535

/-- Reads a port. -/
def port? (text : String) : Option Nat := (Text.natural largestPort text).toOption

namespace Settings

/-- What an address holds behind its scheme. -/
def behindScheme? (letters : List Char) : Option (List Char) :=
  (Text.behind? "postgres://".toList letters).or (Text.behind? "postgresql://".toList letters)

/-- Reads an address: a scheme, a user with or without a password, a host with or without a port,
and a database, up to a question mark. -/
def ofUrl? (url : String) : Option Settings := do
  let letters ← behindScheme? url.toList
  let (login, rest) ← Text.cut '@' letters
  let (place, tail) ← Text.cut '/' rest
  let (user, password) := Text.halves ':' login
  let (host, portText) := Text.halves ':' place
  let port ←
    match portText with
    | none => some 5432
    | some text => port? text
  let database := String.ofList (tail.takeWhile (· != '?'))
  return { host, port, user, password, database }

/-- Reads the environment: an address, or else the parts one by one. -/
def ofEnvironment? (environment : Environment) : Option Settings :=
  match environment "DATABASE_URL" with
  | some url => ofUrl? url
  | none => do
    let user ← environment "PGUSER"
    let database ← environment "PGDATABASE"
    return {
      host := (environment "PGHOST").getD "localhost"
      port := ((environment "PGPORT").bind port?).getD 5432
      user
      password := environment "PGPASSWORD"
      database }

/-- Sets the two timeouts. -/
def withTimeouts (settings : Settings) (connectTimeout statementTimeout : Duration) : Settings :=
  { settings with connectTimeout, statementTimeout }

/-- What is told to the database when a connection is made. Without a name to sign in with it is the
name of the account that the program runs under. -/
def startup (settings : Settings) (account : String) : List (String × String) :=
  [ ("client_encoding", "UTF8"),
    ("database", settings.database),
    ("options", "-c statement_timeout=" ++ toString settings.statementTimeout.millis),
    ("user", if settings.user.isEmpty then account else settings.user) ]

end Settings

end Sql

end Gatehouse
