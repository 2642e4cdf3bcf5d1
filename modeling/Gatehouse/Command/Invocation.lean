import Gatehouse.Command.Arguments
import Gatehouse.Settings

/-!
# Invocations

The commands of the program with their options, and how an invocation is read from the arguments and
the environment. Options that concern the database may be given before or behind the command; of two
values the one given behind it counts, unless it only stands in.
-/

namespace Gatehouse.Command

/-- What serving takes. -/
structure Serving where
  /-- The address to listen at. -/
  address : String
  /-- What the service is set up with. -/
  settings : Settings
  /-- Whether dead sessions are swept by somebody else. -/
  noSweeper : Bool

/-- What the program is to do. -/
inductive Order where
  /-- Answers requests and sweeps until it is stopped. -/
  | serve (serving : Serving)
  /-- Sets up the tables. -/
  | init
  /-- Sweeps once. -/
  | sweep (settings : SweepSettings)
  /-- Hashes a password, which is read from the input when it is not given. -/
  | hashPassword (password : Option String)
  /-- Adds a member of staff. -/
  | createStaff (username email : String) (role : Role) (password : Option String)
  /-- Shows whether the database answers and how many sessions may be deleted. -/
  | status

/-- An order with the options that concern the database. -/
structure Invocation where
  /-- The address of the database, if it is given. -/
  databaseUrl : Option String
  /-- How many seconds to wait for a connection. -/
  connectTimeout : Nat
  /-- How many seconds the database works on a statement at most. -/
  statementTimeout : Nat
  /-- What is to be done. -/
  order : Order

/-- An option that takes a whole number of 64 bits and has a standard value. -/
def counted (name stand : String) (standard : Nat) : Switch :=
  { name, effect := .value .long, stand := some stand, standard := some (toString standard) }

/-- The option that asks for help. -/
def helpSwitch : Switch := { name := "help", letter := some 'h', effect := .help }

/-- The options that concern the database. -/
def databaseSwitches : List Switch :=
  [ { name := "database-url", effect := .value .text, stand := some "DATABASE_URL" },
    counted "db-connect-timeout-secs" "SALON_AUTH_DB_CONNECT_TIMEOUT_SECS" 5,
    counted "db-statement-timeout-secs" "SALON_AUTH_DB_STATEMENT_TIMEOUT_SECS" 10 ]

/-- The options of a sweep. -/
def sweepSwitches : List Switch :=
  [ { name := "batch-size", effect := .value .short
      stand := some "SALON_AUTH_SWEEP_BATCH_SIZE", standard := some "200" },
    counted "lock-ttl-secs" "SALON_AUTH_SWEEP_LOCK_TTL_SECS" 1800,
    counted "pause-ms" "SALON_AUTH_SWEEP_PAUSE_MS" 100 ]

/-- The options of serving. -/
def serveSwitches : List Switch :=
  [ { name := "bind", letter := some 'b', effect := .value .text
      stand := some "SALON_AUTH_BIND", standard := some "0.0.0.0:8080" },
    { name := "secret", effect := .value .text, stand := some "SALON_AUTH_SECRET"
      isRequired := true },
    counted "access-ttl-hours" "SALON_AUTH_ACCESS_TTL_HOURS" 24,
    counted "refresh-ttl-days" "SALON_AUTH_REFRESH_TTL_DAYS" 30,
    counted "context-ttl-secs" "SALON_AUTH_CONTEXT_TTL_SECS" 600,
    counted "sweep-interval-secs" "SALON_AUTH_SWEEP_INTERVAL_SECS" 3600,
    { name := "no-sweeper", effect := .mark } ] ++ sweepSwitches ++
  [ { name := "line-channel-id", effect := .value .text, stand := some "LINE_CHANNEL_ID" },
    { name := "error-catalog", effect := .value .path
      stand := some "SALON_AUTH_ERROR_CATALOG" } ]

/-- The options of adding a member of staff. -/
def staffSwitches : List Switch :=
  [ { name := "role", effect := .value .role, standard := some "STYLIST" },
    { name := "password", effect := .value .text } ]

/-- A place behind a command: its own options, help, and the options that concern the database. -/
def behind (switches : List Switch) (operands : List String) (required : Nat) : Place :=
  { switches := switches ++ helpSwitch :: databaseSwitches, operands, required }

/-- The commands with their places. -/
def places : List (String × Place) :=
  [ ("serve", behind serveSwitches [] 0),
    ("init", behind [] [] 0),
    ("sweep", behind sweepSwitches [] 0),
    ("hash-password", behind [] ["password"] 0),
    ("create-staff", behind staffSwitches ["username", "email"] 2),
    ("status", behind [] [] 0) ]

/-- The place before a command. -/
def front : Place :=
  { switches := databaseSwitches ++
      [helpSwitch, { name := "version", letter := some 'V', effect := .version }]
    commands := places.map Prod.fst ++ ["help"] }

namespace Progress

/-- The text of an option. -/
def text? (progress : Progress) (name : String) : Option String :=
  match (progress.value? name).map Found.value with
  | some (.text text) => some text
  | _ => none

/-- The number of an option; zero if it has none. -/
def number (progress : Progress) (name : String) : Nat :=
  match (progress.value? name).map Found.value with
  | some (.number value) => value
  | _ => 0

/-- The role of an option; the lowest if it has none. -/
def role (progress : Progress) (name : String) : Role :=
  match (progress.value? name).map Found.value with
  | some (.role role) => role
  | _ => .stylist

/-- The sweep settings among the options. -/
def sweepSettings (progress : Progress) : SweepSettings :=
  { batchSize := (progress.number "batch-size").toUInt32
    pause := .ofMillis (progress.number "pause-ms")
    lockTtl := .ofSeconds (progress.number "lock-ttl-secs") }

/-- The settings among the options. -/
def settings (progress : Progress) : Settings :=
  { secret := utf8 ((progress.text? "secret").getD "")
    accessTtl := .ofHours (progress.number "access-ttl-hours")
    refreshTtl := .ofDays (progress.number "refresh-ttl-days")
    contextTtl := .ofSeconds (progress.number "context-ttl-secs")
    sweepInterval := .ofSeconds (progress.number "sweep-interval-secs")
    sweep := progress.sweepSettings
    channelId := progress.text? "line-channel-id"
    catalogPath := progress.text? "error-catalog" }

/-- The order of a command's name, with its options and operands. -/
def order (progress : Progress) (name : String) : Order :=
  match name, progress.operands with
  | "serve", _ =>
    .serve ⟨(progress.text? "bind").getD "", progress.settings,
      (progress.value? "no-sweeper").isSome⟩
  | "sweep", _ => .sweep progress.sweepSettings
  | "hash-password", operands => .hashPassword operands.head?
  | "create-staff", username :: email :: _ =>
    .createStaff username email (progress.role "role") (progress.text? "password")
  | "status", _ => .status
  | _, _ => .init

/-- The values of options given before a command and behind it: of two, the weightier counts, and of
two as weighty the one behind. -/
def merge (before behind : Progress) : Progress :=
  let loses (found : Found) : Bool :=
    before.found.any (fun other =>
      other.name == found.name && found.source.weight < other.source.weight)
  { behind with found := behind.found.filter (fun found => !loses found) ++ before.found }

end Progress

/-- What asking for help with a command gives. -/
def helpWith : List String → Fault
  | [] => .help
  | name :: rest =>
    if !front.commands.contains name then .unknownCommand name
    else
      match rest with
      | [] => .help
      | name :: _ => .unknownCommand name

/-- What reading the arguments before a command and none behind it gives. -/
def noCommand (environment : Environment) (progress : Progress) : Fault :=
  match front.finish environment progress with
  | .error fault => fault
  | .ok progress =>
    if progress.found.all (fun found => found.source == .standard) then .nothing
    else .noCommand front.commands

/-- Reads an invocation from the arguments and the environment. -/
def Invocation.read (environment : Environment) (arguments : List String) :
    Except Fault Invocation := do
  let (before, rest) ← front.readArguments {} arguments
  match rest with
  | none => throw (noCommand environment before)
  | some (name, rest) =>
    match places.lookup name with
    | none => throw (helpWith rest)
    | some place =>
      let behind ← place.readAll environment rest
      let before ← front.finish environment before
      let all := Progress.merge before behind
      return {
        databaseUrl := all.text? "database-url"
        connectTimeout := all.number "db-connect-timeout-secs"
        statementTimeout := all.number "db-statement-timeout-secs"
        order := behind.order name }

end Gatehouse.Command
