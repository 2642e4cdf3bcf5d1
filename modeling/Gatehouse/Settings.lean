import Gatehouse.Catalog
import Gatehouse.Text.Quoted
import Gatehouse.Token.Issuer

/-!
# Settings

What the service is set up with: the secret, lifetimes, and how dead sessions are swept. Settings
are checked once, before the service starts.
-/

namespace Gatehouse

/-- The name of the sweeping job. -/
def defaultJob : String := "revoked_token_sweeper"

/-- How dead sessions are swept. -/
structure SweepSettings where
  /-- The name of the job, which names its lock. -/
  job : String := defaultJob
  /-- How many rows are deleted at once. -/
  batchSize : UInt32 := 200
  /-- How long to pause between two batches. -/
  pause : Duration := .ofMillis 100
  /-- How long the lock is held when its holder does not come back. -/
  lockTtl : Duration := .ofSeconds 1800

/-- The largest number of seconds that a length of time is given in. -/
def largestCount : Nat := 0xFFFFFFFFFFFFFFFF

/-- The length of a number of hours, as far as it can be given in seconds. -/
def Duration.ofHours (hours : Nat) : Duration := .ofSeconds (min (hours * 3600) largestCount)

/-- The length of a number of days, as far as it can be given in seconds. -/
def Duration.ofDays (days : Nat) : Duration := .ofSeconds (min (days * 86400) largestCount)

/-- What the service is set up with. -/
structure Settings where
  /-- The key of the authentication codes of access tokens. -/
  secret : Bytes
  /-- How long an access token lives. -/
  accessTtl : Duration := .ofHours 24
  /-- How long a refresh session lives. -/
  refreshTtl : Duration := .ofDays 30
  /-- How long a context is cached. -/
  contextTtl : Duration := .ofSeconds 600
  /-- How long after one sweep the next one starts. -/
  sweepInterval : Duration := .ofSeconds 3600
  /-- How dead sessions are swept. -/
  sweep : SweepSettings := {}
  /-- The channel of the identity provider; customers cannot sign in without one. -/
  channelId : Option String := none
  /-- The file with overrides for the catalog of error texts. -/
  catalogPath : Option String := none

/-- The shortest secret that is accepted, in bytes. -/
def shortestSecret : Nat := 32

/-- Why settings are refused. -/
inductive SettingsError where
  /-- The secret is too short. -/
  | weakSecret (length : Nat)
  /-- Something that has to be positive is zero. -/
  | zero (what : String)
  deriving DecidableEq, Repr

/-- The text of a refusal. -/
def SettingsError.message : SettingsError → String
  | weakSecret length =>
    "signing secret must be at least " ++ toString shortestSecret ++ " bytes, got " ++
      toString length
  | zero what => what ++ " must be greater than zero"

namespace Settings

/-- The lengths of time that have to be positive, with their names. -/
def durations (settings : Settings) : List (String × Duration) :=
  [ ("access token TTL", settings.accessTtl),
    ("refresh token TTL", settings.refreshTtl),
    ("context cache TTL", settings.contextTtl),
    ("sweep interval", settings.sweepInterval),
    ("sweep lock TTL", settings.sweep.lockTtl) ]

/-- Checks settings: the secret first, then the lengths of time in order, then the batch size. -/
def check (settings : Settings) : Except SettingsError Unit :=
  if settings.secret.length < shortestSecret then .error (.weakSecret settings.secret.length)
  else
    match settings.durations.find? (fun (_, duration) => duration.isZero) with
    | some (name, _) => .error (.zero name)
    | none =>
      if settings.sweep.batchSize = 0 then .error (.zero "sweep batch size") else .ok ()

/-- Who signs and checks access tokens under these settings. -/
def issuer (settings : Settings) : Token.Issuer := ⟨settings.secret, settings.accessTtl⟩

/-- The catalog of error texts: the standard one, or the one with the overrides of the file. -/
def catalog (settings : Settings) (read : String → FileContent) : Except CatalogError Catalog :=
  match settings.catalogPath with
  | none => .ok .standard
  | some path => Catalog.load path (read path)

end Settings

/-- A record with its fields, as settings are shown. -/
def shownRecord (name : String) (fields : List (String × String)) : String :=
  let shown := fields.map (fun (field, value) => field ++ ": " ++ value)
  name ++ " \x7b " ++ String.intercalate ", " shown ++ " \x7d"

/-- A value that may be missing, as settings are shown. -/
def shownOption : Option String → String
  | none => "None"
  | some value => "Some(" ++ value ++ ")"

/-- The sweep settings in one line. -/
def SweepSettings.summary (settings : SweepSettings) : String :=
  shownRecord "SweeperConfig"
    [ ("job_name", Text.quoted settings.job),
      ("batch_size", toString settings.batchSize.toNat),
      ("batch_pause", settings.pause.text),
      ("lock_ttl", settings.lockTtl.text) ]

/-- The settings in one line, without the secret. -/
def Settings.summary (settings : Settings) : String :=
  shownRecord "AuthConfig"
    [ ("secret", Text.quoted "<redacted>"),
      ("access_ttl", settings.accessTtl.text),
      ("refresh_ttl", settings.refreshTtl.text),
      ("context_ttl", settings.contextTtl.text),
      ("sweep_interval", settings.sweepInterval.text),
      ("sweeper", settings.sweep.summary),
      ("line_channel_id", shownOption (settings.channelId.map Text.quoted)),
      ("error_catalog", shownOption (settings.catalogPath.map Text.quoted)) ]

/-- The issuer in one line, without the secret. -/
def Token.Issuer.summary (issuer : Token.Issuer) : String :=
  shownRecord "TokenIssuer"
    [("secret", Text.quoted "[REDACTED]"), ("access_ttl", issuer.lifetime.text)]

end Gatehouse
