import Gatehouse.Proofs.KeyValue
import Gatehouse.Proofs.Program
import Gatehouse.Service.Administration
import Gatehouse.Service.SignIn
import Gatehouse.World

/-!
# Operations and histories

The operations of the service as data, and plays: scenes in which operations, sweeps and waiting
follow one another in one world. A play leaves a history, one event for each scene. The bytes drawn,
the password hasher and the identity provider may differ from scene to scene. Main statement: what
holds at the start and is kept by every scene holds of the history and the world at the end of every
play (`World.play_induction`).
-/

namespace Gatehouse

/-- An operation of the service, with what it is given. -/
inductive Operation where
  /-- Signs in a member of staff. -/
  | signInStaff (username password : String) (client : ClientInfo)
  /-- Signs in a customer. -/
  | signInCustomer (idToken : String) (client : ClientInfo)
  /-- Asks for a new access token. -/
  | refresh (kind : PrincipalKind) (token : String)
  /-- Signs out. -/
  | signOut (kind : PrincipalKind) (token : String)
  /-- Asks for the present context. -/
  | permissions (claims : Token.Claims)
  /-- Asks for the present context, if it meets a requirement. -/
  | authorize (claims : Token.Claims) (requirement : Requirement)
  /-- Changes a password. -/
  | changePassword (claims : Token.Claims) (target : PrincipalId) (oldPassword : Option String)
      (newPassword : String)
  /-- Changes a role. -/
  | changeRole (claims : Token.Claims) (target : PrincipalId) (role : Role)
  /-- Says whether a member of staff may sign in. -/
  | setActive (claims : Token.Claims) (target : PrincipalId) (active : Bool)
  /-- Grants stores. -/
  | grantStores (claims : Token.Claims) (target : PrincipalId) (stores : List StoreId)
  /-- Takes grants away. -/
  | revokeStores (claims : Token.Claims) (target : PrincipalId) (stores : List StoreId)

/-- What an operation gives when it succeeds. -/
inductive Answer where
  /-- What signing in gives. -/
  | signedIn (given : SignedIn)
  /-- What refreshing gives. -/
  | refreshed (given : Refreshed)
  /-- The context asked for. -/
  | context (context : Context)
  /-- Nothing but the news that it is done. -/
  | done

/-- The action that carries an operation out. -/
def Operation.action (service : Service) : Operation → Action Answer
  | signInStaff username password client =>
    .signedIn <$> service.signInStaff username password client
  | signInCustomer idToken client => .signedIn <$> service.signInCustomer idToken client
  | refresh kind token => .refreshed <$> service.refresh kind token
  | signOut kind token => (fun _ => .done) <$> Service.signOut kind token
  | permissions claims => .context <$> service.permissions claims
  | authorize claims requirement => .context <$> service.authorize claims requirement
  | changePassword claims target oldPassword newPassword =>
    (fun _ => .done) <$> service.changePassword claims target oldPassword newPassword
  | changeRole claims target role => (fun _ => .done) <$> service.changeRole claims target role
  | setActive claims target active => (fun _ => .done) <$> service.setActive claims target active
  | grantStores claims target stores =>
    (fun _ => .done) <$> service.grantStores claims target stores
  | revokeStores claims target stores =>
    (fun _ => .done) <$> service.revokeStores claims target stores

/-- The request that carries an operation out. -/
def Operation.request (service : Service) (operation : Operation) :
    Request (Except AuthError Answer) :=
  (operation.action service).request

/-- The claims that an operation is asked for with, if there are any. -/
def Operation.claims? : Operation → Option Token.Claims
  | permissions claims => some claims
  | authorize claims _ => some claims
  | changePassword claims _ _ _ => some claims
  | changeRole claims _ _ => some claims
  | setActive claims _ _ => some claims
  | grantStores claims _ _ => some claims
  | revokeStores claims _ _ => some claims
  | _ => none

/-- What can happen in a scene. -/
inductive Move where
  /-- An operation of the service. -/
  | operation (operation : Operation)
  /-- A sweep. -/
  | sweep (settings : SweepSettings) (purges : Bool)
  /-- Time passes. -/
  | wait (duration : Duration)

/-- The kind of principal that signs in. -/
def Move.signsIn? : Move → Option PrincipalKind
  | .operation (.signInStaff _ _ _) => some .staff
  | .operation (.signInCustomer _ _) => some .customer
  | _ => none

/-- What happens, and in what surroundings. -/
structure Scene where
  /-- The surroundings. -/
  around : Surroundings
  /-- What happens. -/
  move : Move

/-- What has happened in a scene. -/
structure Event where
  /-- The clock at the start of the scene. -/
  clock : Clock
  /-- What happened. -/
  move : Move
  /-- How the operation ended; nothing if it broke off, or if it was not an operation. -/
  outcome : Option (Except AuthError Answer)

/-- Whether a clock can show the end of a lifetime that starts now. -/
def Clock.CanShow (clock : Clock) (ttl : Duration) : Prop :=
  (clock.instant.plus? ttl).isSome

/-- Whether a clock can show the end of a lifetime is decided by computing it. -/
instance (clock : Clock) (ttl : Duration) : Decidable (clock.CanShow ttl) :=
  inferInstanceAs (Decidable (_ = true))

/-- A clock can show what ends before its seconds run out. -/
theorem Clock.canShow_iff {clock : Clock} {ttl : Duration} :
    clock.CanShow ttl ↔
      (clock.elapsed.nanos + ttl.nanos) / Duration.nanosPerSecond < 0x8000000000000000 :=
  Instant.isSome_plus?_iff

/-- A clock that can show the end of a lifetime could do so earlier as well. -/
theorem Clock.CanShow.earlier {clock later : Clock} {ttl : Duration} (h : later.CanShow ttl)
    (hle : clock.elapsed.nanos ≤ later.elapsed.nanos) : clock.CanShow ttl := by
  rw [Clock.canShow_iff] at h ⊢
  exact Nat.lt_of_le_of_lt (Nat.div_le_div_right (by omega)) h

namespace World

/-- A world in which nothing has happened. -/
def fresh (clock : Clock) (directory : Directory.Table) : World := { clock, directory }

variable (connect : Surroundings → Handler requests World) (service : Service)

/-- Plays a scene. -/
def enact (scene : Scene) (world : World) : Option (Except AuthError Answer) × World :=
  match scene.move with
  | .operation operation =>
    Action.perform (connect scene.around) (operation.action service) world
  | .sweep settings purges =>
    (none, ((Sweep.runOnce settings purges).run (connect scene.around) world).2)
  | .wait duration => (none, { world with clock := world.clock.advance duration })

/-- The event that a scene leaves in the history. -/
def eventOf (scene : Scene) (world : World) : Event :=
  ⟨world.clock, scene.move, (enact connect service scene world).1⟩

/-- Plays scenes one after the other, and gives the history and the world at the end. -/
def play : List Scene → World → List Event × World
  | [], world => ([], world)
  | scene :: scenes, world =>
    let (history, last) := play scenes (enact connect service scene world).2
    (eventOf connect service scene world :: history, last)

/-- The worlds in which the scenes of a play start all meet a condition. -/
def Throughout (condition : Scene → World → Prop) : List Scene → World → Prop
  | [], _ => True
  | scene :: scenes, world =>
    condition scene world ∧ Throughout condition scenes (enact connect service scene world).2

variable {connect service}

/-- What holds at the start and is kept by every scene holds at the end. The scenes may be taken to
start in worlds that meet a condition, if they do so in the play. -/
theorem play_induction_of_throughout {condition : Scene → World → Prop}
    {motive : List Event → World → Prop}
    (hstep : ∀ history world scene, condition scene world → motive history world →
      motive (history ++ [eventOf connect service scene world])
        (enact connect service scene world).2)
    (scenes : List Scene) (history : List Event) (world : World)
    (hthroughout : Throughout connect service condition scenes world)
    (hstart : motive history world) :
    motive (history ++ (play connect service scenes world).1)
      (play connect service scenes world).2 := by
  -- over the scenes, with the history so far and the world carried along
  induction scenes generalizing history world with
  | nil => simpa only [play, List.append_nil] using hstart
  | cons scene scenes ih =>
    have hnext := ih _ _ hthroughout.2 (hstep history world scene hthroughout.1 hstart)
    rw [List.append_assoc] at hnext
    exact hnext

/-- Every play meets the condition that says nothing. -/
theorem throughout_true (scenes : List Scene) (world : World) :
    Throughout connect service (fun _ _ => True) scenes world := by
  induction scenes generalizing world with
  | nil => trivial
  | cons scene scenes ih => exact ⟨trivial, ih _⟩

/-- What holds at the start and is kept by every scene holds at the end. -/
theorem play_induction {motive : List Event → World → Prop} {start : World}
    (hstart : motive [] start)
    (hstep : ∀ history world scene, motive history world →
      motive (history ++ [eventOf connect service scene world])
        (enact connect service scene world).2)
    (scenes : List Scene) :
    motive (play connect service scenes start).1 (play connect service scenes start).2 :=
  play_induction_of_throughout (fun history world scene _ => hstep history world scene) scenes []
    start (throughout_true scenes start) hstart

end World

/-! ## An example -/

/-- A service with short lifetimes. -/
def Service.plain : Service :=
  ⟨⟨utf8 "secret", .ofSeconds 60⟩, .ofSeconds 3600, .ofSeconds 60, true⟩

/-- Surroundings in which passwords are stored as they are, the identity provider vouches for every
token, and each draw of random bytes gives its own number. -/
def Surroundings.plain : Surroundings :=
  { hasher := ⟨fun _ password => .ok password, fun password stored => password == stored⟩
    provider := fun token => .ok ⟨token, token, none⟩
    entropy := []
    random := fun draw => [UInt8.ofNat draw] }

/-- A directory with one member of staff, who holds the highest role and was granted no stores. -/
def Directory.Table.plain : Directory.Table :=
  { staff := [⟨1, "root", "root@localhost", "first password", .superAdmin, true⟩], lastId := 1 }

/-- The claims of the only member of staff. -/
def Token.Claims.plain : Token.Claims := ⟨1, .staff, "root", none, .empty, 0, 0, ""⟩

/-- The only member of staff signs in. -/
def Scene.plain : Scene :=
  ⟨.plain, .operation (.signInStaff "root" "first password" {})⟩

/-- The world in which nothing has happened. -/
def World.plain : World := .fresh ⟨⟨0⟩, .zero⟩ .plain

end Gatehouse
