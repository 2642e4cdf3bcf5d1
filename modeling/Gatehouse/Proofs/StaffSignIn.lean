import Gatehouse.Proofs.Administration
import Gatehouse.Proofs.Session
import Gatehouse.Proofs.Token

/-!
# Staff sign in

What comes of a name and a password, in whatever state the stores are. Main statement: a member of
staff whom they sign in gets one session, one cached context and one access token that agree with
the directory and with each other, and everybody else gets one and the same failure, which leaves no
trace (`staff_sign_in`).
-/

namespace Gatehouse

/-- A name and a password sign in a member of staff: the one who is meant by the name, if active
and if the password fits the stored hash. -/
structure Directory.Table.LetsIn (directory : Directory.Table) (hasher : Hasher)
    (username password : String) (member : Directory.Staff) : Prop where
  /-- The member is the one with the least id among those with the name. -/
  named : directory.FirstNamed username member
  /-- The member is active. -/
  active : member.isActive = true
  /-- The password fits. -/
  fits : hasher.fits password member.passwordHash = true

/-- An access token is verified, until it expires, with the claims about a context that are made at a
time. -/
def Token.Issuer.Vouches (issuer : Issuer) (token : String) (context : Context) (now : Timestamp)
    (entropy : Entropy) : Prop :=
  ∀ time, issuer.verify token time =
    if time < issuer.expiry (Int64.ofInt now.seconds) then
      .ok (issuer.claimsFor context (Int64.ofInt now.seconds) entropy)
    else .error .expired

/-- What signing in a member of staff gives, and how the world differs by it. -/
structure Service.SignsIn (service : Service) (around : Surroundings) (client : ClientInfo)
    (member : Directory.Staff) (before after : World) (given : SignedIn) : Prop where
  /-- One session has been added: it is the member's, and has the refresh token that is given. -/
  session : ∃ id, after.sessions.rows = before.sessions.rows ++
    [{ id
       principalId := member.id
       kind := .staff
       token := given.refreshToken
       userAgent := client.userAgent
       ipAddress := client.ipAddress
       issuedAt := before.clock.now
       expiresAt := before.clock.now.after service.refreshTtl
       revokedAt := none }]
  /-- The context is the one that is loaded from the directory now. -/
  loaded : Action.perform (World.handler around) (ContextCache.load .staff member.id) after =
    (some (.ok given.context), after)
  /-- The claims of the access token are about the context. -/
  carried : service.issuer.Vouches given.accessToken given.context before.clock.now around.entropy
  /-- The lifetime that is given is that of access tokens in whole seconds. -/
  expiresIn : given.expiresIn = service.issuer.lifetime.seconds
  /-- The directory is what it was. -/
  directory : after.directory = before.directory
  /-- The context is in the cache. -/
  cached : (ContextCache.get .staff member.id).run (World.handler around) after =
    (some (some given.context), after)
  /-- No other entry has come or gone. -/
  others : ∀ entry : KeyValue.Entry, entry.key ≠ ContextCache.keyFor .staff member.id →
    (entry ∈ after.keyValue.entries ↔ entry ∈ before.keyValue.entries)

variable {service : Service} {around : Surroundings} {world : World}

/-- A context that has been cached is read back as long as its lifetime lasts. -/
theorem World.run_get_caching {context : Context} {deadline : Instant}
    (hlive : world.clock.instant.nanos < deadline.nanos) :
    (ContextCache.get context.kind context.principalId).run (World.handler around)
        (world.caching context deadline) =
      (some (some context), world.caching context deadline) := by
  have hclock : (world.caching context deadline).clock = world.clock := rfl
  rw [ContextCache.run_get, hclock, World.get_caching, if_pos hlive]
  simp only [ContextCache.decode?_write_self]

namespace Service

/-- The claims of the access token that is issued are about the context it is issued for. -/
theorem vouches_issued (context : Context) :
    service.issuer.Vouches (service.issued around world context).token context world.clock.now
      around.entropy :=
  service.issuer.verify_issue service.issuer.lifetime context (Int64.ofInt world.clock.now.seconds)
    around.entropy

/-- A session is opened if the refresh token that is drawn is a new one, and the clock can show the
end of a cached context's lifetime. -/
theorem perform_openSession_of_new {context : Context} {client : ClientInfo}
    (hnew : world.sessions.row? context.kind (Token.refreshText (around.random world.draws)) = none)
    {deadline : Instant} (hdeadline : world.clock.instant.plus? service.contextTtl = some deadline) :
    Action.perform (World.handler around) (service.openSession context client) world =
      (some (.ok (service.signedIn around world context client)),
        (opening world (service.newSession around world context client)).caching context
          deadline) := by
  have hfree : world.sessions.row? (service.newSession around world context client).kind
      (service.newSession around world context client).token = none := hnew
  rw [perform_openSession around world service context client rfl,
    (Session.Table.create_of_free hfree world.clock.now).1]
  simp only [hdeadline]

/-- Opening a session for the context of a member of staff signs in that member. -/
theorem signsIn_opening {member : Directory.Staff} {context : Context} {client : ClientInfo}
    (hkind : context.kind = .staff) (hid : context.principalId = member.id)
    (hcontext : world.directory.context? .staff member.id = some context)
    (hnew : world.sessions.row? .staff (Token.refreshText (around.random world.draws)) = none)
    {deadline : Instant} (hlive : world.clock.instant.nanos < deadline.nanos) :
    service.SignsIn around client member world
      ((opening world (service.newSession around world context client)).caching context deadline)
      (service.signedIn around world context client) := by
  have hfree : world.sessions.row? (service.newSession around world context client).kind
      (service.newSession around world context client).token = none := by
    rw [newSession, hkind]
    exact hnew
  have hadded := (Session.Table.create_of_free hfree world.clock.now).2
  have hread : (ContextCache.get context.kind context.principalId).run (World.handler around)
      ((opening world (service.newSession around world context client)).caching context deadline) =
      _ := World.run_get_caching hlive
  rw [hkind, hid] at hread
  refine ⟨⟨world.sessions.lastId + 1, ?_⟩, ?_, vouches_issued context, rfl, rfl, hread,
    fun entry hne => ?_⟩
  · refine hadded.trans ?_
    rw [Session.New.row, newSession, hkind, hid]
    rfl
  · rw [ContextCache.perform_load]
    have hsame : ((opening world (service.newSession around world context client)).caching context
      deadline).directory = world.directory := rfl
    rw [hsame, hcontext]
    rfl
  · rw [← hkind, ← hid] at hne
    exact KeyValue.Table.mem_put.trans
      ⟨fun h => h.elim (fun h => absurd (congrArg KeyValue.Entry.key h) hne) And.left,
        fun h => .inr ⟨h, hne⟩⟩

/-- A member of staff who is meant by a name and whose password fits goes on to open a session. -/
theorem perform_signInStaff_of_fits {username password : String} {member : Directory.Staff}
    (hnamed : world.directory.staffNamed? username = some member)
    (hfound : world.directory.staff? member.id = some member) (hactive : member.isActive = true)
    (hfits : around.hasher.fits password member.passwordHash = true) (client : ClientInfo) :
    Action.perform (World.handler around) (service.signInStaff username password client) world =
      Action.perform (World.handler around)
        (service.openSession ⟨member.id, .staff, member.username, some member.role,
          world.directory.storeList member.id member.role⟩ client) world := by
  rw [perform_signInStaff, hnamed, Option.filter_some, if_pos hactive]
  simp only [hfits, StaffChange.context?_eq hfound hactive]
  rfl

/-- Signing in is refused to everybody who is not meant by the name, active and in possession of the
password, and to all of them alike. -/
theorem perform_signInStaff_of_not {username password : String}
    (h : ∀ member, world.directory.staffNamed? username = some member → member.isActive = true →
      around.hasher.fits password member.passwordHash = false) (client : ClientInfo) :
    Action.perform (World.handler around) (service.signInStaff username password client) world =
      (some (.error .invalidCredentials), world) := by
  rw [perform_signInStaff]
  cases hnamed : (world.directory.staffNamed? username).filter (fun member => member.isActive) with
  | none => rfl
  | some member =>
    obtain ⟨hfound, hactive⟩ := Option.filter_eq_some_iff.1 hnamed
    simp only [h member hfound hactive, Bool.not_false, if_true]

end Service

/-- In every state of the stores, a name and a password that sign in nobody are refused with one
failure, which does not tell why and leaves the world as it was. If they sign in a member of staff,
and the refresh token that is drawn is a new one, the member gets a session, a cached context and an
access token as they should be, and nothing else changes. -/
theorem staff_sign_in (hascending : world.directory.Ascending)
    (hpositive : 0 < service.contextTtl.nanos) (hshow : world.clock.CanShow service.contextTtl)
    (hnew : world.sessions.row? .staff (Token.refreshText (around.random world.draws)) = none)
    (username password : String) (client : ClientInfo)
    {outcome : Option (Except AuthError SignedIn)} {after : World}
    (hrun : Action.perform (World.handler around)
      (service.signInStaff username password client) world = (outcome, after)) :
    ((¬ ∃ member, world.directory.LetsIn around.hasher username password member) →
        outcome = some (.error .invalidCredentials) ∧ after = world) ∧
      ∀ member, world.directory.LetsIn around.hasher username password member →
        ∃ given, outcome = some (.ok given) ∧
          service.SignsIn around client member world after given := by
  constructor
  · intro hnot
    rw [Service.perform_signInStaff_of_not] at hrun
    · cases hrun
      exact ⟨rfl, rfl⟩
    · intro member hnamed hactive
      exact Bool.eq_false_iff.2 fun hfits =>
        hnot ⟨member, hascending.staffNamed?_eq_some_iff.1 hnamed, hactive, hfits⟩
  · intro member hin
    obtain ⟨deadline, hdeadline⟩ := Option.isSome_iff_exists.1 hshow
    have hfound := hascending.staff?_eq_some hin.named.mem
    rw [Service.perform_signInStaff_of_fits (hascending.staffNamed?_eq_some_iff.2 hin.named) hfound
      hin.active hin.fits, Service.perform_openSession_of_new hnew hdeadline] at hrun
    cases hrun
    have hlive : world.clock.instant.nanos < deadline.nanos := by
      rw [Instant.nanos_of_plus? hdeadline]
      omega
    exact ⟨_, rfl, Service.signsIn_opening rfl rfl (StaffChange.context?_eq hfound hin.active) hnew
      hlive⟩

/-- A directory with two members of staff of one name. -/
def Directory.Table.plainNamesakes : Table :=
  { staff :=
      [⟨1, "root", "root@localhost", "first password", .superAdmin, true⟩,
        ⟨2, "root", "second@localhost", "second password", .stylist, true⟩]
    lastId := 2 }

/-- The world in which nothing has happened to them. -/
def World.plainNamesakes : World := .fresh ⟨⟨0⟩, .zero⟩ .plainNamesakes

/-- The name is that of the first of two namesakes: the password of the second signs in nobody. -/
theorem staff_sign_in_namesakes :
    (∃ given, (Action.perform (World.handler .plain)
        (Service.plain.signInStaff "root" "first password" {}) .plainNamesakes).1 =
        some (.ok given) ∧
      Service.plain.SignsIn .plain {}
        ⟨1, "root", "root@localhost", "first password", .superAdmin, true⟩ .plainNamesakes
        (Action.perform (World.handler .plain)
          (Service.plain.signInStaff "root" "first password" {}) .plainNamesakes).2 given) ∧
      (Action.perform (World.handler .plain)
        (Service.plain.signInStaff "root" "second password" {}) .plainNamesakes).1 =
        some (.error .invalidCredentials) := by
  have hascending : World.plainNamesakes.directory.Ascending :=
    List.pairwise_pair.2 (by decide)
  have hshow : World.plainNamesakes.clock.CanShow Service.plain.contextTtl := by rfl
  have hnew : World.plainNamesakes.sessions.row? .staff
      (Token.refreshText (Surroundings.plain.random World.plainNamesakes.draws)) = none := rfl
  have hfirst : World.plainNamesakes.directory.FirstNamed "root"
      ⟨1, "root", "root@localhost", "first password", .superAdmin, true⟩ :=
    hascending.staffNamed?_eq_some_iff.1 rfl
  refine ⟨(staff_sign_in hascending (by decide) hshow hnew "root" "first password" {} rfl).2 _
    ⟨hfirst, rfl, rfl⟩, ((staff_sign_in hascending (by decide) hshow hnew "root" "second password" {}
      rfl).1 ?_).1⟩
  rintro ⟨member, hnamed, -, hfits⟩
  obtain rfl := Option.some.inj ((hascending.staffNamed?_eq_some_iff.2 hnamed).symm.trans
    (hascending.staffNamed?_eq_some_iff.2 hfirst))
  exact absurd hfits (by decide)

end Gatehouse
