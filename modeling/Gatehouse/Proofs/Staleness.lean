import Gatehouse.Proofs.Outages
import Gatehouse.Proofs.Serializability

/-!
# How stale a context can be

A cached context may be out of date: dropping it can fail after its principal has been changed. But
nothing lengthens its life, so it is never older than its lifetime. Main statement: however calls to
the shared entries fail, no operation fails because of that, and every context that is asked for or
put into a token is one that could be loaded less than a lifetime ago (`staleness_bounded`).
-/

namespace Gatehouse

variable {service : Service} {hitches : Hitches} {around : Surroundings} {course : Course}

/-! ## Operations come to their end -/

/-- A program that breaks off does so at a call that it may make. -/
theorem Program.Within.broken {I : Interface} {α σ : Type} {allowed : I.Call → Prop}
    {post : α → Prop} {program : Program I α} {handler : Handler I σ} {state : σ}
    (h : program.Within allowed (fun _ _ => True) post) (bad : σ → Prop)
    (hbad : ∀ call state, allowed call → (handler call state).1 = none →
      bad (handler call state).2)
    (hnone : (program.run handler state).1 = none) : bad (program.run handler state).2 := by
  induction program generalizing state with
  | done value => cases hnone
  | ask call next ih =>
    rw [Program.run] at hnone ⊢
    rcases hreply : handler call state with ⟨_ | reply, after⟩
    · have hafter := hbad call state h.1 (by rw [hreply])
      rwa [hreply] at hafter
    · rw [hreply] at hnone
      exact ih reply (h.2 reply trivial) hnone

/-- Every call of an operation is answered while the clock can show the end of a lifetime. -/
theorem Operation.lasts (service : Service) (operation : Operation) :
    Action.Within (Lasts service.contextTtl) (fun _ _ => True) (fun _ => True)
      (operation.action service) := by
  have licence : service.Licence (Lasts service.contextTtl) (fun _ _ => True) := by
    refine ⟨?_, fun _ _ => trivial, fun _ _ => trivial, fun _ _ _ _ => rfl⟩
    rintro ((_ | _ | _) | call) hlooks
    · cases hlooks
    · trivial
    · trivial
    · cases call <;> trivial
  refine Operation.within licence operation ?_
  rintro (call | call | call) hcall
  -- operations write to sessions and directory only
  · cases operation <;> simp [Operation.MayWrite] at hcall
  · trivial
  · trivial

/-- An operation breaks off only where the clock cannot show the end of a lifetime. -/
theorem Course.completes (service : Service) (hitches : Hitches) (around : Surroundings)
    (operation : Operation) (course : Course)
    (hnone : (Action.perform (failing hitches around) (operation.action service) course).1 = none) :
    ¬ (Action.perform (failing hitches around) (operation.action service)
      course).2.world.clock.CanShow service.contextTtl := by
  refine Program.Within.broken (operation.lasts service)
    (fun after => ¬ after.world.clock.CanShow service.contextTtl) ?_ hnone
  intro call course hlasts hnone
  rcases failing_cases hitches around call course with ⟨entry, rfl, hsome, -⟩ | heq
  · rw [hnone] at hsome
    cases hsome
  rw [heq] at hnone ⊢
  intro hshow
  -- a call without an answer leaves the world as it is, so its clock is the one that was read
  obtain ⟨after, hafter⟩ : ∃ after, World.handler around call (course.moment hitches) =
      (none, after) := ⟨_, Prod.ext hnone rfl⟩
  have hworld := World.eq_of_handler_none hafter
  rw [hafter, hworld] at hshow
  obtain ⟨⟨reply, hreply⟩, -⟩ := World.handler_of_lasts hlasts hshow around
  rw [hnone] at hreply
  cases hreply

/-! ## What is told of a principal -/

/-- The replies of a directory, and of a cache that holds only contexts that some directories give.
-/
def Told (directory : Directory.Table) (among : List Directory.Table) (call : RequestCall)
    (reply : call.Reply) : Prop :=
  Truthful directory call reply ∧ Seen among call reply

section

variable {directory : Directory.Table} {among : List Directory.Table} {kind : PrincipalKind}
  {id : PrincipalId} {context : Context}

/-- The directory says the same whatever the cache holds. -/
theorem says_told (hmem : directory ∈ among) (call : Directory.Call) :
    Says (Told directory among) call = Says (Truthful directory) call :=
  funext fun _ => propext ⟨fun h => h.1, fun h => ⟨h, directory, hmem, h⟩⟩

/-- A context that is loaded is the one that the directory gives. -/
theorem loaded_told_iff (hmem : directory ∈ among) :
    Loaded (Told directory among) kind id context ↔ directory.context? kind id = some context := by
  rw [← loaded_iff]
  cases kind <;> simp only [Loaded, says_told hmem]

/-- The service may look around, drop contexts and cache what it loaded. -/
theorem told_licence (service : Service) (hmem : directory ∈ among) :
    service.Licence (fun call => Keeps among call ∧ call.writesDirectory = false)
      (Told directory among) := by
  refine ⟨?_, ?_, ?_, ?_⟩
  · rintro ((_ | _ | call) | _) hlooks
    · cases hlooks
    · exact ⟨trivial, rfl⟩
    · exact ⟨trivial, congrArg Bool.not hlooks⟩
    · exact ⟨trivial, rfl⟩
  -- reading and dropping set no key
  · exact fun _ _ => ⟨by rintro _ _ _ ⟨⟩, rfl⟩
  · exact fun _ _ => ⟨by rintro _ _ _ ⟨⟩, rfl⟩
  · intro kind id context hloaded
    refine ⟨?_, rfl⟩
    rintro otherKind otherId value ⟨hkey, rfl⟩
    have hcontext := (loaded_told_iff hmem).1 hloaded
    obtain ⟨hkind, hid⟩ := ContextCache.keyFor_inj.1 hkey
    obtain ⟨rfl, rfl⟩ := Context.isFor_iff.1 (Directory.Table.isFor_of_context? hcontext)
    exact ⟨directory, hmem, context, hkind ▸ hid ▸ hcontext, rfl⟩

variable {allowed : RequestCall → Prop}

/-- Loading gives the context that the directory gives, or fails as it says. -/
theorem ContextCache.load_told (licence : service.Licence allowed (Told directory among))
    (kind : PrincipalKind) (id : PrincipalId) :
    Action.Ends allowed (Told directory among)
      (fun outcome =>
        outcome = (directory.context? kind id).elim (.error .principalNotFound) .ok)
      (load kind id) := by
  -- every question to the directory is answered by it
  have hask {α : Type} {call : Directory.Call} {next : call.Value → Action α}
      {post : Except AuthError α → Prop} {value : call.Value} (hreads : call.reads = true)
      (hvalue : (directory.answer call).1 = .ok value)
      (hnext : Action.Ends allowed (Told directory among) post (next value)) :
      Action.Ends allowed (Told directory among) post (Action.directory call >>= next) := by
    have hdirectory : Action.Ends allowed (Told directory among)
        (fun outcome => outcome = .ok value) (Action.directory call) := by
      refine Action.ends_directory (licence.read call hreads) ?_
      rintro reply ⟨htruthful, -⟩
      rw [show reply = (directory.answer call).1 from htruthful, hvalue]
      rfl
    refine hdirectory.bind (by rintro _ ⟨⟩) ?_
    rintro _ ⟨⟩
    exact hnext
  cases kind with
  | staff =>
    refine hask rfl rfl ?_
    rw [Directory.Table.context?]
    cases (directory.staff? id).filter (fun member => member.isActive) with
    | none => exact Action.ends_throw rfl
    | some member => exact hask rfl rfl (Action.ends_pure rfl)
  | customer =>
    refine hask rfl rfl ?_
    rw [Directory.Table.context?]
    rcases directory.customer? id with _ | customer
    · exact Action.ends_throw rfl
    · exact Action.ends_pure rfl

/-- Resolving gives the context that one of the directories gives, or fails as that says. -/
theorem ContextCache.resolve_told (licence : service.Licence allowed (Told directory among))
    (hmem : directory ∈ among) (kind : PrincipalKind) (id : PrincipalId) :
    Action.Ends allowed (Told directory among) (fun outcome => ∃ directory ∈ among,
      outcome = (directory.context? kind id).elim (.error .principalNotFound) .ok)
      (resolve service.contextTtl kind id) := by
  have hget : Action.Ends allowed (Told directory among) (fun outcome => ∃ found,
      outcome = .ok found ∧
        ∀ context, found = some context → Cached (Told directory among) kind id context)
      (Action.always (get kind id)) :=
    Action.ends_always ((get_within (licence.consult kind id) (licence.drop kind id)).mono
      (fun found hfound => ⟨found, rfl, hfound⟩))
  refine hget.bind (by rintro error ⟨found, ⟨⟩, -⟩) ?_
  rintro (_ | context) ⟨_, ⟨⟩, hfound⟩
  -- what is not cached is loaded from the directory, and cached before it is given
  · refine (load_told licence kind id).bind (fun error herror => ⟨directory, hmem, herror⟩) ?_
    intro context houtcome
    have hprime : Action.Ends allowed (Told directory among)
        (fun outcome => ∃ value, outcome = .ok value)
        (Action.always (prime service.contextTtl context)) :=
      Action.ends_always ((prime_within (licence.keep _ _ _
        ((loaded_told_iff hmem).2 (ok_eq_elim.1 houtcome)))).mono (fun value _ => ⟨value, rfl⟩))
    refine hprime.bind (by rintro error ⟨value, ⟨⟩⟩) ?_
    exact fun _ _ => Action.ends_pure ⟨directory, hmem, houtcome⟩
  · obtain ⟨value, htold, hdecode⟩ := hfound context rfl
    have hcached : Cached (Seen among) kind id context := ⟨value, htold.2, hdecode⟩
    obtain ⟨source, hsource, hcontext⟩ := hcached.exists_context?
    refine Action.ends_pure ⟨source, hsource, ?_⟩
    rw [hcontext]
    rfl

end

/-! ## What is recent -/

namespace Course

/-- The course when a call has been answered that changes nothing. -/
def asked (hitches : Hitches) (course : Course) : Course :=
  ⟨course.moment hitches, course.moment hitches :: course.moments⟩

/-- The worlds of a course that are younger than a lifetime when the next call is answered. -/
def recent (hitches : Hitches) (ttl : Duration) (course : Course) : List World :=
  (course.moment hitches :: course.moments).filter (fun point =>
    (course.moment hitches).clock.instant.nanos < point.clock.instant.nanos + ttl.nanos)

/-- The moment of the next call is recent. -/
theorem moment_mem_recent {ttl : Duration} (httl : 0 < ttl.nanos) (hitches : Hitches)
    (course : Course) : course.moment hitches ∈ course.recent hitches ttl := by
  refine List.mem_filter.2 ⟨List.mem_cons_self, ?_⟩
  rw [decide_eq_true_eq]
  omega

/-- What is cached and alive when the next call is answered was given by the directory at a recent
point. -/
theorem Backed.reflects {ttl : Duration} (h : course.Backed ttl) (hitches : Hitches) :
    (course.moment hitches).Reflects ((course.recent hitches ttl).map World.directory)
      course.world.directory := by
  refine ⟨rfl, ?_⟩
  intro entry hmem hlive kind id hkey
  obtain ⟨point, hpoint, context, hcontext, hvalue, hdeadline⟩ := h.cached entry hmem kind id hkey
  have hrecent : point ∈ course.recent hitches ttl := by
    refine List.mem_filter.2 ⟨List.mem_cons_of_mem _ hpoint, ?_⟩
    rw [← hdeadline]
    exact hlive
  exact ⟨point.directory, List.mem_map_of_mem hrecent, context, hcontext, hvalue⟩

end Course

section

variable {directory : Directory.Table} {among : List Directory.Table}

/-- A cache holds no more when time has passed. -/
theorem World.Reflects.later {world : World} (h : world.Reflects among directory)
    (duration : Duration) : (world.later duration).Reflects among directory := by
  refine ⟨h.directory_eq, ?_⟩
  intro entry hmem hlive
  exact h.cached entry hmem (KeyValue.Entry.isLiveAt_of_le (Nat.le_add_right _ _) hlive)

/-- Calls that keep a cache as it should be in a world do so in a course, and are told what they
would be told in a world unless they fail. -/
theorem World.Reflects.failing (h : (course.moment hitches).Reflects among directory)
    (hmem : directory ∈ among) (around : Surroundings) {call : RequestCall}
    (hkeeps : Keeps among call) (hreads : call.writesDirectory = false) :
    (Course.failing hitches around call course).2.world.Reflects among directory ∧
      ∀ reply ∈ (Course.failing hitches around call course).1, Told directory among call reply := by
  obtain ⟨-, htruthful⟩ := Course.directory_failing hitches around call course
  rw [show course.world.directory = directory from h.directory_eq] at htruthful
  rcases Course.failure_cases hitches call course with ⟨error, entry, herror, rfl⟩ | hcalm
  · rw [Course.failing, Course.handlerWith_failure herror]
    refine ⟨h, ?_⟩
    rintro _ ⟨⟩
    refine ⟨trivial, ?_⟩
    cases entry with
    | get => rintro value ⟨⟩
    | _ => trivial
  · obtain ⟨hafter, hseen⟩ := h.handler hmem around hkeeps hreads
    rw [Course.failing, Course.handlerWith_eq hcalm] at htruthful ⊢
    exact ⟨hafter, fun reply hreply => ⟨htruthful reply hreply, hseen reply hreply⟩⟩

/-- An action that only reads and keeps what it loaded ends as it may when it is told of a directory
and of a cache. -/
theorem World.Reflects.perform {α : Type} {action : Action α} {post : Except AuthError α → Prop}
    (h : (course.moment hitches).Reflects among directory) (hmem : directory ∈ among)
    (around : Surroundings)
    (haction : Action.Ends (fun call => Keeps among call ∧ call.writesDirectory = false)
      (Told directory among) post action) {outcome : Except AuthError α} {after : Course}
    (hrun : Action.perform (Course.failing hitches around) action course = (some outcome, after)) :
    post outcome := by
  have hkeep (call : RequestCall) (course : Course)
      (hreflects : (course.moment hitches).Reflects among directory)
      (hcall : Keeps among call ∧ call.writesDirectory = false) :
      ((Course.failing hitches around call course).2.moment hitches).Reflects among directory ∧
        ∀ reply ∈ (Course.failing hitches around call course).1,
          Told directory among call reply := by
    obtain ⟨hafter, htold⟩ := hreflects.failing hmem around hcall.1 hcall.2
    exact ⟨hafter.later _, htold⟩
  exact (Program.Within.run haction hkeep h).2 outcome (congrArg Prod.fst hrun)

end

/-! ## What is given -/

variable {clock : Clock} {directory : Directory.Table}

/-- Whatever resolving comes to is what loading came to at a recent point. -/
theorem Course.Backed.resolve (hbacked : course.Backed service.contextTtl)
    (httl : 0 < service.contextTtl.nanos) {kind : PrincipalKind} {id : PrincipalId}
    {outcome : Except AuthError Context} {after : Course}
    (hrun : Action.perform (failing hitches around)
      (ContextCache.resolve service.contextTtl kind id) course = (some outcome, after)) :
    ∃ point ∈ course.recent hitches service.contextTtl,
      outcome = (point.directory.context? kind id).elim (.error .principalNotFound) .ok := by
  have hmem := List.mem_map_of_mem (f := World.directory) (moment_mem_recent httl hitches course)
  obtain ⟨source, hsource, rfl⟩ := (hbacked.reflects hitches).perform hmem around
    (ContextCache.resolve_told (told_licence service hmem) hmem kind id) hrun
  obtain ⟨point, hpoint, rfl⟩ := List.mem_map.1 hsource
  exact ⟨point, hpoint, rfl⟩

/-- What refreshing gives for a context, at some time and with some entropy. -/
def Service.reissued (service : Service) (context : Context) (seconds : Int64)
    (entropy : Token.Entropy) : Refreshed :=
  ⟨(service.issuer.issue context seconds entropy).token,
    (service.issuer.issue context seconds entropy).expiresIn⟩

/-- Refreshing finds a session, and then gives a token for a context of its owner that one of the
directories gives. -/
theorem Service.refresh_told {among : List Directory.Table} {allowed : RequestCall → Prop}
    (licence : service.Licence allowed (Told directory among)) (hmem : directory ∈ among)
    (kind : PrincipalKind) (token : String) :
    ∃ failure enter, service.refresh kind token =
        Action.ofRequest failure (Request.session (.find kind token)) >>= enter ∧
      ∀ row : Session.Row, Action.Within allowed (Told directory among)
        (fun given => ∃ directory ∈ among, ∃ context seconds entropy,
          directory.context? kind row.principalId = some context ∧
            given = service.reissued context seconds entropy)
        (enter row) := by
  refine ⟨_, _, rfl, ?_⟩
  intro row
  have hresolve : Action.Within allowed (Told directory among)
      (fun context => ∃ directory ∈ among, directory.context? kind row.principalId = some context)
      (ContextCache.resolve service.contextTtl kind row.principalId) := by
    refine Program.Within.mono (ContextCache.resolve_told licence hmem kind row.principalId) ?_
    rintro _ ⟨source, hsource, houtcome⟩ context rfl
    exact ⟨source, hsource, ok_eq_elim.1 houtcome⟩
  refine Action.Within.bind hresolve.mapFailure ?_
  rintro context ⟨source, hsource, hcontext⟩
  have hissue : Action.Within allowed (Told directory among)
      (fun issued => ∃ seconds entropy, issued = service.issuer.issue context seconds entropy)
      (service.issue context) := by
    refine Action.Within.andThen
      (Action.within_outside (licence.look _ rfl) (fun _ _ => trivial)) ?_
    intro now
    refine Action.Within.andThen
      (Action.within_outside (licence.look _ rfl) (fun _ _ => trivial)) ?_
    exact fun entropy => Action.within_pure ⟨_, entropy, rfl⟩
  refine Action.Within.bind hissue ?_
  rintro _ ⟨seconds, entropy, rfl⟩
  exact Action.within_pure ⟨source, hsource, context, seconds, entropy, hcontext, rfl⟩

/-- A refreshed token is issued for a context that could be loaded for the owner of the session at a
point that is recent once the session has been found. -/
theorem Course.Backed.refresh (hbacked : course.Backed service.contextTtl)
    (httl : 0 < service.contextTtl.nanos) {kind : PrincipalKind} {token : String}
    {given : Refreshed} {after : Course}
    (hrun : Action.perform (failing hitches around) (service.refresh kind token) course =
      (some (.ok given), after)) :
    ∃ row, course.world.sessions.find (course.moment hitches).clock.now kind token = .ok row ∧
      ∃ point ∈ (course.asked hitches).recent hitches service.contextTtl,
        ∃ context seconds entropy,
          point.directory.context? kind row.principalId = some context ∧
            given = service.reissued context seconds entropy := by
  have hmem := List.mem_map_of_mem (f := World.directory)
    (moment_mem_recent httl hitches (course.asked hitches))
  obtain ⟨failure, enter, hrefresh, henter⟩ :=
    Service.refresh_told (told_licence service hmem) hmem kind token
  -- the session is found in the world as it is when the call is answered
  have hfind : failing hitches around (.store (.session (.find kind token))) course =
      (some (course.world.sessions.find (course.moment hitches).clock.now kind token),
        course.asked hitches) :=
    handlerWith_eq (.inr (by rintro _ ⟨⟩))
  have hask : Action.perform (failing hitches around)
      (Action.ofRequest failure (Request.session (.find kind token))) course =
        (some ((course.world.sessions.find (course.moment hitches).clock.now kind token).mapError
          failure), course.asked hitches) := by
    have hcall : (Request.session (.find kind token)).run (failing hitches around) course =
        failing hitches around (.store (.session (.find kind token))) course :=
      Program.run_call (failing hitches around) _ course
    rw [Action.perform_ofRequest, hcall, hfind]
    rfl
  rw [hrefresh, Action.perform_bind, hask] at hrun
  rcases hrow : course.world.sessions.find (course.moment hitches).clock.now kind token with
    error | row
  · rw [hrow] at hrun
    cases hrun
  rw [hrow] at hrun
  refine ⟨row, rfl, ?_⟩
  -- what was cached before is backed as before when the session has been found
  have hasked : (course.asked hitches).Backed service.contextTtl :=
    hbacked.answered (Nat.le_refl _) (fun _ hmem => .inl hmem)
  obtain ⟨source, hsource, context, seconds, entropy, hcontext, hgiven⟩ :=
    (hasked.reflects hitches).perform hmem around (henter row) hrun given rfl
  obtain ⟨point, hpoint, rfl⟩ := List.mem_map.1 hsource
  exact ⟨point, hpoint, context, seconds, entropy, hcontext, hgiven⟩

/-! ## The bound -/

/-- What loading the context of a principal comes to in a world, which it leaves as it is. -/
def World.Loads (world : World) (kind : PrincipalKind) (id : PrincipalId)
    (outcome : Except AuthError Context) : Prop :=
  ∀ around, Action.perform (World.handler around) (ContextCache.load kind id) world =
    (some outcome, world)

/-- Loading comes to what the directory gives. -/
theorem World.loads_iff {world : World} {kind : PrincipalKind} {id : PrincipalId}
    {outcome : Except AuthError Context} :
    world.Loads kind id outcome ↔
      outcome = (world.directory.context? kind id).elim (.error .principalNotFound) .ok := by
  refine ⟨fun h => ?_, ?_⟩
  · have hload := h .plain
    rw [ContextCache.perform_load] at hload
    cases hload
    rfl
  · rintro rfl around
    exact ContextCache.perform_load around world kind id

/-- Loading goes by the directory alone. -/
theorem World.Loads.of_directory {world other : World} {kind : PrincipalKind} {id : PrincipalId}
    {outcome : Except AuthError Context} (h : world.Loads kind id outcome)
    (hsame : world.directory = other.directory) : other.Loads kind id outcome := by
  rw [World.loads_iff, hsame] at h
  exact World.loads_iff.2 h

/-- Loading the context of a principal comes to an outcome at some point that is less than a
lifetime old when the next call is answered. -/
def Course.Recalls (hitches : Hitches) (ttl : Duration) (course : Course) (kind : PrincipalKind)
    (id : PrincipalId) (outcome : Except AuthError Context) : Prop :=
  ∃ point ∈ course.recent hitches ttl, point.Loads kind id outcome

/-- What has stayed the same for a lifetime is honoured. -/
theorem Course.Recalls.loads {hitches : Hitches} {ttl : Duration} {course changed : Course}
    {kind : PrincipalKind} {id : PrincipalId} {outcome : Except AuthError Context}
    (h : course.Recalls hitches ttl kind id outcome)
    (hpast : ∀ point ∈ changed.moments,
      point.clock.instant.nanos ≤ changed.world.clock.instant.nanos)
    (hsince : changed.world.clock.instant.nanos + ttl.nanos ≤
      (course.moment hitches).clock.instant.nanos)
    (hsame : ∀ point ∈ course.moments, point ∉ changed.moments →
      ∀ outcome, point.Loads kind id outcome → course.world.Loads kind id outcome) :
    course.world.Loads kind id outcome := by
  obtain ⟨point, hpoint, hloads⟩ := h
  obtain ⟨hmem, hrecent⟩ := List.mem_filter.1 hpoint
  rw [decide_eq_true_eq] at hrecent
  rcases List.mem_cons.1 hmem with rfl | hmem
  · exact hloads.of_directory rfl
  refine hsame point hmem ?_ outcome hloads
  -- the moments before the change are older than a lifetime
  intro hold
  have hbefore := hpast point hold
  omega

/-- The staleness of contexts is bounded. In a play since a fresh start, in which calls to the
shared entries may fail at any time and in any way, no operation fails because of that: the play
goes as if the calls had found nothing and done nothing, and an operation is cut short only where
the clock cannot show the end of a lifetime. What asking for the present context comes to is what
loading it came to at a point less than a lifetime before the shared entries are asked, and so is
the context for which a token is refreshed. So what has stayed the same for a lifetime is honoured.
-/
theorem staleness_bounded {clock : Clock} {directory : Directory.Table} {scenes : List Scene}
    {outcomes : List (Option (Except AuthError Answer))}
    (httl : 0 < service.contextTtl.nanos)
    (hplay : Course.play (Course.failing hitches) service scenes (.fresh clock directory) =
      (outcomes, course)) (around : Surroundings) :
    Course.play (Course.idle hitches) service scenes (.fresh clock directory) =
        (outcomes, course) ∧
      (∀ (operation : Operation) outcome after,
        Action.perform (Course.failing hitches around) (operation.action service) course =
            (outcome, after) →
          after.world.clock.CanShow service.contextTtl → outcome.isSome) ∧
      (∀ claims outcome after,
        Action.perform (Course.failing hitches around) (service.permissions claims) course =
            (some outcome, after) →
          course.Recalls hitches service.contextTtl claims.kind claims.subject outcome) ∧
      (∀ kind token given after,
        Action.perform (Course.failing hitches around) (service.refresh kind token) course =
            (some (.ok given), after) →
          ∃ row, course.world.sessions.find (course.moment hitches).clock.now kind token = .ok row ∧
            ∃ context seconds entropy,
              (course.asked hitches).Recalls hitches service.contextTtl kind row.principalId
                (.ok context) ∧
                given = service.reissued context seconds entropy) ∧
      ∀ earlier later, scenes = earlier ++ later →
        ∀ changed, (Course.play (Course.failing hitches) service earlier
            (.fresh clock directory)).2 = changed →
          changed.world.clock.instant.nanos + service.contextTtl.nanos ≤
              (course.moment hitches).clock.instant.nanos →
            ∀ kind id, (∀ point ∈ course.moments, point ∉ changed.moments →
                ∀ outcome, point.Loads kind id outcome → course.world.Loads kind id outcome) →
              ∀ outcome, course.Recalls hitches service.contextTtl kind id outcome ∨
                  (course.asked hitches).Recalls hitches service.contextTtl kind id outcome →
                course.world.Loads kind id outcome := by
  have hfresh := Course.backed_fresh service.contextTtl clock directory
  obtain ⟨hidle, hbacked⟩ := Course.play_failing hfresh hitches scenes
  rw [hplay] at hidle hbacked
  refine ⟨hidle.symm, ?_, ?_, ?_, ?_⟩
  · intro operation outcome after hrun hshow
    have hcompletes := Course.completes service hitches around operation course
    rw [hrun] at hcompletes
    exact Option.isSome_iff_ne_none.2 (fun hnone => hcompletes hnone hshow)
  · intro claims outcome after hrun
    obtain ⟨point, hpoint, houtcome⟩ := hbacked.resolve httl hrun
    exact ⟨point, hpoint, World.loads_iff.2 houtcome⟩
  · intro kind token given after hrun
    obtain ⟨row, hrow, point, hpoint, context, seconds, entropy, hcontext, hgiven⟩ :=
      hbacked.refresh httl hrun
    refine ⟨row, hrow, context, seconds, entropy, ⟨point, hpoint, World.loads_iff.2 ?_⟩, hgiven⟩
    rw [hcontext]
    rfl
  · rintro earlier later - changed hchanged hsince kind id hsame outcome hrecalls
    obtain ⟨-, hearlier⟩ := Course.play_failing hfresh hitches earlier
    rw [hchanged] at hearlier
    rcases hrecalls with hrecalls | hrecalls
    · exact hrecalls.loads hearlier.past hsince hsame
    -- finding the session takes time, and leaves the directory as it is
    have hlater : changed.world.clock.instant.nanos + service.contextTtl.nanos ≤
        ((course.asked hitches).moment hitches).clock.instant.nanos :=
      Nat.le_trans hsince (Nat.le_add_right _ _)
    refine World.Loads.of_directory (hrecalls.loads hearlier.past hlater ?_) rfl
    intro point hmem hnew outcome hpoint
    rcases List.mem_cons.1 hmem with rfl | hmem
    · exact hpoint.of_directory rfl
    · exact (hsame point hmem hnew outcome hpoint).of_directory rfl

/-- Calls take no time, and dropping the stylist's context in the scenes below fails. -/
def Hitches.plain : Hitches :=
  ⟨fun _ => .zero, fun number => if number = 10 then some (.database "no connection") else none⟩

/-- The claims of the stylist. -/
def Token.Claims.plainStylist : Token.Claims := ⟨3, .staff, "bob", none, .empty, 0, 0, ""⟩

/-- The stylist asks for the present context, and is barred from signing in. -/
def Scene.plainBarring : List Scene :=
  [⟨.plain, .operation (.permissions .plainStylist)⟩,
    ⟨.plain, .operation (.setActive .plain 3 false)⟩]

/-- The stylist, whose context could not be dropped, still has it at first. -/
theorem staleness_bounded_barring :
    0 < Service.plain.contextTtl.nanos ∧
      ∃ outcomes course after outcome,
        Course.play (Course.failing .plain) .plain Scene.plainBarring
            (.fresh ⟨⟨0⟩, .zero⟩ .plainStaff) = (outcomes, course) ∧
          Action.perform (Course.failing .plain .plain)
              (Service.plain.permissions .plainStylist) course = (some (.ok outcome), after) ∧
            ¬ course.world.Loads .staff 3 (.ok outcome) ∧
              course.Recalls .plain Service.plain.contextTtl .staff 3 (.ok outcome) := by
  have httl : 0 < Service.plain.contextTtl.nanos := by decide
  have hplay : Course.play (Course.failing .plain) .plain Scene.plainBarring
      (.fresh ⟨⟨0⟩, .zero⟩ .plainStaff) = (_, _) := rfl
  refine ⟨httl, _, _, _, _, hplay, rfl, ?_, ?_⟩
  · intro h
    cases World.loads_iff.1 h
  · exact (staleness_bounded httl hplay .plain).2.2.1 .plainStylist _ _ rfl

end Gatehouse
