import Gatehouse.Proofs.Coherence

/-!
# Runs in which the shared entries fail now and then

A world in which every call takes its time, and calls to the shared entries may fail without an
effect. To the service a failed read is a miss, and a failed write one that was not made: its
requests treat the entries as a cache that only advises (`Operation.careful`,
`Sweep.advised_runOnce`). Main statement: whatever calls fail, and however they fail, a play goes as
if they had found nothing and done nothing, and each context that is cached at the end is one that
the directory gave when its lifetime began (`Course.play_failing`).
-/

namespace Gatehouse

/-- The world after some time. -/
def World.later (world : World) (duration : Duration) : World :=
  { world with clock := world.clock.advance duration }

/-- What a call to the shared entries gives when it finds nothing and does nothing. -/
def KeyValue.Call.nothing : (call : KeyValue.Call) → call.Value
  | get _ => none
  | set _ _ _ => ()
  | setIfAbsent _ _ _ => false
  | delete _ => ()
  | purge => (0 : Nat)

/-- How long each call takes, and which calls to the shared entries fail. Both go by the number of
calls made before. -/
structure Hitches where
  /-- The time that passes before the call is answered. -/
  delay : Nat → Duration
  /-- How the call fails if it goes to the shared entries and does fail. -/
  failure? : Nat → Option StorageError

/-- A world, and what it was like when calls were answered. -/
structure Course where
  /-- The world now. -/
  world : World
  /-- The worlds in which the calls so far were answered, the last one first. -/
  moments : List World := []

namespace Course

/-- A course in which nothing has happened. -/
def fresh (clock : Clock) (directory : Directory.Table) : Course := ⟨.fresh clock directory, []⟩

/-- The world in which the next call is answered. -/
def moment (hitches : Hitches) (course : Course) : World :=
  course.world.later (hitches.delay course.moments.length)

/-- Answers every call as the world does once the call has taken its time, but a call to the shared
entries that fails has no effect and is given a reply of its own. -/
def handlerWith (reply : StorageError → (call : KeyValue.Call) → Except StorageError call.Value)
    (hitches : Hitches) (around : Surroundings) : Handler requests Course := fun call course =>
  let moment := course.moment hitches
  match call, hitches.failure? course.moments.length with
  | .store (.keyValue call), some error =>
    (some (reply error call), ⟨moment, moment :: course.moments⟩)
  | call, _ =>
    let answer := World.handler around call moment
    (answer.1, ⟨answer.2, moment :: course.moments⟩)

/-- Calls that fail say so. -/
def failing : Hitches → Surroundings → Handler requests Course :=
  handlerWith (fun error _ => .error error)

/-- Calls that fail seem to succeed, but find nothing and do nothing. -/
def idle : Hitches → Surroundings → Handler requests Course :=
  handlerWith (fun _ call => .ok call.nothing)

variable (connect : Surroundings → Handler requests Course) (service : Service)

/-- Plays a scene. -/
def enact (scene : Scene) (course : Course) : Option (Except AuthError Answer) × Course :=
  match scene.move with
  | .operation operation =>
    Action.perform (connect scene.around) (operation.action service) course
  | .sweep settings purges =>
    (none, ((Sweep.runOnce settings purges).run (connect scene.around) course).2)
  | .wait duration => (none, { course with world := course.world.later duration })

/-- Plays scenes one after the other, and gives how they ended and the course at the end. -/
def play : List Scene → Course → List (Option (Except AuthError Answer)) × Course
  | [], course => ([], course)
  | scene :: scenes, course =>
    let (outcome, next) := enact connect service scene course
    let (outcomes, last) := play scenes next
    (outcome :: outcomes, last)

end Course

/-! ## What a call changes -/

/-- The directory that a call leaves. -/
def RequestCall.leaves (directory : Directory.Table) : RequestCall → Directory.Table
  | .store (.directory call) => (directory.answer call).2
  | _ => directory

/-- What a request may set while the directory is as it is: the key of a principal to the context
that the directory gives, for the lifetime of a context, and keys that are not a principal's. -/
def RequestCall.MaySet (ttl : Duration) (directory : Directory.Table) : RequestCall → Prop
  | .store (.keyValue (.set key value lifetime)) =>
    ∃ kind id context, directory.context? kind id = some context ∧
      key = ContextCache.keyFor kind id ∧ value = context.write ∧ lifetime = ttl
  | .store (.keyValue (.setIfAbsent key _ _)) => ∀ kind id, key ≠ ContextCache.keyFor kind id
  | _ => True

/-- Two replies are alike if they are the same, or if one is a failure of the shared entries and the
other says that nothing was found and nothing done. -/
def RequestCall.Alike : (call : RequestCall) → call.Reply → call.Reply → Prop
  | .store (.keyValue call), reply, other =>
    reply = other ∨ (∃ error, reply = .error error) ∧ other = .ok call.nothing
  | _, reply, other => reply = other

/-- A reply is like itself. -/
theorem RequestCall.alike_refl (call : RequestCall) (reply : call.Reply) :
    call.Alike reply reply := by
  rcases call with (call | call | call) | call
  · exact .inl rfl
  all_goals exact rfl

namespace Course

/-- The moments of a course are past, and every cached context is one that the directory gave at one
of them. -/
structure Backed (ttl : Duration) (course : Course) : Prop where
  /-- The moments are past. -/
  past : ∀ point ∈ course.moments,
    point.clock.instant.nanos ≤ course.world.clock.instant.nanos
  /-- A cached context was given by the directory at the moment at which its lifetime began. -/
  cached : ∀ entry ∈ course.world.keyValue.entries, ∀ kind id,
    entry.key = ContextCache.keyFor kind id →
      ∃ point ∈ course.moments, ∃ context, point.directory.context? kind id = some context ∧
        entry.value = context.write ∧
          entry.deadline.nanos = point.clock.instant.nanos + ttl.nanos

section

variable {hitches : Hitches} {around : Surroundings} {course : Course} {call : RequestCall}
  {reply : StorageError → (call : KeyValue.Call) → Except StorageError call.Value} {ttl : Duration}

/-- A call fails only if it goes to the shared entries. -/
theorem failure_cases (hitches : Hitches) (call : RequestCall) (course : Course) :
    (∃ error entry, hitches.failure? course.moments.length = some error ∧
        call = .store (.keyValue entry)) ∨
      (hitches.failure? course.moments.length = none ∨
        ∀ entry, call ≠ .store (.keyValue entry)) := by
  rcases hfailure : hitches.failure? course.moments.length with _ | error
  · exact .inr (.inl rfl)
  by_cases hcall : ∃ entry, call = .store (.keyValue entry)
  · obtain ⟨entry, hentry⟩ := hcall
    exact .inl ⟨error, entry, rfl, hentry⟩
  · exact .inr (.inr (fun entry hentry => hcall ⟨entry, hentry⟩))

/-- A call to the shared entries that fails changes nothing but the time. -/
theorem handlerWith_failure {error : StorageError}
    (h : hitches.failure? course.moments.length = some error) (call : KeyValue.Call) :
    handlerWith reply hitches around (.store (.keyValue call)) course =
      (some (reply error call),
        ⟨course.moment hitches, course.moment hitches :: course.moments⟩) := by
  simp only [handlerWith, h]
  rfl

/-- Any other call is answered as the world does. -/
theorem handlerWith_eq
    (h : hitches.failure? course.moments.length = none ∨ ∀ entry, call ≠ .store (.keyValue entry)) :
    handlerWith reply hitches around call course =
      ((World.handler around call (course.moment hitches)).1,
        ⟨(World.handler around call (course.moment hitches)).2,
          course.moment hitches :: course.moments⟩) := by
  rcases call with (call | call | call) | call
  · rcases h with h | h
    · simp only [handlerWith, h]
    · exact absurd rfl (h call)
  all_goals simp only [handlerWith]

/-- A call fails without an effect, or is answered as the world does. -/
theorem failing_cases (hitches : Hitches) (around : Surroundings) (call : RequestCall)
    (course : Course) :
    (∃ entry, call = .store (.keyValue entry) ∧
        (failing hitches around call course).1.isSome ∧
          (failing hitches around call course).2 =
            ⟨course.moment hitches, course.moment hitches :: course.moments⟩) ∨
      failing hitches around call course =
        ((World.handler around call (course.moment hitches)).1,
          ⟨(World.handler around call (course.moment hitches)).2,
            course.moment hitches :: course.moments⟩) := by
  rcases failure_cases hitches call course with ⟨error, entry, herror, rfl⟩ | h
  · rw [failing, handlerWith_failure herror]
    exact .inl ⟨entry, rfl, rfl, rfl⟩
  · exact .inr (handlerWith_eq h)

/-- Failing and finding nothing give replies that are alike, and leave the same. -/
theorem failing_idle (hitches : Hitches) (around : Surroundings) (call : RequestCall)
    (course : Course) :
    ∃ after, (failing hitches around call course = (none, after) ∧
        idle hitches around call course = (none, after)) ∨
      ∃ reply other, failing hitches around call course = (some reply, after) ∧
        idle hitches around call course = (some other, after) ∧ call.Alike reply other := by
  rcases failure_cases hitches call course with ⟨error, entry, herror, rfl⟩ | h
  · exact ⟨_, .inr ⟨_, _, handlerWith_failure herror entry, handlerWith_failure herror entry,
      .inr ⟨⟨error, rfl⟩, rfl⟩⟩⟩
  · rw [failing, idle, handlerWith_eq h, handlerWith_eq h]
    rcases (World.handler around call (course.moment hitches)).1 with _ | reply
    · exact ⟨_, .inl ⟨rfl, rfl⟩⟩
    · exact ⟨_, .inr ⟨reply, reply, rfl, rfl, call.alike_refl reply⟩⟩

/-- A call leaves the directory that it leaves in every world, and the directory answers for itself.
-/
theorem directory_failing (hitches : Hitches) (around : Surroundings) (call : RequestCall)
    (course : Course) :
    (failing hitches around call course).2.world.directory = call.leaves course.world.directory ∧
      ∀ reply ∈ (failing hitches around call course).1,
        Truthful course.world.directory call reply := by
  rcases failing_cases hitches around call course with ⟨entry, rfl, -, h⟩ | h
  · rw [h]
    exact ⟨rfl, fun _ _ => trivial⟩
  rw [h, World.handler_directory]
  rcases call with (call | call | call) | call
  · exact ⟨rfl, fun _ _ => trivial⟩
  · exact ⟨rfl, fun _ _ => trivial⟩
  · refine ⟨rfl, ?_⟩
    rintro _ ⟨⟩
    exact rfl
  · exact ⟨rfl, fun _ _ => trivial⟩

/-- A course stays backed if its entries are old ones or backed by the moment that has been added.
-/
theorem Backed.answered (h : course.Backed ttl) {world : World}
    (hclock : (course.moment hitches).clock.instant.nanos ≤ world.clock.instant.nanos)
    (hentries : ∀ entry ∈ world.keyValue.entries, entry ∈ course.world.keyValue.entries ∨
      ∀ kind id, entry.key = ContextCache.keyFor kind id →
        ∃ context, (course.moment hitches).directory.context? kind id = some context ∧
          entry.value = context.write ∧
            entry.deadline.nanos = (course.moment hitches).clock.instant.nanos + ttl.nanos) :
    Backed ttl ⟨world, course.moment hitches :: course.moments⟩ := by
  refine ⟨?_, ?_⟩
  · have hmoment : course.world.clock.instant.nanos ≤ (course.moment hitches).clock.instant.nanos :=
      Nat.le_add_right _ _
    intro point hpoint
    rcases List.mem_cons.1 hpoint with rfl | hpoint
    · exact hclock
    · exact Nat.le_trans (h.past point hpoint) (Nat.le_trans hmoment hclock)
  · intro entry hmem kind id hkey
    rcases hentries entry hmem with hold | hnew
    · obtain ⟨point, hpoint, hbacked⟩ := h.cached entry hold kind id hkey
      exact ⟨point, List.mem_cons_of_mem _ hpoint, hbacked⟩
    · exact ⟨course.moment hitches, List.mem_cons_self, hnew kind id hkey⟩

/-- Calls that set only what may be set keep a course backed. -/
theorem Backed.step (h : course.Backed ttl) (hitches : Hitches) (around : Surroundings)
    (hcall : call.MaySet ttl course.world.directory) :
    (failing hitches around call course).2.Backed ttl := by
  rcases failing_cases hitches around call course with ⟨entry, rfl, -, heq⟩ | heq
  · rw [heq]
    exact h.answered (Nat.le_refl _) (fun _ hmem => .inl hmem)
  rw [heq]
  refine h.answered (World.clock_handler_le around call _) ?_
  intro entry hmem
  rcases World.mem_entries_handler hmem with hold | ⟨setting, rfl, hset⟩
  · exact .inl hold
  cases setting with
  | set key value lifetime =>
    -- the lifetime of the entry begins at the moment of the call
    rw [World.handler_keyValue] at hmem
    rcases hanswer : (course.moment hitches).keyValue.set
        (course.moment hitches).clock.instant key value lifetime with _ | table
    · simp only [KeyValue.Table.answer, hanswer] at hmem
      exact .inl hmem
    · simp only [KeyValue.Table.answer, hanswer] at hmem
      rcases KeyValue.Table.mem_set_until hanswer hmem with hold | ⟨rfl, rfl, hdeadline⟩
      · exact .inl hold
      refine .inr ?_
      intro kind id hkey
      obtain ⟨kept, keptId, context, hcontext, hkept, hvalue, rfl⟩ := hcall
      obtain ⟨rfl, rfl⟩ := ContextCache.keyFor_inj.1 (hkey.symm.trans hkept)
      exact ⟨context, hcontext, hvalue, Instant.nanos_of_plus? hdeadline⟩
  | setIfAbsent key value lifetime =>
    exact .inr (fun kind id hkey => absurd (hset.1.trans hkey) (hcall kind id))
  | get | delete | purge => cases hset

end

end Course

/-! ## Requests that only ask for advice -/

section

variable {α β : Type} {ttl : Duration} {directory : Directory.Table}

/-- The request treats the shared entries as a cache that only advises: it sets only what it may,
and goes on in the same way after replies that are alike. It ends with a value for which `post`
holds, together with the directory that it leaves. -/
def Program.Advised (ttl : Duration) (post : Directory.Table → α → Prop) :
    Request α → Directory.Table → Prop
  | .done value, directory => post directory value
  | .ask call next, directory =>
    RequestCall.MaySet ttl directory call ∧
      (∀ reply other, RequestCall.Alike call reply other → next reply = next other) ∧
        ∀ reply, Truthful directory call reply →
          Program.Advised ttl post (next reply) (RequestCall.leaves directory call)

/-- A request that treats the shared entries as advice runs in the same way whether calls to them
fail or find nothing, and keeps a course backed. -/
theorem Program.Advised.run {post : Directory.Table → α → Prop} {program : Request α}
    {course : Course} (h : program.Advised ttl post course.world.directory)
    (hbacked : course.Backed ttl) (hitches : Hitches) (around : Surroundings) :
    program.run (Course.failing hitches around) course =
        program.run (Course.idle hitches around) course ∧
      (program.run (Course.failing hitches around) course).2.Backed ttl := by
  -- over the calls: only replies that are alike differ, and what follows them does not
  induction program generalizing course with
  | done value => exact ⟨rfl, hbacked⟩
  | ask call next ih =>
    obtain ⟨hset, hnext, hrest⟩ := h
    have hafter := hbacked.step hitches around hset
    obtain ⟨hdirectory, htruthful⟩ := Course.directory_failing hitches around call course
    obtain ⟨after, ⟨hfailing, hidle⟩ | ⟨reply, other, hfailing, hidle, halike⟩⟩ :=
      Course.failing_idle hitches around call course
    · rw [hfailing] at hafter
      simpa only [Program.run, hfailing, hidle, true_and] using hafter
    · rw [hfailing] at hafter hdirectory htruthful
      simp only [Program.run, hfailing, hidle, ← hnext reply other halike]
      exact ih reply (hdirectory ▸ hrest reply (htruthful reply rfl)) hafter

/-- Two requests treat the shared entries as advice one after the other. -/
theorem Program.Advised.bind {post : Directory.Table → α → Prop}
    {post' : Directory.Table → β → Prop} {program : Request α} {next : α → Request β}
    (h : program.Advised ttl post directory)
    (hnext : ∀ after value, post after value → (next value).Advised ttl post' after) :
    Program.Advised ttl post' (program >>= next) directory := by
  change Program.Advised ttl post' (program.bind next) directory
  induction program generalizing directory with
  | done value => exact hnext directory value h
  | ask call rest ih =>
    obtain ⟨hset, halike, hrest⟩ := h
    exact ⟨hset, fun reply other h => congrArg (Program.bind · next) (halike reply other h),
      fun reply hreply => ih reply (hrest reply hreply)⟩

/-- Less may be said of the value and of the directory that is left. -/
theorem Program.Advised.mono {post weaker : Directory.Table → α → Prop} {program : Request α}
    (h : program.Advised ttl post directory)
    (hpost : ∀ after value, post after value → weaker after value) :
    program.Advised ttl weaker directory := by
  induction program generalizing directory with
  | done value => exact hpost directory value h
  | ask call next ih =>
    exact ⟨h.1, h.2.1, fun reply hreply => ih reply (h.2.2 reply hreply)⟩

/-- A request that only looks does not need advice, and leaves the directory as it is. -/
theorem Program.advised_of_within {post : α → Prop} {program : Request α}
    (h : Program.Within (I := requests) (fun call => RequestCall.looks call = true)
      (Truthful directory) post program) :
    program.Advised ttl (fun after value => after = directory ∧ post value) directory := by
  induction program with
  | done value => exact ⟨rfl, h⟩
  | ask call next ih =>
    obtain ⟨hlooks, hrest⟩ := h
    rcases call with (call | call | call) | call
    · cases hlooks
    · exact ⟨trivial, fun _ _ => congrArg next, fun reply hreply => ih reply (hrest reply hreply)⟩
    · have hleaves : RequestCall.leaves directory (.store (.directory call)) = directory := by
        cases call <;> first | rfl | cases hlooks
      refine ⟨trivial, fun _ _ => congrArg next, fun reply hreply => ?_⟩
      rw [hleaves]
      exact ih reply (hrest reply hreply)
    · exact ⟨trivial, fun _ _ => congrArg next, fun reply hreply => ih reply (hrest reply hreply)⟩

/-- A call past the shared entries does not need advice. -/
theorem Program.advised_call {call : RequestCall} {post : Directory.Table → call.Reply → Prop}
    (hcall : ∀ entry, call ≠ .store (.keyValue entry))
    (hpost : ∀ reply, Truthful directory call reply → post (call.leaves directory) reply) :
    Program.Advised ttl post (Program.call (I := requests) call) directory := by
  rcases call with (call | call | call) | call
  · exact absurd rfl (hcall call)
  all_goals exact ⟨trivial, fun _ _ h => h ▸ rfl, hpost⟩

/-- A call to the shared entries treats them as advice if it sets only what it may, and a failure is
followed by what follows finding nothing. -/
theorem Program.advised_keyValue {post : Directory.Table → α → Prop} {call : KeyValue.Call}
    {next : Except StorageError call.Value → Request α}
    (hcall : RequestCall.MaySet ttl directory (.store (.keyValue call)))
    (hnext : ∀ error, next (.error error) = next (.ok call.nothing))
    (hrest : ∀ reply, (next reply).Advised ttl post directory) :
    Program.Advised ttl post (Request.keyValue call >>= next) directory := by
  refine ⟨hcall, ?_, fun reply _ => hrest reply⟩
  rintro reply other (rfl | ⟨⟨error, rfl⟩, rfl⟩)
  · rfl
  · exact hnext error

namespace Action

/-- The action treats the shared entries as advice, and succeeds only with values for which `post`
holds, together with the directory that it leaves. -/
def Advised (ttl : Duration) (post : Directory.Table → α → Prop) (action : Action α)
    (directory : Directory.Table) : Prop :=
  Program.Advised ttl (fun after outcome => ∀ value, outcome = .ok value → post after value)
    action.request directory

variable {post : Directory.Table → α → Prop} {post' : Directory.Table → β → Prop}

/-- An action that is done needs no advice. -/
theorem advised_pure {value : α} (h : post directory value) :
    Advised ttl post (pure value : Action α) directory := by
  rintro _ ⟨⟩
  exact h

/-- A failure needs no advice. -/
theorem advised_throw (error : AuthError) :
    Advised ttl post (throw error : Action α) directory := by
  rintro _ ⟨⟩

/-- Two actions treat the shared entries as advice one after the other. -/
theorem Advised.bind {action : Action α} {next : α → Action β}
    (h : Advised ttl post action directory)
    (hnext : ∀ after value, post after value → Advised ttl post' (next value) after) :
    Advised ttl post' (action >>= next) directory := by
  refine Program.Advised.bind h ?_
  rintro after (error | value) hvalue
  · exact advised_throw error
  · exact hnext after value (hvalue value rfl)

/-- Changing the value of an action needs no advice. -/
theorem Advised.map {action : Action α} {change : α → β} (h : Advised ttl post action directory)
    (hpost : ∀ after value, post after value → post' after (change value)) :
    Advised ttl post' (change <$> action) directory := by
  rw [map_eq_pure_bind]
  exact h.bind (fun after value hvalue => advised_pure (hpost after value hvalue))

/-- A request with an outcome treats the shared entries as advice as an action does. -/
theorem advised_ofRequest {ε : Type} {failure : ε → AuthError} {request : Request (Except ε α)}
    (h : Program.Advised ttl (fun after outcome => ∀ value, outcome = .ok value → post after value)
      request directory) :
    Advised ttl post (ofRequest failure request) directory := by
  refine Program.Advised.bind h ?_
  rintro after (error | value) hvalue
  · exact advised_throw (failure error)
  · exact advised_pure (hvalue value rfl)

/-- A request that cannot fail treats the shared entries as advice as an action does. -/
theorem advised_always {request : Request α} (h : Program.Advised ttl post request directory) :
    Advised ttl post (always request) directory :=
  Program.Advised.bind h (fun _ _ hvalue => advised_pure hvalue)

/-- Changing the failure of an action needs no advice. -/
theorem Advised.mapFailure {action : Action α} {change : AuthError → AuthError}
    (h : Advised ttl post action directory) :
    Advised ttl post (action.mapFailure change) directory :=
  advised_ofRequest h

/-- A check needs no advice. -/
theorem advised_check {condition : Prop} [Decidable condition] {error : AuthError}
    {next : Unit → Action α} (h : Advised ttl post (next ()) directory) :
    Advised ttl post (if condition then throw error >>= next else next ()) directory := by
  split
  · exact advised_throw error
  · exact h

/-- An action that only looks needs no advice, and leaves the directory as it is. -/
theorem advised_of_within {post : α → Prop} {action : Action α}
    (h : Within (fun call => call.looks = true) (Truthful directory) post action) :
    Advised ttl (fun after value => after = directory ∧ post value) action directory :=
  (Program.advised_of_within h).mono (fun _ _ ⟨hafter, hvalue⟩ value heq =>
    ⟨hafter, hvalue value heq⟩)

/-- A call to the sessions needs no advice, and leaves the directory as it is. -/
theorem advised_session (call : Session.Call) :
    Advised ttl (fun after _ => after = directory) (session call) directory :=
  advised_ofRequest (Program.advised_call (by rintro _ ⟨⟩) (fun _ _ _ _ => rfl))

/-- A call to the outside needs no advice, and leaves the directory as it is. -/
theorem advised_outside (call : OutsideCall) :
    Advised ttl (fun after _ => after = directory) (outside call) directory :=
  advised_always (Program.advised_call (by rintro _ ⟨⟩) (fun _ _ => rfl))

end Action

/-- The action treats the shared entries as advice, whatever the directory is. -/
def Careful (ttl : Duration) (action : Action α) : Prop :=
  ∀ directory, action.Advised ttl (fun _ _ => True) directory

/-- Two actions are careful one after the other. -/
theorem Careful.bind {action : Action α} {next : α → Action β} (h : Careful ttl action)
    (hnext : ∀ value, Careful ttl (next value)) : Careful ttl (action >>= next) :=
  fun directory => (h directory).bind (fun after value _ => hnext value after)

/-- Changing the value of an action keeps it careful. -/
theorem Careful.map {action : Action α} (h : Careful ttl action) (change : α → β) :
    Careful ttl (change <$> action) :=
  fun directory => (h directory).map (fun _ _ _ => trivial)

/-- A check is careful if what follows it is. -/
theorem careful_check {condition : Prop} [Decidable condition] {error : AuthError}
    {next : Unit → Action α} (h : Careful ttl (next ())) :
    Careful ttl (if condition then throw error >>= next else next ()) :=
  fun directory => Action.advised_check (h directory)

/-- An action that only looks is careful. -/
theorem careful_of_within {action : Action α} {post : Directory.Table → α → Prop}
    (h : ∀ directory, Action.Within (fun call => call.looks = true) (Truthful directory)
      (post directory) action) : Careful ttl action :=
  fun directory => Program.Advised.mono (Action.advised_of_within (h directory))
    (fun _ _ _ _ _ => trivial)

/-- A request with an outcome is careful if it treats the shared entries as advice. -/
theorem careful_ofRequest {ε : Type} {failure : ε → AuthError} {request : Request (Except ε α)}
    (h : ∀ directory, Program.Advised ttl (fun _ _ => True) request directory) :
    Careful ttl (Action.ofRequest failure request) :=
  fun directory => Action.advised_ofRequest ((h directory).mono (fun _ _ _ _ _ => trivial))

/-- A call to the sessions is careful, however its failure is told. -/
theorem careful_session {failure : StorageError → AuthError} (call : Session.Call) :
    Careful ttl (Action.ofRequest failure (Request.session call)) :=
  careful_ofRequest fun _ => Program.advised_call (by rintro _ ⟨⟩) (fun _ _ => trivial)

/-- A call to the directory is careful, however its failure is told. -/
theorem careful_directory {failure : StorageError → AuthError} (call : Directory.Call) :
    Careful ttl (Action.ofRequest failure (Request.directory call)) :=
  careful_ofRequest fun _ => Program.advised_call (by rintro _ ⟨⟩) (fun _ _ => trivial)

/-- A call to the outside is careful. -/
theorem careful_outside (call : OutsideCall) : Careful ttl (Action.outside call) :=
  fun _ => Action.advised_always (Program.advised_call (by rintro _ ⟨⟩) (fun _ _ => trivial))

/-- A value that is required is there or not, whatever the shared entries say. -/
theorem careful_require (error : AuthError) (found : Option α) :
    Careful ttl (Action.require error found) :=
  careful_of_within (fun _ => Action.within_require (fun _ h => h))

end

/-! ## What operations are made of -/

section

variable {directory : Directory.Table} {service : Service} {ttl : Duration}

namespace ContextCache

/-- Reading the cache treats it as advice, and leaves the directory as it is. -/
theorem advised_get (kind : PrincipalKind) (id : PrincipalId) :
    Program.Advised ttl (fun after _ => after = directory) (get kind id) directory := by
  refine Program.advised_keyValue trivial (fun _ => rfl) ?_
  rintro (error | _ | value)
  · exact rfl
  · exact rfl
  · dsimp only
    split
    · exact rfl
    -- whether the entry is dropped is not looked at
    · exact ⟨trivial, fun _ _ _ => rfl, fun _ _ => rfl⟩

/-- Caching a context that the directory gives treats the cache as advice. -/
theorem advised_prime {kind : PrincipalKind} {id : PrincipalId} {context : Context}
    (h : directory.context? kind id = some context) :
    Program.Advised ttl (fun _ _ => True) (prime ttl context) directory := by
  obtain ⟨hkind, hid⟩ := Context.isFor_iff.1 (Directory.Table.isFor_of_context? h)
  refine ⟨⟨kind, id, context, h, ?_, rfl, rfl⟩, fun _ _ _ => rfl, fun _ _ => trivial⟩
  rw [hkind, hid]

/-- Loading a context needs no advice, and gives what the directory gives. -/
theorem advised_load (kind : PrincipalKind) (id : PrincipalId) :
    Action.Advised ttl
      (fun after context => after = directory ∧ directory.context? kind id = some context)
      (load kind id) directory :=
  Action.advised_of_within
    ((load_within (fun _ h => h) kind id).mono (fun _ hloaded => loaded_iff.1 hloaded))

/-- Resolving a context is careful. -/
theorem careful_resolve (kind : PrincipalKind) (id : PrincipalId) :
    Careful ttl (resolve ttl kind id) := by
  intro directory
  refine Action.Advised.bind (Action.advised_always (advised_get kind id)) ?_
  rintro _ (_ | context) rfl
  · refine Action.Advised.bind (advised_load kind id) ?_
    rintro _ context ⟨rfl, hcontext⟩
    refine Action.Advised.bind (Action.advised_always (advised_prime hcontext)) ?_
    exact fun _ _ _ => Action.advised_pure trivial
  · exact Action.advised_pure trivial

end ContextCache

namespace Service

/-- Dropping a context is careful. -/
theorem careful_forget (kind : PrincipalKind) (id : PrincipalId) :
    Careful ttl (forget kind id) :=
  fun _ => Action.advised_always ⟨trivial, fun _ _ _ => rfl, fun _ _ => trivial⟩

/-- A write to the directory and the dropping of a context are careful. -/
theorem careful_write_forget (call : Directory.Call) (target : PrincipalId) :
    Careful ttl (do discard (Action.directory call); forget .staff target) :=
  Careful.bind (Careful.map (careful_directory call) _) (fun _ => careful_forget .staff target)

/-- Opening a session for a context that the directory gives treats the cache as advice. -/
theorem advised_openSession {kind : PrincipalKind} {id : PrincipalId} {context : Context}
    (h : directory.context? kind id = some context) (client : ClientInfo) :
    Action.Advised service.contextTtl (fun _ _ => True) (service.openSession context client)
      directory := by
  have hcreate (directory : Directory.Table) (new : Session.New) :
      Action.Advised service.contextTtl (fun after _ => after = directory)
        (discard (Action.session (.create new))) directory :=
    (Action.advised_session _).map (fun _ _ hafter => hafter)
  refine Action.Advised.bind
    (Action.advised_of_within (issue_within (fun _ hlooks => hlooks) context)) ?_
  rintro _ access ⟨rfl, -⟩
  refine Action.Advised.bind (Action.advised_outside .refreshEntropy) ?_
  rintro _ entropy rfl
  refine Action.Advised.bind (hcreate _ _) ?_
  rintro _ _ rfl
  refine Action.Advised.bind (Action.advised_always (ContextCache.advised_prime h)) ?_
  exact fun _ _ _ => Action.advised_pure trivial

/-- Signing in a member of staff is careful. -/
theorem careful_signInStaff (username password : String) (client : ClientInfo) :
    Careful service.contextTtl (service.signInStaff username password client) := by
  refine Careful.bind (careful_directory _) (fun found => ?_)
  refine Careful.bind (careful_require _ _) (fun staff => ?_)
  refine Careful.bind (careful_outside _) (fun fits => ?_)
  refine careful_check ?_
  intro directory
  refine Action.Advised.bind (ContextCache.advised_load .staff staff.id).mapFailure ?_
  rintro _ context ⟨rfl, hcontext⟩
  exact advised_openSession hcontext client

/-- Signing in a customer is careful. -/
theorem careful_signInCustomer (idToken : String) (client : ClientInfo) :
    Careful service.contextTtl (service.signInCustomer idToken client) := by
  rw [signInCustomer]
  refine careful_check ?_
  refine Careful.bind (careful_ofRequest fun _ =>
    Program.advised_call (by rintro _ ⟨⟩) (fun _ _ => trivial)) (fun identity => ?_)
  refine Careful.bind (careful_directory _) (fun customer => ?_)
  intro directory
  refine Action.Advised.bind (ContextCache.advised_load .customer customer.id) ?_
  rintro _ context ⟨rfl, hcontext⟩
  exact advised_openSession hcontext client

/-- Refreshing is careful. -/
theorem careful_refresh (kind : PrincipalKind) (token : String) :
    Careful service.contextTtl (service.refresh kind token) := by
  refine Careful.bind (careful_session _) (fun row => ?_)
  refine Careful.bind
    (fun directory => (ContextCache.careful_resolve kind row.principalId directory).mapFailure) ?_
  intro context
  refine Careful.bind
    (careful_of_within fun _ => issue_within (fun _ hlooks => hlooks) context) (fun access => ?_)
  exact fun _ => Action.advised_pure trivial

/-- Signing out is careful. -/
theorem careful_signOut (kind : PrincipalKind) (token : String) :
    Careful ttl (signOut kind token) := by
  refine Careful.bind (careful_session _) ?_
  rintro (_ | owner)
  · exact fun _ => Action.advised_pure trivial
  · exact careful_forget kind owner

/-- Changing a password is careful. -/
theorem careful_changePassword (claims : Token.Claims) (target : PrincipalId)
    (oldPassword : Option String) (newPassword : String) :
    Careful service.contextTtl
      (service.changePassword claims target oldPassword newPassword) := by
  refine Careful.bind (ContextCache.careful_resolve claims.kind claims.subject) (fun caller => ?_)
  refine Careful.bind (careful_of_within fun _ => roleOf_within caller) (fun role => ?_)
  refine Careful.bind (careful_of_within fun _ =>
    requireStaff_within (fun _ hreads => hreads) target) (fun staff => ?_)
  -- both branches of the check on the caller go on with the replacement
  extract_lets replace proceed
  have hproceed : Careful service.contextTtl (proceed ()) := by
    refine careful_check ?_
    refine Careful.bind (careful_ofRequest fun _ =>
      Program.advised_call (by rintro _ ⟨⟩) (fun _ _ => trivial)) (fun hash => ?_)
    exact careful_write_forget _ target
  split
  · refine Careful.bind (careful_require _ _) (fun old => ?_)
    refine Careful.bind (careful_outside _) (fun fits => ?_)
    exact careful_check hproceed
  · exact careful_check hproceed

end Service

/-- Every operation treats the shared entries as a cache that only advises. -/
theorem Operation.careful (service : Service) (operation : Operation) :
    Careful service.contextTtl (operation.action service) := by
  -- four operations begin with the caller's context and do not read the cache again
  have hpermissions (claims : Token.Claims) {next : Context → Action Unit}
      (hnext : ∀ caller, Careful service.contextTtl (next caller)) :
      Careful service.contextTtl (service.permissions claims >>= next) :=
    Careful.bind (ContextCache.careful_resolve claims.kind claims.subject) hnext
  cases operation with
  | signInStaff username password client =>
    exact (Service.careful_signInStaff username password client).map _
  | signInCustomer idToken client => exact (Service.careful_signInCustomer idToken client).map _
  | refresh kind token => exact (Service.careful_refresh kind token).map _
  | signOut kind token => exact (Service.careful_signOut kind token).map _
  | permissions claims => exact (ContextCache.careful_resolve claims.kind claims.subject).map _
  | authorize claims requirement =>
    refine Careful.map (Careful.bind
      (ContextCache.careful_resolve claims.kind claims.subject) (fun context => ?_)) _
    split
    · exact fun _ => Action.advised_pure trivial
    · exact fun _ => Action.advised_throw _
  | changePassword claims target oldPassword newPassword =>
    exact (Service.careful_changePassword claims target oldPassword newPassword).map _
  | changeRole claims target role =>
    refine Careful.map (hpermissions claims (fun caller => ?_)) _
    refine Careful.bind (careful_of_within fun _ =>
      Service.managedTarget_within (fun _ hreads => hreads) caller target) (fun managed => ?_)
    exact careful_check (Service.careful_write_forget _ target)
  | setActive claims target active =>
    refine Careful.map (hpermissions claims (fun caller => ?_)) _
    refine Careful.bind (Careful.map (careful_of_within fun _ =>
      Service.managedTarget_within (fun _ hreads => hreads) caller target) _) (fun _ => ?_)
    exact Service.careful_write_forget _ target
  | grantStores claims target stores =>
    refine Careful.map (hpermissions claims (fun caller => ?_)) _
    refine Careful.bind (careful_of_within fun _ =>
      Service.checkBatch_within (fun _ hreads => hreads) caller target stores) (fun _ => ?_)
    exact Careful.bind (careful_directory _) (fun _ => Service.careful_forget .staff target)
  | revokeStores claims target stores =>
    refine Careful.map (hpermissions claims (fun caller => ?_)) _
    refine Careful.bind (careful_of_within fun _ =>
      Service.checkBatch_within (fun _ hreads => hreads) caller target stores) (fun _ => ?_)
    exact Service.careful_write_forget _ target

/-! ## Sweeps -/

namespace Sweep

variable (settings : SweepSettings)

/-- A call past the shared entries before a request that treats them as advice. -/
theorem advised_ask {α : Type} {call : RequestCall} {next : call.Reply → Request α}
    (hcall : ∀ entry, call ≠ .store (.keyValue entry))
    (hnext : ∀ after reply, (next reply).Advised ttl (fun _ _ => True) after) :
    Program.Advised ttl (fun _ _ => True) (Program.call (I := requests) call >>= next)
      directory := by
  have h : Program.Advised ttl (fun _ _ => True) (Program.call (I := requests) call) directory :=
    Program.advised_call hcall (fun _ _ => trivial)
  exact h.bind (fun after reply _ => hnext after reply)

/-- Deleting batches needs no advice. -/
theorem advised_deleteBatches (kind : PrincipalKind) (limit remaining : Nat) (report : KindReport) :
    Program.Advised ttl (fun _ _ => True) (deleteBatches settings kind limit remaining report)
      directory := by
  -- over the number of batches that may still be deleted
  induction limit generalizing remaining report directory with
  | zero => trivial
  | succ limit ih =>
    refine advised_ask (by rintro _ ⟨⟩) ?_
    rintro after (error | deleted)
    · trivial
    dsimp only
    split
    · trivial
    split
    · trivial
    split
    · exact advised_ask (by rintro _ ⟨⟩) (fun _ _ => ih _ _)
    · exact ih _ _

/-- Sweeping a kind needs no advice. -/
theorem advised_sweepKind (kind : PrincipalKind) :
    Program.Advised ttl (fun _ _ => True) (sweepKind settings kind) directory := by
  refine advised_ask (by rintro _ ⟨⟩) ?_
  rintro after (error | found)
  · trivial
  dsimp only
  split
  · trivial
  · exact advised_deleteBatches settings kind found found _

/-- A sweep treats the shared entries as advice: a lock that cannot be reached counts as held. -/
theorem advised_runOnce (purges : Bool) :
    Program.Advised ttl (fun _ _ => True) (runOnce settings purges) directory := by
  rw [runOnce, Lock.acquire, bind_assoc]
  refine Program.advised_keyValue (Lock.keyFor_ne settings.job) (fun _ => rfl) ?_
  rintro (error | _ | _)
  · trivial
  · trivial
  have hpurge (directory : Directory.Table) :
      Program.Advised ttl (fun _ _ => True) purge directory := by
    refine Program.advised_keyValue trivial (fun _ => rfl) ?_
    rintro (error | count) <;> trivial
  -- whether the lock is released is not looked at
  have hrelease (report : Report) (directory : Directory.Table) :
      Program.Advised ttl (fun _ _ => True)
        (do discard (Lock.release (Lock.keyFor settings.job)); return Outcome.completed report)
        directory :=
    ⟨trivial, fun _ _ _ => rfl, fun _ _ => trivial⟩
  dsimp only
  rw [pure_bind]
  refine Program.Advised.bind (advised_sweepKind settings .staff) (fun after staff _ => ?_)
  refine Program.Advised.bind (advised_sweepKind settings .customer) (fun after customers _ => ?_)
  split
  · exact (hpurge after).bind (fun after count _ => hrelease ⟨[staff, customers], count⟩ after)
  · exact hrelease ⟨[staff, customers], 0⟩ after

end Sweep

end

/-! ## Plays -/

namespace Course

variable {service : Service} {course : Course}

/-- A scene goes in the same way whether calls to the shared entries fail or find nothing, and keeps
a course backed. -/
theorem enact_failing (hbacked : course.Backed service.contextTtl) (hitches : Hitches)
    (scene : Scene) :
    enact (failing hitches) service scene course = enact (idle hitches) service scene course ∧
      (enact (failing hitches) service scene course).2.Backed service.contextTtl := by
  rcases scene with ⟨around, operation | ⟨settings, purges⟩ | duration⟩
  · exact Program.Advised.run (operation.careful service _) hbacked hitches around
  · obtain ⟨hsame, hafter⟩ :=
      Program.Advised.run (Sweep.advised_runOnce settings purges) hbacked hitches around
    exact ⟨congrArg (fun run => (none, run.2)) hsame, hafter⟩
  -- time that passes changes no entry
  · have hpast (point : World) (hpoint : point ∈ course.moments) :
        point.clock.instant.nanos ≤ (course.world.later duration).clock.instant.nanos :=
      Nat.le_trans (hbacked.past point hpoint) (Nat.le_add_right _ _)
    exact ⟨rfl, hpast, hbacked.cached⟩

/-- A play goes in the same way whether calls to the shared entries fail or find nothing, and keeps
a course backed. -/
theorem play_failing (hbacked : course.Backed service.contextTtl) (hitches : Hitches)
    (scenes : List Scene) :
    play (failing hitches) service scenes course = play (idle hitches) service scenes course ∧
      (play (failing hitches) service scenes course).2.Backed service.contextTtl := by
  -- over the scenes, from the first: each leaves what the next one needs
  induction scenes generalizing course with
  | nil => exact ⟨rfl, hbacked⟩
  | cons scene scenes ih =>
    obtain ⟨hsame, hafter⟩ := enact_failing hbacked hitches scene
    obtain ⟨hrest, hlast⟩ := ih hafter
    refine ⟨?_, hlast⟩
    simp only [play, ← hsame, hrest]

/-- At a fresh start nothing is cached. -/
theorem backed_fresh (ttl : Duration) (clock : Clock) (directory : Directory.Table) :
    (fresh clock directory).Backed ttl := by
  refine ⟨?_, ?_⟩
  · rintro point ⟨⟩
  · rintro entry ⟨⟩

end Course

end Gatehouse
