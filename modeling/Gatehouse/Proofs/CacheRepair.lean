import Gatehouse.Proofs.Execution

/-!
# A cache that mends itself

What reading and resolving contexts does on whatever bytes lie under a principal's key, and in
whatever way calls to the directory fail. Bytes that are not a context of the principal are dropped
by whoever reads them, and the context that the directory gives takes their place; no other key is
touched on the way (`World.SameBut`). A context that takes their place is read back until its
lifetime ends, whatever becomes of all else (`World.Remembers`). Main statement: `cache_mended`.
-/

namespace Gatehouse

/-- Answers every call as usual, but a call to the directory may fail; then it does nothing. -/
def World.failing (failure? : Directory.Call → Option StorageError) (around : Surroundings) :
    Handler requests World := fun call world =>
  match call with
  | .store (.directory call) =>
    match failure? call with
    | some error => (some (.error error), world)
    | none => handler around (.store (.directory call)) world
  | call => handler around call world

/-- The calls that are not for the directory. -/
def RequestCall.AsksElsewhere (call : RequestCall) : Prop :=
  ∀ asked, call ≠ .store (.directory asked)

/-- Two worlds are the same but for the entry of one key. -/
structure World.SameBut (key : String) (before after : World) : Prop where
  /-- Nothing but the shared entries differs. -/
  rest : after = { before with keyValue := after.keyValue }
  /-- Every other key has the entry that it had. -/
  others : ∀ other, other ≠ key → after.keyValue.lookup? other = before.keyValue.lookup? other

/-- The context of a principal is read back until a lifetime has passed, and is not there from then
on, whatever becomes of the world, as long as the entry of the principal's key is left alone. -/
def World.Remembers (world : World) (kind : PrincipalKind) (id : PrincipalId) (context : Context)
    (ttl : Duration) : Prop :=
  ∀ failure? around (later : World) (elapsed : Duration),
    later.clock = world.clock.advance elapsed →
    later.keyValue.lookup? (ContextCache.keyFor kind id) =
      world.keyValue.lookup? (ContextCache.keyFor kind id) →
    (ContextCache.get kind id).run (failing failure? around) later =
      (some (if elapsed.nanos < ttl.nanos then some context else none), later)

/-- What reading the cache finds under a principal's key, and how it leaves the world. -/
structure ContextCache.Reads (kind : PrincipalKind) (id : PrincipalId) (before : World)
    (found : Option Context) (after : World) : Prop where
  /-- A context is found exactly if live bytes can be read as it and it is the principal's. -/
  found_iff : ∀ context, found = some context ↔
    ∃ value, before.keyValue.get before.clock.instant (keyFor kind id) = some value ∧
      Context.read.document value = .ok context ∧ context.kind = kind ∧ context.principalId = id
  /-- A context that is found stays, and where nothing is live nothing changes either. -/
  kept : found.isSome ∨ before.keyValue.get before.clock.instant (keyFor kind id) = none →
    after = before
  /-- Any other live bytes are dropped with their key. -/
  dropped : found = none →
    (before.keyValue.get before.clock.instant (keyFor kind id)).isSome →
      after.keyValue.lookup? (keyFor kind id) = none
  /-- The rest of the world stays as it was. -/
  frame : before.SameBut (keyFor kind id) after

/-- What resolving a context gives when the cache has none, by what comes of loading it, and how it
leaves the world. -/
structure ContextCache.Fills (ttl : Duration) (kind : PrincipalKind) (id : PrincipalId)
    (before : World) (loaded : Except AuthError Context)
    (outcome : Option (Except AuthError Context)) (after : World) : Prop where
  /-- Failing to load is failing to resolve, and no live entry is left. -/
  failed : ∀ error, loaded = .error error → outcome = some (.error error) ∧
    after.keyValue.get before.clock.instant (keyFor kind id) = none
  /-- A context that is loaded is given, and remembered for a lifetime. -/
  remembered : ∀ context, loaded = .ok context → before.clock.CanShow ttl →
    outcome = some (.ok context) ∧ after.Remembers kind id context ttl
  /-- Where the clock cannot show the end of the lifetime, resolving breaks off, and no live entry
  is left. -/
  broken : ∀ context, loaded = .ok context → ¬ before.clock.CanShow ttl → outcome = none ∧
    after.keyValue.get before.clock.instant (keyFor kind id) = none

variable {failure? : Directory.Call → Option StorageError} {around : Surroundings} {world : World}
  {kind : PrincipalKind} {id : PrincipalId} {context : Context}

namespace World

/-- Only calls to the directory may fail. -/
theorem failing_of_asksElsewhere {call : RequestCall} (h : call.AsksElsewhere) (world : World) :
    failing failure? around call world = handler around call world := by
  rcases call with (call | call | call) | call
  · rfl
  · rfl
  · exact absurd rfl (h call)
  · rfl

namespace SameBut

variable {key : String} {before middle after : World}

/-- A world is the same as itself. -/
theorem refl (world : World) : world.SameBut key world :=
  ⟨rfl, fun _ _ => rfl⟩

/-- Two changes to the entry of one key are one. -/
theorem trans (h : before.SameBut key middle) (h' : middle.SameBut key after) :
    before.SameBut key after := by
  refine ⟨?_, fun other hother => (h'.others other hother).trans (h.others other hother)⟩
  rw [h'.rest, h.rest]

end SameBut

/-- Dropping a key changes the entry of that key alone. -/
theorem sameBut_erase (world : World) (key : String) :
    world.SameBut key { world with keyValue := world.keyValue.erase key } :=
  ⟨rfl, fun _ hother => KeyValue.Table.lookup?_erase_of_ne hother⟩

/-- Caching a context changes the entry of its principal's key alone. -/
theorem sameBut_caching (world : World) (context : Context) (deadline : Instant) :
    world.SameBut (ContextCache.keyFor context.kind context.principalId)
      (world.caching context deadline) :=
  ⟨rfl, fun _ hother => KeyValue.Table.lookup?_put_of_ne hother⟩

end World

namespace ContextCache

/-- Bytes hold a context of a principal if they can be read as one and it is the principal's. -/
theorem decode?_eq_some_iff {value : Bytes} :
    decode? kind id value = some context ↔ Context.read.document value = .ok context ∧
      context.kind = kind ∧ context.principalId = id := by
  rw [decode?, Option.filter_eq_some_iff, Context.isFor_iff]
  cases Context.read.document value <;> simp [Except.toOption]

/-- The cache is read as usual. -/
theorem run_get_failing (world : World) :
    (get kind id).run (World.failing failure? around) world =
      (get kind id).run (World.handler around) world := by
  -- reading the cache makes no call to the directory
  refine Program.Within.run_congr (get_within ?_ ?_) fun _ world hcall =>
    World.failing_of_asksElsewhere hcall world
  · rintro asked ⟨⟩
  · rintro asked ⟨⟩

/-- A context is cached as usual. -/
theorem run_prime_failing (ttl : Duration) (context : Context) (world : World) :
    (prime ttl context).run (World.failing failure? around) world =
      (prime ttl context).run (World.handler around) world := by
  refine Program.Within.run_congr (prime_within ?_) fun _ world hcall =>
    World.failing_of_asksElsewhere hcall world
  rintro asked ⟨⟩

/-- A call to the directory that fails fails an action. -/
theorem perform_directory_failing (call : Directory.Call) (world : World) :
    Action.perform (World.failing failure? around) (Action.directory call) world =
      match failure? call with
      | some error => (some (.error (.storage error)), world)
      | none => (some ((world.directory.answer call).1.mapError .storage),
          { world with directory := (world.directory.answer call).2 }) := by
  have hrun : (Request.directory call).run (World.failing failure? around) world =
      match failure? call with
      | some error => (some (.error error), world)
      | none => (some (world.directory.answer call).1,
          { world with directory := (world.directory.answer call).2 }) := by
    refine (Program.run_call (World.failing failure? around) _ world).trans ?_
    simp only [World.failing]
    cases failure? call <;> rfl
  rw [Action.directory, Action.perform_ofRequest, hrun]
  cases failure? call <;> rfl

/-- What comes of loading a context when calls to the directory may fail. -/
def loaded (failure? : Directory.Call → Option StorageError) (directory : Directory.Table) :
    PrincipalKind → PrincipalId → Except AuthError Context
  | .staff, id =>
    match failure? (.getStaff id) with
    | some error => .error (.storage error)
    | none =>
      match (directory.staff? id).filter (fun member => member.isActive) with
      | none => .error .principalNotFound
      | some staff =>
        match failure? (.storeList staff.id staff.role) with
        | some error => .error (.storage error)
        | none => .ok ⟨staff.id, .staff, staff.username, some staff.role,
            directory.storeList staff.id staff.role⟩
  | .customer, id =>
    match failure? (.getCustomer id) with
    | some error => .error (.storage error)
    | none => (directory.context? .customer id).elim (.error .principalNotFound) .ok

/-- A context that is loaded is the principal's. -/
theorem isFor_of_loaded {directory : Directory.Table}
    (h : loaded failure? directory kind id = .ok context) : context.isFor kind id = true := by
  cases kind with
  | staff =>
    rw [loaded] at h
    split at h
    · cases h
    · split at h
      · cases h
      · rename_i staff hfound
        split at h <;> cases h
        exact Context.isFor_iff.2
          ⟨rfl, Directory.Table.staff?_id (Option.filter_eq_some_iff.1 hfound).1⟩
  | customer =>
    rw [loaded] at h
    split at h
    · cases h
    · cases hfound : directory.context? .customer id with
      | none =>
        rw [hfound] at h
        cases h
      | some found =>
        rw [hfound] at h
        cases h
        exact Directory.Table.isFor_of_context? hfound

/-- Loading leaves the world as it is. -/
theorem perform_load_failing (world : World) (kind : PrincipalKind) (id : PrincipalId) :
    Action.perform (World.failing failure? around) (load kind id) world =
      (some (loaded failure? world.directory kind id), world) := by
  cases kind with
  | staff =>
    -- what is left to do when the member has been found
    let enter (staff : Directory.Staff) : Action Context := do
      let stores ← Action.directory (.storeList staff.id staff.role)
      return ⟨staff.id, .staff, staff.username, some staff.role, stores⟩
    rw [load, loadStaff, Action.perform_bind, perform_directory_failing, loaded]
    cases failure? (.getStaff id) with
    | some error => rfl
    | none =>
      change Action.perform (World.failing failure? around) (Action.require .principalNotFound
        ((world.directory.staff? id).filter (fun member => member.isActive)) >>= enter) world = _
      cases (world.directory.staff? id).filter (fun member => member.isActive) with
      | none => rfl
      | some staff =>
        change Action.perform (World.failing failure? around) (enter staff) world = _
        simp only [enter, Action.perform_bind, perform_directory_failing]
        cases failure? (.storeList staff.id staff.role) <;> rfl
  | customer =>
    rw [load, loadCustomer, Action.perform_bind, perform_directory_failing, loaded]
    cases failure? (.getCustomer id) with
    | some error => rfl
    | none =>
      dsimp only [Directory.Table.answer, Directory.Table.context?, Except.mapError]
      cases world.directory.customer? id <;> rfl

/-- A context that is not cached is loaded and cached. -/
theorem perform_resolve_failing (ttl : Duration) :
    Action.perform (World.failing failure? around) (resolve ttl kind id) world =
      match (get kind id).run (World.handler around) world with
      | (some (some context), after) => (some (.ok context), after)
      | (some none, after) =>
        match loaded failure? after.directory kind id with
        | .error error => (some (.error error), after)
        | .ok context =>
          match after.clock.instant.plus? ttl with
          | none => (none, after)
          | some deadline => (some (.ok context), after.caching context deadline)
      | (none, after) => (none, after) := by
  rw [resolve, Action.perform_bind, Action.perform_always, run_get_failing]
  rcases (get kind id).run (World.handler around) world with ⟨_ | _ | context, after⟩
  · rfl
  · simp only [Option.map_some, Action.perform_bind, perform_load_failing]
    cases loaded failure? after.directory kind id with
    | error error => rfl
    | ok context =>
      simp only [Action.perform_always, run_prime_failing, run_prime]
      cases after.clock.instant.plus? ttl <;> rfl
  · rfl

/-- Reading the cache finds what it should, and leaves the world as it should. -/
theorem exists_reads (around : Surroundings) (world : World) (kind : PrincipalKind)
    (id : PrincipalId) :
    ∃ found after, (get kind id).run (World.handler around) world = (some found, after) ∧
      Reads kind id world found after := by
  rw [run_get]
  rcases hvalue : world.keyValue.get world.clock.instant (keyFor kind id) with _ | value
  · refine ⟨none, world, rfl, ⟨fun context => ?_, fun _ => rfl, fun _ hlive => ?_, .refl world⟩⟩
    · simp [hvalue]
    · simp [hvalue] at hlive
  · have hfound (context : Context) : decode? kind id value = some context ↔
        ∃ value, world.keyValue.get world.clock.instant (keyFor kind id) = some value ∧
          Context.read.document value = .ok context ∧
            context.kind = kind ∧ context.principalId = id := by
      rw [decode?_eq_some_iff, hvalue]
      simp
    dsimp only
    rcases hdecode : decode? kind id value with _ | context
    -- bytes that are not a context of the principal go with their key
    · refine ⟨none, _, rfl, ⟨hdecode ▸ hfound, ?_, fun _ _ => KeyValue.Table.lookup?_erase_self,
        world.sameBut_erase _⟩⟩
      rintro (⟨⟨⟩⟩ | hnone)
      rw [hvalue] at hnone
      cases hnone
    · exact ⟨some context, world, rfl, ⟨hdecode ▸ hfound, fun _ => rfl, by rintro ⟨⟩,
        .refl world⟩⟩

/-- Where reading finds nothing, it leaves nothing that is live. -/
theorem Reads.get_eq_none {after : World} (h : Reads kind id world none after) :
    after.keyValue.get world.clock.instant (keyFor kind id) = none := by
  by_cases hlive : (world.keyValue.get world.clock.instant (keyFor kind id)).isSome
  · rw [KeyValue.Table.get, h.dropped rfl hlive]
    rfl
  · have hnone := Option.not_isSome_iff_eq_none.1 hlive
    rw [h.kept (.inr hnone), hnone]

end ContextCache

/-- A context that has been cached is remembered. -/
theorem World.remembers_caching (world : World) {ttl : Duration} {deadline : Instant}
    (hdeadline : world.clock.instant.plus? ttl = some deadline) (context : Context) :
    (world.caching context deadline).Remembers context.kind context.principalId context ttl := by
  intro failure? around later elapsed hclock hlookup
  have hlive : later.clock.instant.nanos < deadline.nanos ↔ elapsed.nanos < ttl.nanos := by
    have hnow : later.clock.instant.nanos = world.clock.instant.nanos + elapsed.nanos := by
      rw [hclock]
      rfl
    rw [Instant.nanos_of_plus? hdeadline, hnow]
    omega
  -- the entry that was put decides what is read
  have hvalue : later.keyValue.get later.clock.instant
      (ContextCache.keyFor context.kind context.principalId) =
      if elapsed.nanos < ttl.nanos then some context.write else none := by
    rw [KeyValue.Table.get, hlookup, ← KeyValue.Table.get, World.get_caching]
    simp only [hlive]
  rw [ContextCache.run_get_failing, ContextCache.run_get, hvalue]
  by_cases helapsed : elapsed.nanos < ttl.nanos
  · simp only [helapsed, if_true, ContextCache.decode?_write_self]
  · simp only [helapsed, if_false]

/-- Where reading finds nothing, resolving fills the gap, and touches no other key. -/
theorem ContextCache.exists_fills {read : World}
    (hget : (get kind id).run (World.handler around) world = (some none, read))
    (hreads : Reads kind id world none read) (failure? : Directory.Call → Option StorageError)
    (ttl : Duration) :
    ∃ outcome after, Action.perform (World.failing failure? around) (resolve ttl kind id) world =
        (outcome, after) ∧
      Fills ttl kind id world (loaded failure? world.directory kind id) outcome after ∧
      world.SameBut (keyFor kind id) after := by
  -- what is loaded does not depend on the shared entries, the only part that reading changes
  obtain ⟨keyValue, rfl⟩ : ∃ keyValue, read = { world with keyValue } := ⟨_, hreads.frame.rest⟩
  have hnone := hreads.get_eq_none
  rw [perform_resolve_failing, hget]
  dsimp only
  cases hloaded : loaded failure? world.directory kind id with
  | error error =>
    refine ⟨_, _, rfl, ⟨?_, by rintro _ ⟨⟩, by rintro _ ⟨⟩⟩, hreads.frame⟩
    rintro _ ⟨⟩
    exact ⟨rfl, hnone⟩
  | ok context =>
    -- the context is the principal's own, so it is cached under the principal's key
    obtain ⟨rfl, rfl⟩ := Context.isFor_iff.1 (isFor_of_loaded hloaded)
    cases hdeadline : world.clock.instant.plus? ttl with
    | none =>
      have hshow : ¬ world.clock.CanShow ttl := by simp [Clock.CanShow, hdeadline]
      refine ⟨_, _, rfl, ⟨by rintro _ ⟨⟩, fun _ _ h => absurd h hshow, ?_⟩, hreads.frame⟩
      exact fun _ _ _ => ⟨rfl, hnone⟩
    | some deadline =>
      have hshow : world.clock.CanShow ttl := by simp [Clock.CanShow, hdeadline]
      refine ⟨_, _, rfl, ⟨by rintro _ ⟨⟩, ?_, fun _ _ h => absurd hshow h⟩,
        hreads.frame.trans (World.sameBut_caching _ context deadline)⟩
      rintro _ ⟨⟩ -
      exact ⟨rfl, World.remembers_caching { world with keyValue } hdeadline context⟩

/-- Whatever bytes are stored, and in whatever way calls to the directory fail: reading the cache
finds a context only where live bytes are one and it is the principal's, and drops all other live
bytes with their key. A context that is found is what resolving gives, and nothing changes.
Otherwise resolving gives what loading gives: where loading fails, no live entry is left; where it
gives a context, this is remembered for a lifetime, unless the clock cannot show its end, and then
resolving breaks off. The rest of the world stays as it was, and so does the entry of every other
key. -/
theorem cache_mended (failure? : Directory.Call → Option StorageError) (around : Surroundings)
    (world : World) (ttl : Duration) (kind : PrincipalKind) (id : PrincipalId) :
    ∃ found read loaded outcome after,
      (ContextCache.get kind id).run (World.failing failure? around) world = (some found, read) ∧
      ContextCache.Reads kind id world found read ∧
      Action.perform (World.failing failure? around) (ContextCache.load kind id) world =
        (some loaded, world) ∧
      Action.perform (World.failing failure? around) (ContextCache.resolve ttl kind id) world =
        (outcome, after) ∧
      (∀ context, found = some context → outcome = some (.ok context) ∧ after = world) ∧
      (found = none → ContextCache.Fills ttl kind id world loaded outcome after) ∧
      world.SameBut (ContextCache.keyFor kind id) after := by
  obtain ⟨found, read, hget, hreads⟩ := ContextCache.exists_reads around world kind id
  have hread : (ContextCache.get kind id).run (World.failing failure? around) world =
      (some found, read) := (ContextCache.run_get_failing world).trans hget
  have hload : Action.perform (World.failing failure? around) (ContextCache.load kind id) world =
      _ := ContextCache.perform_load_failing world kind id
  cases found with
  | some context =>
    have hresolve : Action.perform (World.failing failure? around)
        (ContextCache.resolve ttl kind id) world = (some (.ok context), world) := by
      rw [ContextCache.perform_resolve_failing, hget, ← hreads.kept (.inl rfl)]
    refine ⟨_, _, _, _, _, hread, hreads, hload, hresolve, ?_, by rintro ⟨⟩, .refl world⟩
    rintro _ ⟨⟩
    exact ⟨rfl, rfl⟩
  | none =>
    obtain ⟨outcome, after, hresolve, hfills, hframe⟩ :=
      ContextCache.exists_fills hget hreads failure? ttl
    exact ⟨_, _, _, _, _, hread, hreads, hload, hresolve, by rintro _ ⟨⟩, fun _ => hfills, hframe⟩

end Gatehouse
