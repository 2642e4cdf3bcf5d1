import Gatehouse.Proofs.Calls

/-!
# Requests in any interleaving

Any number of requests under way in one world. A step lets one of them make its next call, lets one
begin, drops one, or lets time pass, in any order and any surroundings; every call is one step. Main
statement: what the calls that each operation may make keep, every run keeps, and each request stays
within its bounds (`Traffic.Run.keeps`); so a step changes the stores only by a call that its
operation may make (`Traffic.Step.world_cases`).
-/

namespace Gatehouse

/-- A request under way. -/
structure Strand where
  /-- The operation that is carried out. -/
  operation : Operation
  /-- What is left to do. -/
  rest : Request (Except AuthError Answer)

variable {allowed : Operation → RequestCall → Prop}
  {expected : (call : RequestCall) → call.Reply → Prop}

/-- What is left of a request stays within the bounds of its operation. -/
def Strand.Within (allowed : Operation → RequestCall → Prop)
    (expected : (call : RequestCall) → call.Reply → Prop) (strand : Strand) : Prop :=
  Program.Within (I := requests) (allowed strand.operation) expected (fun _ => True) strand.rest

/-- A world and the requests that are under way in it. -/
structure Traffic where
  /-- The world. -/
  world : World
  /-- The requests. -/
  strands : List Strand

namespace Traffic

variable {service : Service}

/-- A step, with the operation whose request made it, if one did. -/
inductive Step (service : Service) : Traffic → Option Operation → Traffic → Prop where
  /-- A request begins. -/
  | begin (traffic : Traffic) (operation : Operation) :
      Step service traffic none
        { traffic with
          strands := ⟨operation, (operation.action service).request⟩ :: traffic.strands }
  /-- A request makes its next call, and has the reply. -/
  | proceed (around : Surroundings) {world world' : World} {before after : List Strand}
      {strand : Strand} {rest : Request (Except AuthError Answer)}
      (h : strand.rest.step (World.handler around) world = (some rest, world')) :
      Step service ⟨world, before ++ strand :: after⟩ (some strand.operation)
        ⟨world', before ++ { strand with rest } :: after⟩
  /-- A request breaks off at its next call. -/
  | breakOff (around : Surroundings) {world world' : World} {before after : List Strand}
      {strand : Strand} (h : strand.rest.step (World.handler around) world = (none, world')) :
      Step service ⟨world, before ++ strand :: after⟩ (some strand.operation)
        ⟨world', before ++ after⟩
  /-- A request is dropped, done or not. -/
  | drop (world : World) (before after : List Strand) (strand : Strand) :
      Step service ⟨world, before ++ strand :: after⟩ none ⟨world, before ++ after⟩
  /-- Time passes. -/
  | wait (traffic : Traffic) (duration : Duration) :
      Step service traffic none
        { traffic with
          world := { traffic.world with clock := traffic.world.clock.advance duration } }

/-- What can come of a world in which no request is under way. -/
inductive Run (service : Service) (start : World) : Traffic → Prop where
  /-- Nothing has happened. -/
  | start : Run service start ⟨start, []⟩
  /-- One more step. -/
  | next {traffic traffic' : Traffic} {operation : Option Operation}
      (run : Run service start traffic) (step : Step service traffic operation traffic') :
      Run service start traffic'

/-- Every request under way stays within the bounds of its operation. -/
def AllWithin (allowed : Operation → RequestCall → Prop)
    (expected : (call : RequestCall) → call.Reply → Prop) (traffic : Traffic) : Prop :=
  ∀ strand ∈ traffic.strands, Strand.Within allowed expected strand

/-- A step of a request within its bounds makes one call that its operation may make, or none. -/
theorem world_step {around : Surroundings} {strand : Strand} {world world' : World}
    {rest : Option (Request (Except AuthError Answer))}
    (hstrand : strand.Within allowed expected)
    (h : strand.rest.step (World.handler around) world = (rest, world')) :
    world' = world ∨ ∃ call, allowed strand.operation call ∧
      world' = (World.handler around call world).2 := by
  rcases strand with ⟨operation, _ | ⟨call, next⟩⟩
  · cases h
    exact .inl rfl
  · refine .inr ⟨call, hstrand.1, ?_⟩
    rw [Program.step] at h
    rcases hreply : World.handler around call world with ⟨_ | reply, last⟩
    · rw [hreply] at h
      cases h
      rfl
    · rw [hreply] at h
      cases h
      rfl

/-- When all requests stay within their bounds, a step leaves the stores as they are or makes one
call that its operation may make. -/
theorem Step.world_cases {traffic traffic' : Traffic} {operation : Option Operation}
    (step : Step service traffic operation traffic')
    (hwithin : traffic.AllWithin allowed expected) :
    (∃ clock, traffic'.world = { traffic.world with clock }) ∨
      ∃ acting call around, operation = some acting ∧ allowed acting call ∧
        traffic'.world = (World.handler around call traffic.world).2 := by
  cases step with
  | begin _ operation => exact .inl ⟨_, rfl⟩
  | proceed around h =>
    rcases world_step (hwithin _ (by simp)) h with rfl | ⟨call, hallowed, hworld⟩
    · exact .inl ⟨_, rfl⟩
    · exact .inr ⟨_, call, around, rfl, hallowed, hworld⟩
  | breakOff around h =>
    rcases world_step (hwithin _ (by simp)) h with rfl | ⟨call, hallowed, hworld⟩
    · exact .inl ⟨_, rfl⟩
    · exact .inr ⟨_, call, around, rfl, hallowed, hworld⟩
  | drop world before after strand => exact .inl ⟨_, rfl⟩
  | wait _ duration => exact .inl ⟨_, rfl⟩

/-- A request that is alone can be carried out from where it stands to its end. -/
theorem Run.alone {start world : World} {operation : Operation}
    {rest : Request (Except AuthError Answer)}
    (run : Run service start ⟨world, [⟨operation, rest⟩]⟩) (around : Surroundings)
    {outcome : Except AuthError Answer} {last : World}
    (h : rest.run (World.handler around) world = (some outcome, last)) :
    Run service start ⟨last, [⟨operation, .done outcome⟩]⟩ := by
  -- over the calls that are left, each of which is one step of the run
  induction rest generalizing world with
  | done value =>
    cases h
    exact run
  | ask call next ih =>
    rw [Program.run] at h
    rcases hreply : World.handler around call world with ⟨_ | reply, world'⟩
    · rw [hreply] at h
      cases h
    · rw [hreply] at h
      have hstep : (Program.ask call next).step (World.handler around) world =
          (some (next reply), world') := by
        rw [Program.step, hreply]
      have hproceed : Step service ⟨world, [] ++ [⟨operation, .ask call next⟩]⟩ (some operation)
          ⟨world', [] ++ [⟨operation, next reply⟩]⟩ := .proceed around hstep
      exact ih reply (run.next hproceed) h

section Keeps

variable (inv : World → Prop)
  (hoperation : ∀ operation : Operation,
    Action.Within (allowed operation) expected (fun _ => True) (operation.action service))
  (hcall : ∀ operation around call world, inv world → allowed operation call →
    inv (World.handler around call world).2 ∧
      ∀ reply ∈ (World.handler around call world).1, expected call reply)
  (hclock : ∀ world clock, inv world → inv { world with clock })

include hoperation hcall hclock

/-- What the calls that operations may make keep, a step keeps, and all requests stay within their
bounds. -/
theorem Step.keeps {traffic traffic' : Traffic} {operation : Option Operation}
    (step : Step service traffic operation traffic') (hinv : inv traffic.world)
    (hwithin : traffic.AllWithin allowed expected) :
    inv traffic'.world ∧ traffic'.AllWithin allowed expected := by
  cases step with
  | begin _ operation =>
    refine ⟨hinv, ?_⟩
    intro strand hstrand
    rcases List.mem_cons.1 hstrand with rfl | hstrand
    · exact Program.Within.mono (hoperation operation) (fun _ _ => trivial)
    · exact hwithin strand hstrand
  | @proceed around world world' before after strand rest h =>
    -- the reply is one that was expected, so what is left stays within bounds
    have hstrand : strand.Within allowed expected := hwithin strand (by simp)
    obtain ⟨hnext, hrest⟩ := hstrand.step
      (fun call world => hcall strand.operation around call world) hinv
    rw [h] at hnext hrest
    refine ⟨hnext, ?_⟩
    intro other hother
    rcases List.mem_append.1 hother with hbefore | hafter
    · exact hwithin other (List.mem_append_left _ hbefore)
    rcases List.mem_cons.1 hafter with rfl | hafter
    · exact hrest rest rfl
    · exact hwithin other (by simp [hafter])
  | @breakOff around world world' before after strand h =>
    have hstrand : strand.Within allowed expected := hwithin strand (by simp)
    obtain ⟨hnext, -⟩ := hstrand.step
      (fun call world => hcall strand.operation around call world) hinv
    rw [h] at hnext
    refine ⟨hnext, ?_⟩
    intro other hother
    rcases List.mem_append.1 hother with hbefore | hafter
    · exact hwithin other (List.mem_append_left _ hbefore)
    · exact hwithin other (by simp [hafter])
  | drop world before after strand =>
    refine ⟨hinv, ?_⟩
    intro other hother
    rcases List.mem_append.1 hother with hbefore | hafter
    · exact hwithin other (List.mem_append_left _ hbefore)
    · exact hwithin other (by simp [hafter])
  | wait _ duration => exact ⟨hclock _ _ hinv, hwithin⟩

/-- What the calls that operations may make keep, a run keeps, and all requests stay within their
bounds. -/
theorem Run.keeps {start : World} {traffic : Traffic} (run : Run service start traffic)
    (hstart : inv start) : inv traffic.world ∧ traffic.AllWithin allowed expected := by
  induction run with
  -- no request is under way at the start
  | start => exact ⟨hstart, by rintro _ ⟨⟩⟩
  | next run step ih => exact step.keeps inv hoperation hcall hclock ih.1 ih.2

end Keeps

end Traffic

end Gatehouse
