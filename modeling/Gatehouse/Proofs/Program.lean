import Gatehouse.Request

/-!
# How programs and actions run

The laws by which a program is taken apart when it runs, and a way to say what a program does
without running it: which calls it makes and how it ends, as long as the replies are such as were
expected. Main statements: what holds of a program within such bounds holds of every run
(`Within.run`) and of every step (`Within.step`), and bounds are put together as programs are
(`Within.bind`).
-/

namespace Gatehouse

namespace Program

variable {I : Interface} {α β σ : Type}

/-- A program is done with a value if that is its value. -/
theorem value?_eq_some {program : Program I α} {value : α} :
    program.value? = some value ↔ program = done value := by
  constructor
  · intro h
    cases program with
    | done other => exact congrArg done (Option.some.inj h)
    | ask call next => cases h
  · rintro rfl
    rfl

/-- A program that is done runs without a call. -/
@[simp]
theorem run_pure (handler : Handler I σ) (value : α) (state : σ) :
    (pure value : Program I α).run handler state = (some value, state) := rfl

/-- A call runs as the handler answers it. -/
@[simp]
theorem run_call (handler : Handler I σ) (call : I.Call) (state : σ) :
    (Program.call call).run handler state = handler call state := by
  rw [Program.call, run]
  rcases handler call state with ⟨_ | reply, state'⟩ <;> rfl

/-- Two programs run one after the other. -/
theorem run_bind' (handler : Handler I σ) (program : Program I α) (next : α → Program I β)
    (state : σ) :
    (program >>= next).run handler state =
      match program.run handler state with
      | (some value, state) => (next value).run handler state
      | (none, state) => (none, state) :=
  run_bind handler program next state

/-- Running for a changed value is running and changing the value. -/
theorem run_map (handler : Handler I σ) (change : α → β) (program : Program I α) (state : σ) :
    (change <$> program).run handler state =
      ((program.run handler state).1.map change, (program.run handler state).2) := by
  rw [map_eq_pure_bind, run_bind']
  rcases program.run handler state with ⟨_ | value, state'⟩ <;> rfl

/-- A program runs in the same way when its value is not looked at. -/
theorem run_discard (handler : Handler I σ) (program : Program I α) (state : σ) :
    (discard program).run handler state =
      ((program.run handler state).1.map (fun _ => ()), (program.run handler state).2) :=
  run_map handler (fun _ => ()) program state

/-- The program makes only calls that are allowed, and ends only with values for which `post`
holds, as long as every reply is one that is expected. -/
def Within (allowed : I.Call → Prop) (expected : (call : I.Call) → I.Reply call → Prop)
    (post : α → Prop) : Program I α → Prop
  | done value => post value
  | ask call next =>
    allowed call ∧ ∀ reply, expected call reply → (next reply).Within allowed expected post

section Within

variable {allowed : I.Call → Prop} {expected : (call : I.Call) → I.Reply call → Prop}
  {post : α → Prop}

/-- A program that is done stays within bounds if its value is right. -/
theorem within_pure {value : α} (h : post value) :
    (pure value : Program I α).Within allowed expected post := h

/-- A call that is allowed stays within bounds if every expected reply is right. -/
theorem within_call {call : I.Call} {post : I.Reply call → Prop} (hcall : allowed call)
    (hpost : ∀ reply, expected call reply → post reply) :
    (Program.call call).Within allowed expected post :=
  ⟨hcall, hpost⟩

/-- Bounds on two programs are bounds on their sequence. -/
theorem Within.bind {program : Program I α} {next : α → Program I β} {post' : β → Prop}
    (h : program.Within allowed expected post)
    (hnext : ∀ value, post value → (next value).Within allowed expected post') :
    (program >>= next).Within allowed expected post' := by
  change (program.bind next).Within allowed expected post'
  induction program with
  | done value => exact hnext value h
  | ask call rest ih => exact ⟨h.1, fun reply hreply => ih reply (h.2 reply hreply)⟩

/-- Bounds on two programs are bounds on their sequence, also when nothing is said of the first
value. -/
theorem Within.andThen {program : Program I α} {next : α → Program I β} {post' : β → Prop}
    (h : program.Within allowed expected (fun _ => True))
    (hnext : ∀ value, (next value).Within allowed expected post') :
    (program >>= next).Within allowed expected post' :=
  h.bind (fun value _ => hnext value)

/-- Less may be said of the value. -/
theorem Within.mono {program : Program I α} {post' : α → Prop}
    (h : program.Within allowed expected post) (hpost : ∀ value, post value → post' value) :
    program.Within allowed expected post' := by
  induction program with
  | done value => exact hpost value h
  | ask call rest ih => exact ⟨h.1, fun reply hreply => ih reply (h.2 reply hreply)⟩

/-- More may be allowed. -/
theorem Within.allow {program : Program I α} {more : I.Call → Prop}
    (h : program.Within allowed expected post) (hmore : ∀ call, allowed call → more call) :
    program.Within more expected post := by
  induction program with
  | done value => exact h
  | ask call rest ih => exact ⟨hmore call h.1, fun reply hreply => ih reply (h.2 reply hreply)⟩

variable {handler : Handler I σ} {inv : σ → Prop}

/-- What allowed calls keep, a step of a program within bounds keeps, and what is left of the
program is within the same bounds. -/
theorem Within.step {program : Program I α} {state : σ}
    (h : program.Within allowed expected post)
    (hkeep : ∀ call state, inv state → allowed call →
      inv (handler call state).2 ∧ ∀ reply ∈ (handler call state).1, expected call reply)
    (hstate : inv state) :
    inv (program.step handler state).2 ∧
      ∀ rest ∈ (program.step handler state).1, rest.Within allowed expected post := by
  cases program with
  | done value =>
    refine ⟨hstate, ?_⟩
    rintro rest hrest
    cases hrest
    exact h
  | ask call next =>
    obtain ⟨hinv, hexpected⟩ := hkeep call state hstate h.1
    rw [Program.step]
    rcases hreply : handler call state with ⟨_ | reply, state'⟩
    · rw [hreply] at hinv
      refine ⟨hinv, ?_⟩
      rintro rest hrest
      cases hrest
    · rw [hreply] at hinv hexpected
      refine ⟨hinv, ?_⟩
      rintro rest hrest
      cases hrest
      exact h.2 reply (hexpected reply rfl)

/-- What allowed calls keep, a run of a program within bounds keeps, also one that breaks off. -/
theorem Within.run {program : Program I α} {state : σ}
    (h : program.Within allowed expected post)
    (hkeep : ∀ call state, inv state → allowed call →
      inv (handler call state).2 ∧ ∀ reply ∈ (handler call state).1, expected call reply)
    (hstate : inv state) :
    inv (program.run handler state).2 ∧ ∀ value ∈ (program.run handler state).1, post value := by
  -- over the calls: the invariant goes through each reply, and expectations through the rest
  induction program generalizing state with
  | done value =>
    refine ⟨hstate, ?_⟩
    rintro _ ⟨⟩
    exact h
  | ask call next ih =>
    obtain ⟨hinv, hexpected⟩ := hkeep call state hstate h.1
    rw [Program.run]
    rcases hreply : handler call state with ⟨_ | reply, state'⟩
    · rw [hreply] at hinv
      exact ⟨hinv, by rintro _ ⟨⟩⟩
    · rw [hreply] at hinv hexpected
      exact ih reply (h.2 reply (hexpected reply rfl)) hinv

/-- A program within bounds runs in the same way where every allowed call is answered in the same
way. -/
theorem Within.run_congr {other : Handler I σ} {program : Program I α} {state : σ}
    (h : program.Within allowed (fun _ _ => True) post)
    (hsame : ∀ call state, allowed call → other call state = handler call state) :
    program.run other state = program.run handler state := by
  induction program generalizing state with
  | done value => rfl
  | ask call next ih =>
    rw [Program.run, Program.run, hsame call state h.1]
    rcases handler call state with ⟨_ | reply, state'⟩
    · rfl
    · exact ih reply (h.2 reply trivial)

/-- A program within bounds comes to its end if every allowed call has an expected reply. -/
theorem Within.completes {program : Program I α} {state : σ}
    (h : program.Within allowed expected post)
    (hkeep : ∀ call state, inv state → allowed call →
      inv (handler call state).2 ∧ ∃ reply, (handler call state).1 = some reply ∧
        expected call reply)
    (hstate : inv state) :
    ∃ value state', program.run handler state = (some value, state') ∧ inv state' ∧ post value := by
  induction program generalizing state with
  | done value => exact ⟨value, state, rfl, hstate, h⟩
  | ask call next ih =>
    obtain ⟨hinv, reply, hreply, hexpected⟩ := hkeep call state hstate h.1
    rw [Program.run, ← Prod.eta (handler call state), hreply]
    exact ih reply (h.2 reply hexpected) hinv

end Within

end Program

namespace Action

variable {α β σ : Type} (handler : Handler requests σ) (state : σ)

/-- Runs an action to its end. An action without an outcome broke off. -/
def perform (action : Action α) (state : σ) : Option (Except AuthError α) × σ :=
  action.request.run handler state

/-- An action that is done is performed without a call. -/
@[simp]
theorem perform_pure (value : α) :
    perform handler (pure value : Action α) state = (some (.ok value), state) := rfl

/-- Two actions are performed one after the other; the second only if the first succeeds. -/
theorem perform_bind (action : Action α) (next : α → Action β) :
    perform handler (action >>= next) state =
      match perform handler action state with
      | (some (.ok value), state) => perform handler (next value) state
      | (some (.error error), state) => (some (.error error), state)
      | (none, state) => (none, state) := by
  have hbind : perform handler (action >>= next) state =
      (action.request >>= ExceptT.bindCont next : Request (Except AuthError β)).run handler
        state := rfl
  rw [hbind, Program.run_bind', perform]
  rcases action.request.run handler state with ⟨_ | _ | value, state'⟩ <;> rfl

/-- A request that cannot fail is performed as it runs. -/
theorem perform_always (request : Request α) :
    perform handler (always request) state =
      ((request.run handler state).1.map .ok, (request.run handler state).2) := by
  have hrun : perform handler (always request) state =
      (request >>= fun value => pure (.ok value) : Request (Except AuthError α)).run handler
        state := rfl
  rw [hrun, Program.run_bind']
  rcases request.run handler state with ⟨_ | value, state'⟩ <;> rfl

/-- A request with an outcome is performed as it runs, with its failure changed. -/
theorem perform_ofRequest {ε : Type} (failure : ε → AuthError) (request : Request (Except ε α)) :
    perform handler (ofRequest failure request) state =
      ((request.run handler state).1.map (Except.mapError failure),
        (request.run handler state).2) := by
  change (request >>= _ : Request (Except AuthError α)).run handler state = _
  rw [Program.run_bind']
  rcases request.run handler state with ⟨_ | _ | value, state'⟩ <;> rfl

/-- An action is performed in the same way when its failure is changed. -/
theorem perform_mapFailure (change : AuthError → AuthError) (action : Action α) :
    perform handler (action.mapFailure change) state =
      ((perform handler action state).1.map (Except.mapError change),
        (perform handler action state).2) :=
  perform_ofRequest handler state change action.request

/-- Performing for a changed value is performing and changing the value. -/
theorem perform_map (change : α → β) (action : Action α) :
    perform handler (change <$> action) state =
      ((perform handler action state).1.map (Except.map change),
        (perform handler action state).2) := by
  have hmap : change <$> action = action >>= fun value => pure (change value) :=
    map_eq_pure_bind change action
  rw [hmap, perform_bind]
  rcases perform handler action state with ⟨_ | _ | value, state'⟩ <;> rfl

/-- An action is performed in the same way when its value is not looked at. -/
theorem perform_discard (action : Action α) :
    perform handler (discard action) state =
      ((perform handler action state).1.map (Except.map (fun _ => ())),
        (perform handler action state).2) :=
  perform_map handler state (fun _ => ()) action

/-- A check fails on its condition, and goes on without a call otherwise. -/
theorem perform_check {condition : Prop} [Decidable condition] (error : AuthError)
    (next : Unit → Action α) :
    perform handler (if condition then throw error >>= next else next ()) state =
      if condition then (some (.error error), state) else perform handler (next ()) state := by
  split
  · rfl
  · rfl

/-- The action makes only calls that are allowed, and succeeds only with values for which `post`
holds, as long as every reply is one that is expected. -/
def Within (allowed : RequestCall → Prop) (expected : (call : RequestCall) → call.Reply → Prop)
    (post : α → Prop) (action : Action α) : Prop :=
  Program.Within (I := requests) allowed expected
    (fun outcome => ∀ value, outcome = .ok value → post value) action.request

section Within

variable {allowed : RequestCall → Prop} {expected : (call : RequestCall) → call.Reply → Prop}
  {post : α → Prop}

/-- An action that is done stays within bounds if its value is right. -/
theorem within_pure {value : α} (h : post value) :
    Within allowed expected post (pure value : Action α) := by
  rintro _ ⟨⟩
  exact h

/-- A failure stays within all bounds. -/
theorem within_throw (error : AuthError) :
    Within allowed expected post (throw error : Action α) := by
  rintro _ ⟨⟩

/-- Bounds on two actions are bounds on their sequence. -/
theorem Within.bind {action : Action α} {next : α → Action β} {post' : β → Prop}
    (h : Within allowed expected post action)
    (hnext : ∀ value, post value → Within allowed expected post' (next value)) :
    Within allowed expected post' (action >>= next) := by
  -- after a failure nothing more is called
  have hrest (outcome : Except AuthError α) (hvalue : ∀ value, outcome = .ok value → post value) :
      Within allowed expected post' (ExceptT.mk (ExceptT.bindCont next outcome)) := by
    rcases outcome with error | value
    · exact within_throw error
    · exact hnext value (hvalue value rfl)
  exact Program.Within.bind h hrest

/-- Bounds on two actions are bounds on their sequence, also when nothing is said of the first
value. -/
theorem Within.andThen {action : Action α} {next : α → Action β} {post' : β → Prop}
    (h : Within allowed expected (fun _ => True) action)
    (hnext : ∀ value, Within allowed expected post' (next value)) :
    Within allowed expected post' (action >>= next) :=
  h.bind (fun value _ => hnext value)

/-- Less may be said of the value. -/
theorem Within.mono {action : Action α} {post' : α → Prop}
    (h : Within allowed expected post action) (hpost : ∀ value, post value → post' value) :
    Within allowed expected post' action :=
  Program.Within.mono h (fun _ hvalue value heq => hpost value (hvalue value heq))

/-- Bounds on an action are bounds on it when its value is changed. -/
theorem Within.map {action : Action α} {change : α → β} {post' : β → Prop}
    (h : Within allowed expected post action)
    (hpost : ∀ value, post value → post' (change value)) :
    Within allowed expected post' (change <$> action) := by
  rw [map_eq_pure_bind]
  exact h.bind (fun value hvalue => within_pure (hpost value hvalue))

/-- A request with an outcome stays within bounds if the value of every success is right. -/
theorem within_ofRequest {ε : Type} {failure : ε → AuthError} {request : Request (Except ε α)}
    (h : Program.Within (I := requests) allowed expected
      (fun outcome => ∀ value, outcome = .ok value → post value) request) :
    Within allowed expected post (ofRequest failure request) := by
  refine Program.Within.bind h ?_
  rintro (error | value) hvalue
  · exact within_throw (failure error)
  · exact within_pure (hvalue value rfl)

/-- A request that cannot fail stays within bounds as an action does. -/
theorem within_always {request : Request α}
    (h : Program.Within (I := requests) allowed expected post request) :
    Within allowed expected post (always request) :=
  Program.Within.bind h (fun _ hvalue => within_pure hvalue)

/-- Changing the failure of an action keeps it within bounds. -/
theorem Within.mapFailure {action : Action α} {change : AuthError → AuthError}
    (h : Within allowed expected post action) :
    Within allowed expected post (action.mapFailure change) :=
  within_ofRequest h

/-- A value that is required is there if the action goes on. -/
theorem within_require {error : AuthError} {found : Option α}
    (h : ∀ value, found = some value → post value) :
    Within allowed expected post (require error found) := by
  cases found with
  | none => exact within_throw error
  | some value => exact within_pure (h value rfl)

/-- A check that fails on a condition stays within bounds if what follows does so when the condition
does not hold. -/
theorem within_check {condition : Prop} [Decidable condition] {error : AuthError}
    {next : Unit → Action α} (h : ¬ condition → Within allowed expected post (next ())) :
    Within allowed expected post (if condition then throw error >>= next else next ()) := by
  split
  · exact within_throw error
  · rename_i hcondition
    exact h hcondition

/-- A call to the directory stays within bounds if every value expected is right. -/
theorem within_directory {call : Directory.Call} {post : call.Value → Prop}
    (hcall : allowed (.store (.directory call)))
    (hpost : ∀ value, expected (.store (.directory call)) (.ok value) → post value) :
    Within allowed expected post (directory call) := by
  refine within_ofRequest (Program.within_call (I := requests) hcall ?_)
  rintro _ hreply value rfl
  exact hpost value hreply

/-- A call to the sessions stays within bounds if every value expected is right. -/
theorem within_session {call : Session.Call} {post : call.Value → Prop}
    (hcall : allowed (.store (.session call)))
    (hpost : ∀ value, expected (.store (.session call)) (.ok value) → post value) :
    Within allowed expected post (session call) := by
  refine within_ofRequest (Program.within_call (I := requests) hcall ?_)
  rintro _ hreply value rfl
  exact hpost value hreply

/-- A call to the outside stays within bounds if every reply expected is right. -/
theorem within_outside {call : OutsideCall} {post : call.Reply → Prop}
    (hcall : allowed (.outside call))
    (hpost : ∀ reply, expected (.outside call) reply → post reply) :
    Within allowed expected post (outside call) :=
  within_always (Program.within_call (I := requests) hcall hpost)

end Within

/-! ## Outcomes -/

/-- The action makes only calls that are allowed, and ends only in outcomes for which `post` holds,
as long as every reply is one that is expected. -/
def Ends (allowed : RequestCall → Prop) (expected : (call : RequestCall) → call.Reply → Prop)
    (post : Except AuthError α → Prop) (action : Action α) : Prop :=
  Program.Within (I := requests) allowed expected post action.request

section Ends

variable {allowed : RequestCall → Prop} {expected : (call : RequestCall) → call.Reply → Prop}
  {post : Except AuthError α → Prop} {post' : Except AuthError β → Prop}

/-- An action that is done ends in success. -/
theorem ends_pure {value : α} (h : post (.ok value)) :
    Ends allowed expected post (pure value : Action α) := h

/-- A failure ends as it is. -/
theorem ends_throw {error : AuthError} (h : post (.error error)) :
    Ends allowed expected post (throw error : Action α) := h

/-- Two actions end in the failure of the first, or as the second ends after its success. -/
theorem Ends.bind {action : Action α} {next : α → Action β} (h : Ends allowed expected post action)
    (herror : ∀ error, post (.error error) → post' (.error error))
    (hnext : ∀ value, post (.ok value) → Ends allowed expected post' (next value)) :
    Ends allowed expected post' (action >>= next) := by
  have hrest (outcome : Except AuthError α) (hpost : post outcome) :
      Ends allowed expected post' (ExceptT.mk (ExceptT.bindCont next outcome)) := by
    rcases outcome with error | value
    · exact ends_throw (herror error hpost)
    · exact hnext value hpost
  exact Program.Within.bind h hrest

/-- Less may be said of the outcome. -/
theorem Ends.mono {action : Action α} {weaker : Except AuthError α → Prop}
    (h : Ends allowed expected post action) (hpost : ∀ outcome, post outcome → weaker outcome) :
    Ends allowed expected weaker action :=
  Program.Within.mono h hpost

/-- An action whose value is changed ends in the changed outcome. -/
theorem Ends.map {action : Action α} {change : α → β} (h : Ends allowed expected post action)
    (hpost : ∀ outcome, post outcome → post' (outcome.map change)) :
    Ends allowed expected post' (change <$> action) := by
  rw [map_eq_pure_bind]
  exact h.bind (fun error herror => hpost (.error error) herror)
    (fun value hvalue => ends_pure (hpost (.ok value) hvalue))

/-- A request with an outcome ends in it, with its failure changed. -/
theorem ends_ofRequest {ε : Type} {failure : ε → AuthError} {request : Request (Except ε α)}
    (h : Program.Within (I := requests) allowed expected
      (fun outcome => post (outcome.mapError failure)) request) :
    Ends allowed expected post (ofRequest failure request) := by
  refine Program.Within.bind h ?_
  rintro (error | value) hpost
  · exact ends_throw hpost
  · exact ends_pure hpost

/-- A request that cannot fail ends in success. -/
theorem ends_always {request : Request α}
    (h : Program.Within (I := requests) allowed expected (fun value => post (.ok value)) request) :
    Ends allowed expected post (always request) :=
  Program.Within.bind h (fun _ hpost => ends_pure hpost)

/-- An action whose failure is changed ends in the changed outcome. -/
theorem Ends.mapFailure {action : Action α} {change : AuthError → AuthError}
    (h : Ends allowed expected (fun outcome => post (outcome.mapError change)) action) :
    Ends allowed expected post (action.mapFailure change) :=
  ends_ofRequest h

/-- A call to the directory ends as the reply says. -/
theorem ends_directory {call : Directory.Call} {post : Except AuthError call.Value → Prop}
    (hcall : allowed (.store (.directory call)))
    (hpost : ∀ reply, expected (.store (.directory call)) reply →
      post (Except.mapError .storage reply)) :
    Ends allowed expected post (directory call) :=
  ends_ofRequest (Program.within_call (I := requests) hcall hpost)

/-- A check ends in its failure on its condition, and otherwise as what follows ends. -/
theorem ends_check {condition : Prop} [Decidable condition] {error : AuthError}
    {next : Unit → Action α} (herror : condition → post (.error error))
    (hnext : ¬ condition → Ends allowed expected post (next ())) :
    Ends allowed expected post (if condition then throw error >>= next else next ()) := by
  split
  · rename_i hcondition
    exact ends_throw (herror hcondition)
  · rename_i hcondition
    exact hnext hcondition

end Ends

end Action

end Gatehouse
