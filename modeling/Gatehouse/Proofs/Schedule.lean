import Gatehouse.Proofs.Program
import Gatehouse.Proofs.World

/-!
# Requests that take turns

Any number of requests under way in one world, each known by its number. A turn begins a request,
lets one make its next call, or lets time pass; every call is one turn, and is noted in a journal
together with its reply. Main statements: what a request has noted is a path through its program
(`Stage.Sound.run`), the journal is all that has happened to the world but the passing of time
(`Stage.Grows.run`), and what every call keeps that a request may make, going by the replies it had
before, is kept by a whole schedule (`Chronicle.keeps`, `Stage.keeps`).
-/

namespace Gatehouse

/-! ## Paths through a program -/

/-- A call and the reply to it. -/
structure Exchange (I : Interface) where
  /-- The call. -/
  call : I.Call
  /-- The reply. -/
  reply : I.Reply call

namespace Program

variable {I : Interface} {α β : Type}

/-- What is left of a program when it has made some calls and had the replies. -/
inductive Follows : Program I α → List (Exchange I) → Program I α → Prop where
  /-- No call has been made. -/
  | start (program : Program I α) : Follows program [] program
  /-- A call has been made, and the program went on with the reply. -/
  | reply {call : I.Call} {next : I.Reply call → Program I α} {reply : I.Reply call}
      {exchanges : List (Exchange I)} {rest : Program I α}
      (h : Follows (next reply) exchanges rest) :
      Follows (ask call next) (⟨call, reply⟩ :: exchanges) rest

/-- A path goes on where another one has led. -/
theorem Follows.append {program mid rest : Program I α} {first second : List (Exchange I)}
    (h : Follows program first mid) (h' : Follows mid second rest) :
    Follows program (first ++ second) rest := by
  induction h with
  | start program => exact h'
  | reply h ih => exact .reply (ih h')

/-- A path leads somewhere at each of its points. -/
theorem Follows.split {program rest : Program I α} {first second : List (Exchange I)}
    (h : Follows program (first ++ second) rest) :
    ∃ mid, Follows program first mid ∧ Follows mid second rest := by
  induction first generalizing program with
  | nil => exact ⟨program, .start program, h⟩
  | cons exchange first ih =>
    cases h with
    | reply h =>
      obtain ⟨mid, hfirst, hsecond⟩ := ih h
      exact ⟨mid, .reply hfirst, hsecond⟩

/-- A call on a path is the one that is next where the path has led before it. -/
theorem Follows.exists_ask {program rest : Program I α} {before after : List (Exchange I)}
    {exchange : Exchange I} (h : Follows program (before ++ exchange :: after) rest) :
    ∃ next, Follows program before (ask exchange.call next) := by
  obtain ⟨mid, hbefore, hafter⟩ := h.split
  cases hafter with
  | reply => exact ⟨_, hbefore⟩

/-- A path through two programs leads through a part of the first, or through all of it and then
through the second. -/
theorem Follows.bind_cases {program : Program I α} {next : α → Program I β} {rest : Program I β}
    {exchanges : List (Exchange I)} (h : Follows (program >>= next) exchanges rest) :
    ((∃ mid, Follows program exchanges mid) ∧ ∀ value, rest ≠ done value) ∨
      ∃ value first second, exchanges = first ++ second ∧ Follows program first (done value) ∧
        Follows (next value) second rest := by
  induction program generalizing exchanges with
  | done value => exact .inr ⟨value, [], exchanges, rfl, .start _, h⟩
  | ask call later ih =>
    cases h with
    | start => exact .inl ⟨⟨_, .start _⟩, by rintro value ⟨⟩⟩
    | reply h =>
      rcases ih _ h with ⟨⟨mid, hmid⟩, hrest⟩ | ⟨value, first, second, rfl, hfirst, hsecond⟩
      · exact .inl ⟨⟨mid, .reply hmid⟩, hrest⟩
      · exact .inr ⟨value, _ :: first, second, rfl, .reply hfirst, hsecond⟩

/-- A path through two programs leads through the first to its end, and then through the second. -/
theorem Follows.of_bind {program : Program I α} {next : α → Program I β} {value : β}
    {exchanges : List (Exchange I)} (h : Follows (program >>= next) exchanges (done value)) :
    ∃ mid first second, exchanges = first ++ second ∧ Follows program first (done mid) ∧
      Follows (next mid) second (done value) := by
  rcases h.bind_cases with ⟨-, hrest⟩ | hboth
  · exact absurd rfl (hrest value)
  · exact hboth

/-- A path through two programs that may fail ends with the failure of the first, or leads through
the first to its success and then through the second. -/
theorem Follows.of_except_bind {ε : Type} {program : ExceptT ε (Program I) α}
    {next : α → ExceptT ε (Program I) β} {outcome : Except ε β} {exchanges : List (Exchange I)}
    (h : Follows (program >>= next).run exchanges (done outcome)) :
    (∃ error, outcome = .error error ∧ Follows program.run exchanges (done (.error error))) ∨
      ∃ value first second, exchanges = first ++ second ∧
        Follows program.run first (done (.ok value)) ∧
          Follows (next value).run second (done outcome) := by
  have hbind : (program >>= next).run =
      (program.run >>= ExceptT.bindCont next : Program I (Except ε β)) := rfl
  rw [hbind] at h
  obtain ⟨error | value, first, second, rfl, hfirst, hsecond⟩ := h.of_bind
  -- after a failure nothing more is called
  · cases hsecond
    rw [List.append_nil]
    exact .inl ⟨error, rfl, hfirst⟩
  · exact .inr ⟨value, first, second, rfl, hfirst, hsecond⟩

/-- On a path with expected replies, what is left of a program stays within its bounds. -/
theorem Within.follows {allowed : I.Call → Prop} {expected : (call : I.Call) → I.Reply call → Prop}
    {post : α → Prop} {program rest : Program I α} {exchanges : List (Exchange I)}
    (h : program.Within allowed expected post) (hpath : Follows program exchanges rest)
    (hreplies : ∀ exchange ∈ exchanges, expected exchange.call exchange.reply) :
    rest.Within allowed expected post := by
  induction hpath with
  | start program => exact h
  | reply hpath ih =>
    rw [List.forall_mem_cons] at hreplies
    exact ih (h.2 _ hreplies.1) hreplies.2

/-- On a path with expected replies, a program within bounds makes only calls that are allowed. -/
theorem Within.allowed_of_follows {allowed : I.Call → Prop}
    {expected : (call : I.Call) → I.Reply call → Prop} {post : α → Prop}
    {program rest : Program I α} {exchanges : List (Exchange I)}
    (h : program.Within allowed expected post)
    (hpath : Follows program exchanges rest)
    (hreplies : ∀ exchange ∈ exchanges, expected exchange.call exchange.reply) :
    ∀ exchange ∈ exchanges, allowed exchange.call := by
  induction hpath with
  | start program => rintro _ ⟨⟩
  | reply hpath ih =>
    rw [List.forall_mem_cons] at hreplies ⊢
    exact ⟨h.1, ih (h.2 _ hreplies.1) hreplies.2⟩

/-- A program that asks once has made one exchange at its end. -/
theorem Follows.of_call {call : I.Call} {reply : I.Reply call} {exchanges : List (Exchange I)}
    (h : Follows (Program.call call) exchanges (done reply)) : exchanges = [⟨call, reply⟩] := by
  cases h with
  | reply h =>
    cases h
    rfl

/-- A path through a call and a program ends before the call, or goes on with the reply. -/
theorem Follows.call_cases {call : I.Call} {next : I.Reply call → Program I β} {rest : Program I β}
    {exchanges : List (Exchange I)} (h : Follows (Program.call call >>= next) exchanges rest) :
    (exchanges = [] ∧ ∀ value, rest ≠ done value) ∨
      ∃ reply later, exchanges = ⟨call, reply⟩ :: later ∧ Follows (next reply) later rest := by
  cases h with
  | start => exact .inl ⟨rfl, by rintro value ⟨⟩⟩
  | reply h => exact .inr ⟨_, _, rfl, h⟩

/-- A program that is done makes no exchange. -/
theorem Follows.of_done {value : α} {rest : Program I α} {exchanges : List (Exchange I)}
    (h : Follows (done value) exchanges rest) : exchanges = [] ∧ rest = done value := by
  cases h
  exact ⟨rfl, rfl⟩

/-- Answers the calls of a program from a script, each by the number of calls before it, and notes
the exchanges. -/
def scripted (script : Nat → (call : I.Call) → I.Reply call) : Handler I (List (Exchange I)) :=
  fun call past =>
    let reply := script past.length call
    (some reply, past ++ [⟨call, reply⟩])

/-- With a script every program comes to its end, on the path of the exchanges that are noted. -/
theorem run_scripted (script : Nat → (call : I.Call) → I.Reply call) (program : Program I α)
    (past : List (Exchange I)) :
    ∃ value exchanges, program.run (scripted script) past = (some value, past ++ exchanges) ∧
      Follows program exchanges (done value) := by
  induction program generalizing past with
  | done value => exact ⟨value, [], by simp [run], .start _⟩
  | ask call next ih =>
    obtain ⟨value, exchanges, hrun, hpath⟩ := ih (script past.length call)
      (past ++ [⟨call, script past.length call⟩])
    refine ⟨value, ⟨call, script past.length call⟩ :: exchanges, ?_, .reply hpath⟩
    rw [List.append_cons]
    exact hrun

end Program

namespace Action

variable {α β : Type} {exchanges : List (Exchange requests)}

/-- A path through two actions ends with the failure of the first, or leads through the first to its
success and then through the second. -/
theorem follows_bind {action : Action α} {next : α → Action β} {outcome : Except AuthError β}
    (h : Program.Follows (action >>= next).request exchanges (.done outcome)) :
    (∃ error, outcome = .error error ∧
        Program.Follows action.request exchanges (.done (.error error))) ∨
      ∃ value first second, exchanges = first ++ second ∧
        Program.Follows action.request first (.done (.ok value)) ∧
          Program.Follows (next value).request second (.done outcome) :=
  Program.Follows.of_except_bind h

/-- A path through an action whose value is changed is one through the action. -/
theorem follows_map {action : Action α} {change : α → β} {outcome : Except AuthError β}
    (h : Program.Follows (change <$> action).request exchanges (.done outcome)) :
    ∃ old, outcome = old.map change ∧
      Program.Follows action.request exchanges (.done old) := by
  rw [map_eq_pure_bind] at h
  rcases follows_bind h with ⟨error, rfl, hpath⟩ | ⟨value, first, second, rfl, hfirst, hsecond⟩
  · exact ⟨.error error, rfl, hpath⟩
  · obtain ⟨rfl, hdone⟩ := hsecond.of_done
    cases hdone
    exact ⟨.ok value, rfl, (List.append_nil first).symm ▸ hfirst⟩

/-- A path through an action made of a request is one through the request. -/
theorem follows_ofRequest {ε : Type} {failure : ε → AuthError} {request : Request (Except ε α)}
    {outcome : Except AuthError α}
    (h : Program.Follows (ofRequest failure request).request exchanges (.done outcome)) :
    ∃ reply, outcome = reply.mapError failure ∧
      Program.Follows request exchanges (.done reply) := by
  obtain ⟨error | value, first, second, rfl, hfirst, hsecond⟩ := Program.Follows.of_bind h
  all_goals
    cases hsecond
    rw [List.append_nil]
    exact ⟨_, rfl, hfirst⟩

/-- A path through an action that cannot fail is one through its request. -/
theorem follows_always {request : Request α} {outcome : Except AuthError α}
    (h : Program.Follows (always request).request exchanges (.done outcome)) :
    ∃ value, outcome = .ok value ∧ Program.Follows request exchanges (.done value) := by
  obtain ⟨value, first, second, rfl, hfirst, hsecond⟩ := Program.Follows.of_bind h
  cases hsecond
  rw [List.append_nil]
  exact ⟨value, rfl, hfirst⟩

end Action

/-! ## Schedules -/

/-- What a request did: a call, and the reply it had. -/
structure Deed where
  /-- The number of the request. -/
  request : Nat
  /-- The call and the reply. -/
  exchange : Exchange requests

/-- What one request did, in order. -/
def exchangesOf (request : Nat) (journal : List Deed) : List (Exchange requests) :=
  (journal.filter (fun deed => deed.request == request)).map Deed.exchange

/-- A request that was begun. -/
structure Task (J α : Type) where
  /-- The job that is done. -/
  job : J
  /-- What is left to do. -/
  rest : Request α
  /-- Whether the request broke off. -/
  isBroken : Bool := false

/-- A world, the requests that were begun in it, and what they did. The number of a request is its
place among those that were begun. -/
structure Stage (J α : Type) where
  /-- The world. -/
  world : World
  /-- The requests, in the order in which they were begun. -/
  tasks : List (Task J α) := []
  /-- What the requests did, in order. -/
  journal : List Deed := []

/-- What happens next. -/
inductive Turn (J : Type) where
  /-- A request begins. -/
  | begin (job : J)
  /-- A request makes its next call; if it is not under way, nothing happens. -/
  | proceed (request : Nat) (around : Surroundings)
  /-- Time passes. -/
  | wait (duration : Duration)

namespace Stage

variable {J α : Type} (program : J → Request α)

/-- Takes a turn. A call without an answer breaks the request off. -/
def take (turn : Turn J) (stage : Stage J α) : Stage J α :=
  match turn with
  | .begin job => { stage with tasks := stage.tasks ++ [⟨job, program job, false⟩] }
  | .wait duration =>
    { stage with world := { stage.world with clock := stage.world.clock.advance duration } }
  | .proceed request around =>
    match stage.tasks[request]? with
    | none => stage
    | some ⟨_, _, true⟩ => stage
    | some ⟨_, .done _, false⟩ => stage
    | some ⟨job, .ask call next, false⟩ =>
      match World.handler around call stage.world with
      | (some reply, world) =>
        { world
          tasks := stage.tasks.set request ⟨job, next reply, false⟩
          journal := stage.journal ++ [⟨request, call, reply⟩] }
      | (none, world) =>
        { stage with world, tasks := stage.tasks.set request ⟨job, .ask call next, true⟩ }

/-- Takes turns one after the other. -/
def run (turns : List (Turn J)) (stage : Stage J α) : Stage J α :=
  turns.foldl (fun stage turn => stage.take program turn) stage

/-- A stage changes as a turn may change it. -/
inductive Step : Turn J → Stage J α → Stage J α → Prop where
  /-- Nothing happens. -/
  | idle (turn : Turn J) (stage : Stage J α) : Step turn stage stage
  /-- A request begins. -/
  | begin (job : J) (stage : Stage J α) :
      Step (.begin job) stage { stage with tasks := stage.tasks ++ [⟨job, program job, false⟩] }
  /-- Time passes. -/
  | wait (duration : Duration) (stage : Stage J α) :
      Step (.wait duration) stage
        { stage with world := { stage.world with clock := stage.world.clock.advance duration } }
  /-- A request makes a call, and has the reply. -/
  | call {stage : Stage J α} {request : Nat} {job : J} {call : RequestCall}
      {next : call.Reply → Request α} {reply : call.Reply} {world : World} {around : Surroundings}
      (htask : stage.tasks[request]? = some ⟨job, .ask call next, false⟩)
      (hreply : World.handler around call stage.world = (some reply, world)) :
      Step (.proceed request around) stage
        { world
          tasks := stage.tasks.set request ⟨job, next reply, false⟩
          journal := stage.journal ++ [⟨request, call, reply⟩] }
  /-- A request breaks off, and leaves the world as it is. -/
  | breakOff {stage : Stage J α} {request : Nat} {job : J} {call : RequestCall}
      {next : call.Reply → Request α} {around : Surroundings}
      (htask : stage.tasks[request]? = some ⟨job, .ask call next, false⟩)
      (hreply : (World.handler around call stage.world).1 = none) :
      Step (.proceed request around) stage
        { stage with tasks := stage.tasks.set request ⟨job, .ask call next, true⟩ }

variable {program}

/-- Every turn is a step. -/
theorem step_take (turn : Turn J) (stage : Stage J α) :
    Step program turn stage (stage.take program turn) := by
  cases turn with
  | begin job => exact .begin job stage
  | wait duration => exact .wait duration stage
  | proceed request around =>
    rw [take]
    split
    · exact .idle _ stage
    · exact .idle _ stage
    · exact .idle _ stage
    · rename_i job call next htask
      split
      · rename_i reply world hreply
        exact .call htask hreply
      · rename_i world hreply
        obtain rfl := World.eq_of_handler_none hreply
        exact .breakOff htask (congrArg Prod.fst hreply)

/-- What every step keeps is kept by a whole schedule. -/
theorem run_induction {motive : Stage J α → Prop} {turns : List (Turn J)} {stage : Stage J α}
    (hstart : motive stage)
    (hstep : ∀ turn ∈ turns, ∀ before after, Step program turn before after → motive before →
      motive after) :
    motive (stage.run program turns) := by
  induction turns generalizing stage with
  | nil => exact hstart
  | cons turn turns ih =>
    refine ih ?_ (fun turn hturn => hstep turn (List.mem_cons_of_mem _ hturn))
    exact hstep turn List.mem_cons_self _ _ (step_take turn stage) hstart

/-- Two schedules are run one after the other. -/
theorem run_append (first second : List (Turn J)) (stage : Stage J α) :
    stage.run program (first ++ second) = (stage.run program first).run program second :=
  List.foldl_append

/-- Every request was there before a schedule, or was begun in it. -/
theorem mem_tasks_run {turns : List (Turn J)} {stage : Stage J α} {task : Task J α}
    (h : task ∈ (stage.run program turns).tasks) :
    (∃ old ∈ stage.tasks, old.job = task.job) ∨ .begin task.job ∈ turns := by
  have hall : ∀ task ∈ (stage.run program turns).tasks,
      (∃ old ∈ stage.tasks, old.job = task.job) ∨ .begin task.job ∈ turns := by
    refine run_induction (motive := fun stage' => ∀ task ∈ stage'.tasks,
      (∃ old ∈ stage.tasks, old.job = task.job) ∨ .begin task.job ∈ turns) ?_ ?_
    · exact fun task hmem => .inl ⟨task, hmem, rfl⟩
    · intro turn hturn before after step ih task hmem
      cases step with
      | idle => exact ih task hmem
      | begin job =>
        rcases List.mem_append.1 hmem with hold | hnew
        · exact ih task hold
        · obtain rfl := List.mem_singleton.1 hnew
          exact .inr hturn
      | wait => exact ih task hmem
      | call htask hreply =>
        have hjob := ih _ (List.mem_of_getElem? htask)
        rcases List.mem_or_eq_of_mem_set hmem with hold | rfl
        · exact ih task hold
        · exact hjob
      | breakOff htask hreply =>
        have hjob := ih _ (List.mem_of_getElem? htask)
        rcases List.mem_or_eq_of_mem_set hmem with hold | rfl
        · exact ih task hold
        · exact hjob
  exact hall task h

end Stage

/-! ## Numbered lists -/

section Numbered

variable {α : Type} {list : List α} {new found : α} {number place : Nat}

/-- What is found in a list to which something was added is that, or was there before. -/
theorem getElem?_concat_cases (h : (list ++ [new])[place]? = some found) :
    list[place]? = some found ∨ (list.length ≤ place ∧ found = new) := by
  rcases Nat.lt_or_ge place list.length with hold | hnew
  · rw [List.getElem?_append_left hold] at h
    exact .inl h
  · rw [List.getElem?_append_right hnew] at h
    exact .inr ⟨hnew, List.mem_singleton.1 (List.mem_of_getElem? h)⟩

/-- What is found in a list at one place of which something was put is that, or was there before. -/
theorem getElem?_set_cases (h : (list.set number new)[place]? = some found) :
    (number = place ∧ found = new) ∨ (number ≠ place ∧ list[place]? = some found) := by
  by_cases hown : number = place
  · subst hown
    have hlt := (List.getElem?_eq_some_iff.1 h).1
    rw [List.length_set] at hlt
    rw [List.getElem?_set_self hlt] at h
    exact .inl ⟨rfl, (Option.some.inj h).symm⟩
  · rw [List.getElem?_set_ne hown] at h
    exact .inr ⟨hown, h⟩

end Numbered

/-- A list is cut at its first element of a kind in one way only. -/
theorem cut_unique {α : Type} {kind : α → Bool} {before before' after after' : List α}
    {cut cut' : α}
    (h : before ++ cut :: after = before' ++ cut' :: after')
    (hbefore : ∀ found ∈ before, kind found = false)
    (hbefore' : ∀ found ∈ before', kind found = false) (hcut : kind cut = true)
    (hcut' : kind cut' = true) : before = before' ∧ cut = cut' ∧ after = after' := by
  induction before generalizing before' with
  | nil =>
    cases before' with
    | nil => exact ⟨rfl, List.cons.inj h⟩
    | cons other before' =>
      obtain ⟨rfl, -⟩ := List.cons.inj h
      rw [hbefore' cut List.mem_cons_self] at hcut
      cases hcut
  | cons other before ih =>
    cases before' with
    | nil =>
      obtain ⟨rfl, -⟩ := List.cons.inj h
      rw [hbefore other List.mem_cons_self] at hcut'
      cases hcut'
    | cons other' before' =>
      obtain ⟨rfl, hrest⟩ := List.cons.inj h
      obtain ⟨rfl, hsame⟩ := ih hrest (List.forall_mem_cons.1 hbefore).2
        (List.forall_mem_cons.1 hbefore').2
      exact ⟨rfl, hsame⟩

/-- A list has no element of a kind, or can be cut at the first one. -/
theorem cut_cases {α : Type} (kind : α → Bool) (list : List α) :
    (∀ found ∈ list, kind found = false) ∨ ∃ before cut after, list = before ++ cut :: after ∧
      (∀ found ∈ before, kind found = false) ∧ kind cut = true := by
  rcases hfirst : list.find? kind with _ | cut
  · exact .inl (fun found hmem => by simpa using List.find?_eq_none.1 hfirst found hmem)
  · obtain ⟨hcut, before, after, rfl, hbefore⟩ := List.find?_eq_some_iff_append.1 hfirst
    exact .inr ⟨before, cut, after, rfl, fun found hmem => by simpa using hbefore found hmem, hcut⟩

/-! ## What requests have done -/

section Exchanges

variable {request : Nat}

/-- Where nothing was done, no request did anything. -/
theorem exchangesOf_nil : exchangesOf request [] = [] := rfl

/-- What one request did in two stretches of time. -/
theorem exchangesOf_append (first second : List Deed) :
    exchangesOf request (first ++ second) =
      exchangesOf request first ++ exchangesOf request second := by
  rw [exchangesOf, List.filter_append, List.map_append, exchangesOf, exchangesOf]

/-- A deed of a request is the first of its own, and then come the others. -/
theorem exchangesOf_cons_self (deed : Deed) (journal : List Deed) :
    exchangesOf deed.request (deed :: journal) =
      deed.exchange :: exchangesOf deed.request journal := by
  rw [exchangesOf, List.filter_cons_of_pos (by simp), List.map_cons, exchangesOf]

/-- A deed of another request is none of one's own. -/
theorem exchangesOf_cons_of_ne {deed : Deed} (h : deed.request ≠ request) (journal : List Deed) :
    exchangesOf request (deed :: journal) = exchangesOf request journal := by
  rw [exchangesOf, List.filter_cons_of_neg (by simpa using h), exchangesOf]

/-- An exchange of a request stands at a place of the journal. -/
theorem exists_of_exchangesOf {journal : List Deed} {before after : List (Exchange requests)}
    {exchange : Exchange requests}
    (h : exchangesOf request journal = before ++ exchange :: after) :
    ∃ first second, journal = first ++ ⟨request, exchange⟩ :: second ∧
      exchangesOf request first = before ∧ exchangesOf request second = after := by
  induction journal generalizing before with
  | nil =>
    rw [exchangesOf_nil] at h
    exact absurd h.symm (by simp)
  | cons deed journal ih =>
    by_cases hown : deed.request = request
    · subst hown
      rw [exchangesOf_cons_self] at h
      cases before with
      | nil =>
        cases h
        exact ⟨[], journal, rfl, rfl, rfl⟩
      | cons other before =>
        obtain ⟨rfl, hrest⟩ := List.cons.inj h
        obtain ⟨first, second, rfl, hfirst, hsecond⟩ := ih hrest
        refine ⟨deed :: first, second, rfl, ?_, hsecond⟩
        rw [exchangesOf_cons_self, hfirst]
    -- what others did makes no difference
    · rw [exchangesOf_cons_of_ne hown] at h
      obtain ⟨first, second, rfl, hfirst, hsecond⟩ := ih h
      refine ⟨deed :: first, second, rfl, ?_, hsecond⟩
      rw [exchangesOf_cons_of_ne hown, hfirst]

/-- A request did what stands in the journal under its number. -/
theorem mem_exchangesOf {journal : List Deed} {exchange : Exchange requests} :
    exchange ∈ exchangesOf request journal ↔ ⟨request, exchange⟩ ∈ journal := by
  simp only [exchangesOf, List.mem_map, List.mem_filter, beq_iff_eq]
  constructor
  · rintro ⟨deed, ⟨hmem, rfl⟩, rfl⟩
    exact hmem
  · exact fun h => ⟨_, ⟨h, rfl⟩, rfl⟩

/-- What holds of everything that was done holds of what one request did. -/
theorem forall_exchangesOf {journal : List Deed} {motive : Exchange requests → Prop}
    (h : ∀ deed ∈ journal, motive deed.exchange) :
    ∀ exchange ∈ exchangesOf request journal, motive exchange :=
  fun _ hmem => h _ (mem_exchangesOf.1 hmem)

end Exchanges

namespace Stage

variable {J α : Type} {program : J → Request α}

/-- What a stage shows of its requests: what each has done is a path through its program, nobody
else has done anything, and whoever broke off had no answer to the next call. -/
structure Sound (program : J → Request α) (stage : Stage J α) : Prop where
  /-- Each request has followed its program. -/
  follows : ∀ request task, stage.tasks[request]? = some task →
    Program.Follows (program task.job) (exchangesOf request stage.journal) task.rest
  /-- All deeds are those of requests. -/
  numbered : ∀ deed ∈ stage.journal, deed.request < stage.tasks.length
  /-- Requests break off at a call without an answer. -/
  broken : ∀ (request : Nat) (task : Task J α), stage.tasks[request]? = some task →
    task.isBroken = true → ∃ call next around world,
      task.rest = .ask call next ∧ (World.handler around call world).1 = none

/-- A step shows what was shown before, and the deed that is new. -/
theorem Sound.step {turn : Turn J} {stage stage' : Stage J α} (h : Sound program stage)
    (step : Step program turn stage stage') : Sound program stage' := by
  cases step with
  | idle => exact h
  | wait => exact ⟨h.follows, h.numbered, h.broken⟩
  | begin job =>
    refine ⟨?_, ?_, ?_⟩
    · intro request task htask
      rcases getElem?_concat_cases htask with hold | ⟨hnew, rfl⟩
      · exact h.follows request task hold
      -- a request that is new has done nothing yet
      · have hnone : exchangesOf request stage.journal = [] := by
          refine List.eq_nil_iff_forall_not_mem.2 ?_
          intro exchange hmem
          exact absurd (h.numbered _ (mem_exchangesOf.1 hmem)) (Nat.not_lt.2 hnew)
        rw [hnone]
        exact .start _
    · intro deed hmem
      rw [List.length_append]
      exact Nat.lt_add_right 1 (h.numbered deed hmem)
    · intro request task htask hbroken
      rcases getElem?_concat_cases htask with hold | ⟨-, rfl⟩
      · exact h.broken request task hold hbroken
      · cases hbroken
  | @call _ number job call next reply world around htask hreply =>
    refine ⟨?_, ?_, ?_⟩
    · intro request task hfound
      rw [exchangesOf_append]
      rcases getElem?_set_cases hfound with ⟨rfl, rfl⟩ | ⟨hne, hold⟩
      · rw [exchangesOf_cons_self ⟨number, call, reply⟩ []]
        exact (h.follows number _ htask).append (.reply (.start _))
      · rw [exchangesOf_cons_of_ne hne, exchangesOf_nil, List.append_nil]
        exact h.follows request task hold
    · intro deed hmem
      rw [List.length_set]
      rcases List.mem_append.1 hmem with hold | hnew
      · exact h.numbered deed hold
      · obtain rfl := List.mem_singleton.1 hnew
        exact (List.getElem?_eq_some_iff.1 htask).1
    · intro request task hfound hbroken
      rcases getElem?_set_cases hfound with ⟨rfl, rfl⟩ | ⟨-, hold⟩
      · cases hbroken
      · exact h.broken request task hold hbroken
  | @breakOff _ number job call next around htask hreply =>
    have hpath := h.follows number _ htask
    refine ⟨?_, ?_, ?_⟩
    · intro request task hfound
      rcases getElem?_set_cases hfound with ⟨rfl, rfl⟩ | ⟨-, hold⟩
      · exact hpath
      · exact h.follows request task hold
    · intro deed hmem
      rw [List.length_set]
      exact h.numbered deed hmem
    · intro request task hfound hbroken
      rcases getElem?_set_cases hfound with ⟨rfl, rfl⟩ | ⟨-, hold⟩
      · exact ⟨call, next, around, stage.world, rfl, hreply⟩
      · exact h.broken request task hold hbroken

/-- A schedule that begins without requests shows what they have done. -/
theorem Sound.run (turns : List (Turn J)) (world : World) :
    Sound program (({ world } : Stage J α).run program turns) := by
  refine run_induction ⟨?_, ?_, ?_⟩ (fun _ _ _ _ step h => h.step step)
  · rintro request task ⟨⟩
  · rintro deed ⟨⟩
  · rintro request task ⟨⟩

/-- A deed is the call that was next for its request, after what the request had done before. -/
theorem Sound.exists_ask {stage : Stage J α} (h : Sound program stage) {before after : List Deed}
    {deed : Deed} (hjournal : stage.journal = before ++ deed :: after) :
    ∃ task next, stage.tasks[deed.request]? = some task ∧
      Program.Follows (program task.job) (exchangesOf deed.request before)
        (.ask deed.exchange.call next) := by
  have hmem : deed ∈ stage.journal := hjournal ▸ List.mem_append_right _ List.mem_cons_self
  have htask := List.getElem?_eq_getElem (h.numbered deed hmem)
  have hpath := h.follows _ _ htask
  rw [hjournal, exchangesOf_append, exchangesOf_cons_self] at hpath
  obtain ⟨next, hnext⟩ := hpath.exists_ask
  exact ⟨_, next, htask, hnext⟩

end Stage

/-! ## What has happened to the world -/

/-- What has happened to a world: the calls of requests, in order, and the passing of time between
them. -/
inductive Chronicle : World → List Deed → World → Prop where
  /-- Nothing has happened. -/
  | start (world : World) : Chronicle world [] world
  /-- Time has passed first. -/
  | wait {start last : World} {journal : List Deed} (duration : Duration)
      (h : Chronicle { start with clock := start.clock.advance duration } journal last) :
      Chronicle start journal last
  /-- A request has made a call first. -/
  | call {start world last : World} {journal : List Deed} {around : Surroundings} {deed : Deed}
      (hreply : World.handler around deed.exchange.call start = (some deed.exchange.reply, world))
      (h : Chronicle world journal last) : Chronicle start (deed :: journal) last

namespace Chronicle

variable {start mid last : World} {first second journal : List Deed}

/-- What has happened in two stretches of time. -/
theorem append (h : Chronicle start first mid) (h' : Chronicle mid second last) :
    Chronicle start (first ++ second) last := by
  induction h with
  | start => exact h'
  | wait duration h ih => exact .wait duration (ih h')
  | call hreply h ih => exact .call hreply (ih h')

/-- The worlds before and after a deed. -/
theorem split {deed : Deed} (h : Chronicle start (first ++ deed :: second) last) :
    ∃ before after around, Chronicle start first before ∧
      World.handler around deed.exchange.call before = (some deed.exchange.reply, after) ∧
        Chronicle after second last := by
  generalize hjournal : first ++ deed :: second = journal at h
  induction h generalizing first with
  | start => simp at hjournal
  | wait duration h ih =>
    obtain ⟨before, after, around, hbefore, hreply, hafter⟩ := ih hjournal
    exact ⟨before, after, around, .wait duration hbefore, hreply, hafter⟩
  | call hreply h ih =>
    cases first with
    | nil =>
      cases hjournal
      exact ⟨_, _, _, .start _, hreply, h⟩
    | cons other first =>
      cases hjournal
      obtain ⟨before, after, around, hbefore, hdeed, hafter⟩ := ih rfl
      exact ⟨before, after, around, .call hreply hbefore, hdeed, hafter⟩

/-- What every deed keeps, going by the replies before it, is kept by them all, and all replies are
expected ones. -/
theorem keeps (inv : World → Prop) (allowed : Nat → RequestCall → Prop)
    (expected : (call : RequestCall) → call.Reply → Prop) (h : Chronicle start journal last)
    (hallowed : ∀ before deed after, journal = before ++ deed :: after →
      (∀ other ∈ before, expected other.exchange.call other.exchange.reply) →
        allowed deed.request deed.exchange.call)
    (hcall : ∀ request around call world, inv world → allowed request call →
      inv (World.handler around call world).2 ∧
        ∀ reply ∈ (World.handler around call world).1, expected call reply)
    (hclock : ∀ world duration, inv world →
      inv { world with clock := world.clock.advance duration })
    (hstart : inv start) :
    inv last ∧ ∀ deed ∈ journal, expected deed.exchange.call deed.exchange.reply := by
  induction h with
  | start => exact ⟨hstart, by rintro _ ⟨⟩⟩
  | wait duration h ih => exact ih hallowed (hclock _ duration hstart)
  | @call start world last journal around deed hreply h ih =>
    obtain ⟨hinv, hexpected⟩ := hcall deed.request around deed.exchange.call start hstart
      (hallowed [] deed journal rfl (by rintro _ ⟨⟩))
    rw [hreply] at hinv hexpected
    have hdeed := hexpected _ rfl
    obtain ⟨hlast, hrest⟩ := ih (fun before other after heq hbefore =>
      hallowed (deed :: before) other after (by rw [heq, List.cons_append])
        (List.forall_mem_cons.2 ⟨hdeed, hbefore⟩)) hinv
    exact ⟨hlast, List.forall_mem_cons.2 ⟨hdeed, hrest⟩⟩

end Chronicle

namespace Stage

variable {J α : Type} {program : J → Request α}

/-- A later stage: more has happened, and the requests are still there. -/
structure Grows (stage later : Stage J α) : Prop where
  /-- What has happened since. -/
  since : ∃ journal, later.journal = stage.journal ++ journal ∧
    Chronicle stage.world journal later.world
  /-- Requests keep their numbers. -/
  tasks : ∀ (request : Nat) (task : Task J α), stage.tasks[request]? = some task →
    ∃ task' : Task J α, later.tasks[request]? = some task' ∧ task'.job = task.job

/-- A stage that stays as it is. -/
theorem Grows.refl (stage : Stage J α) : Grows stage stage :=
  ⟨⟨[], (List.append_nil _).symm, .start _⟩, fun _ task htask => ⟨task, htask, rfl⟩⟩

/-- What is later than later is later. -/
theorem Grows.trans {stage mid later : Stage J α} (h : Grows stage mid) (h' : Grows mid later) :
    Grows stage later := by
  obtain ⟨⟨first, hfirst, hworld⟩, htasks⟩ := h
  obtain ⟨⟨second, hsecond, hworld'⟩, htasks'⟩ := h'
  refine ⟨⟨first ++ second, ?_, hworld.append hworld'⟩, ?_⟩
  · rw [hsecond, hfirst, List.append_assoc]
  · intro request task htask
    obtain ⟨task', htask', hjob⟩ := htasks request task htask
    obtain ⟨task'', htask'', hjob'⟩ := htasks' request task' htask'
    exact ⟨task'', htask'', hjob'.trans hjob⟩

/-- A request that goes on keeps its number and its job. -/
theorem exists_of_set {tasks : List (Task J α)} {number : Nat} {job : J} {old rest : Request α}
    {isBroken : Bool} (hold : tasks[number]? = some ⟨job, old, false⟩) (request : Nat)
    (task : Task J α) (htask : tasks[request]? = some task) :
    ∃ task', (tasks.set number ⟨job, rest, isBroken⟩)[request]? = some task' ∧
      task'.job = task.job := by
  by_cases hown : number = request
  · subst hown
    rw [hold] at htask
    cases htask
    exact ⟨_, List.getElem?_set_self (List.getElem?_eq_some_iff.1 hold).1, rfl⟩
  · exact ⟨task, (List.getElem?_set_ne hown).trans htask, rfl⟩

/-- A step leads to a later stage. -/
theorem Step.grows {turn : Turn J} {stage stage' : Stage J α}
    (step : Step program turn stage stage') : Grows stage stage' := by
  cases step with
  | idle => exact .refl stage
  | begin job =>
    refine ⟨⟨[], (List.append_nil _).symm, .start _⟩, ?_⟩
    intro request task htask
    exact ⟨task, List.getElem?_append_left (List.getElem?_eq_some_iff.1 htask).1 ▸ htask, rfl⟩
  | wait duration =>
    exact ⟨⟨[], (List.append_nil _).symm, .wait duration (.start _)⟩,
      fun _ task htask => ⟨task, htask, rfl⟩⟩
  | call htask hreply =>
    exact ⟨⟨_, rfl, .call hreply (.start _)⟩, exists_of_set htask⟩
  | breakOff htask hreply =>
    exact ⟨⟨[], (List.append_nil _).symm, .start _⟩, exists_of_set htask⟩

/-- A schedule leads to a later stage. -/
theorem Grows.run (turns : List (Turn J)) (stage : Stage J α) :
    Grows stage (stage.run program turns) :=
  run_induction (.refl stage) (fun _ _ _ _ step h => h.trans step.grows)

/-- The journal is all that has happened to the world since a schedule began without requests. -/
theorem chronicle_run (turns : List (Turn J)) (start : World) :
    Chronicle start (({ world := start } : Stage J α).run program turns).journal
      (({ world := start } : Stage J α).run program turns).world := by
  obtain ⟨journal, hjournal, hchronicle⟩ :=
    (Grows.run turns ({ world := start } : Stage J α) : Grows _ (Stage.run program turns _)).since
  rw [hjournal]
  exact hchronicle

/-- What every call keeps that the requests may make, going by the replies they had before, is kept
by a whole schedule, and all replies are expected ones. -/
theorem keeps {turns : List (Turn J)} {start : World} (inv : World → Prop)
    (allowed : J → RequestCall → Prop) (expected : (call : RequestCall) → call.Reply → Prop)
    (hprogram : ∀ job, .begin job ∈ turns →
      (program job).Within (allowed job) expected (fun _ => True))
    (hcall : ∀ job around call world, inv world → allowed job call →
      inv (World.handler around call world).2 ∧
        ∀ reply ∈ (World.handler around call world).1, expected call reply)
    (hclock : ∀ world duration, inv world →
      inv { world with clock := world.clock.advance duration })
    (hstart : inv start) :
    inv (({ world := start } : Stage J α).run program turns).world ∧
      ∀ deed ∈ (({ world := start } : Stage J α).run program turns).journal,
        expected deed.exchange.call deed.exchange.reply := by
  have hsound : Sound program (({ world := start } : Stage J α).run program turns) :=
    .run turns start
  -- a request may make a call if its job may
  refine (chronicle_run turns start).keeps inv (fun request call => ∃ task,
    (({ world := start } : Stage J α).run program turns).tasks[request]? = some task ∧
      allowed task.job call) expected ?_ ?_ hclock hstart
  · intro before deed after heq hbefore
    obtain ⟨task, next, htask, hpath⟩ := hsound.exists_ask heq
    refine ⟨task, htask, ?_⟩
    have hbegun : .begin task.job ∈ turns := by
      rcases mem_tasks_run (List.mem_of_getElem? htask) with ⟨old, hold, -⟩ | hbegun
      · cases hold
      · exact hbegun
    refine ((hprogram task.job hbegun).follows hpath ?_).1
    exact fun exchange hmem => hbefore _ (mem_exchangesOf.1 hmem)
  · rintro request around call world hinv ⟨task, -, hallowed⟩
    exact hcall task.job around call world hinv hallowed

end Stage

end Gatehouse
