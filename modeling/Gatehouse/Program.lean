/-!
# Programs over an interface

A program is a tree of calls: it asks something, and goes on in a way that depends on the reply. So
what a program does can be run against any world that answers its calls, broken off between two
calls, interleaved with other programs, or carried over into calls of another interface. Main
statement: running a program joined from two is running one after the other (`run_bind`).
-/

namespace Gatehouse

/-- What can be asked, and what kind of reply each question has. -/
structure Interface where
  /-- The questions. -/
  Call : Type
  /-- The replies to a question. -/
  Reply : Call → Type

/-- A program: it is done, or it asks and goes on with the reply. -/
inductive Program (I : Interface) (α : Type) : Type where
  /-- The program ends with a value. -/
  | done (value : α)
  /-- The program asks, and goes on with the reply. -/
  | ask (call : I.Call) (next : I.Reply call → Program I α)

/-- A world that answers calls: a state that each call changes. A call without a reply breaks off
the program that made it. -/
def Handler (I : Interface) (σ : Type) : Type :=
  (call : I.Call) → σ → Option (I.Reply call) × σ

namespace Program

variable {I J : Interface} {α β σ : Type}

/-- Goes on with another program where the first one ends. -/
def bind : Program I α → (α → Program I β) → Program I β
  | done value, next => next value
  | ask call rest, next => ask call (fun reply => (rest reply).bind next)

instance : Monad (Program I) where
  pure := done
  bind := bind

/-- The program that asks once. -/
def call (call : I.Call) : Program I (I.Reply call) := ask call done

/-- Runs a program to its end. -/
def run (handler : Handler I σ) : Program I α → σ → Option α × σ
  | done value, state => (some value, state)
  | ask call next, state =>
    match handler call state with
    | (some reply, state) => (next reply).run handler state
    | (none, state) => (none, state)

/-- Runs a program up to the reply to its first call. A program that is done stays. -/
def step (handler : Handler I σ) : Program I α → σ → Option (Program I α) × σ
  | done value, state => (some (done value), state)
  | ask call next, state =>
    match handler call state with
    | (some reply, state) => (some (next reply), state)
    | (none, state) => (none, state)

/-- Replaces every call by a program over another interface. -/
def interpret (meaning : (call : I.Call) → Program J (I.Reply call)) : Program I α → Program J α
  | done value => done value
  | ask call next => (meaning call).bind (fun reply => (next reply).interpret meaning)

/-- The value of a program that is done. -/
def value? : Program I α → Option α
  | done value => some value
  | ask _ _ => none

/-- Running a program joined from two is running one after the other. -/
theorem run_bind (handler : Handler I σ) (program : Program I α) (next : α → Program I β)
    (state : σ) :
    (program.bind next).run handler state =
      match program.run handler state with
      | (some value, state) => (next value).run handler state
      | (none, state) => (none, state) := by
  induction program generalizing state with
  | done value => rfl
  | ask call rest ih =>
    simp only [bind, run]
    cases hreply : handler call state with
    | mk reply state' =>
      cases reply with
      | none => rfl
      | some reply => exact ih reply state'

/-- Going on with the end is going nowhere. -/
theorem bind_done (program : Program I α) : program.bind done = program := by
  induction program with
  | done value => rfl
  | ask call next ih => simp [bind, ih]

/-- Three programs after one another can be joined in either order. -/
theorem bind_assoc {γ : Type} (program : Program I α) (first : α → Program I β)
    (second : β → Program I γ) :
    (program.bind first).bind second = program.bind (fun value => (first value).bind second) := by
  induction program with
  | done value => rfl
  | ask call next ih => simp [bind, ih]

instance : LawfulMonad (Program I) :=
  LawfulMonad.mk' (m := Program I) bind_done (fun _ _ => rfl) bind_assoc

end Program

end Gatehouse
