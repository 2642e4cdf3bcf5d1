import Gatehouse.Proofs.KeyValue

/-!
# Entries past their lifetime

An entry past its lifetime stays in the table until its key is set or dropped, or until all such
entries are dropped at once. Nobody can tell when that happens: what can be told is the live entry
of every key (`Alike`), which decides the answer to every call (`Alike.answer`), and which dropping
what is past its lifetime leaves alone (`Alike.purge`). Main statement: such drops can be inserted
anywhere among calls without a change to their answers (`expired_unseen`).
-/

namespace Gatehouse.KeyValue

/-- What happens to a table. -/
inductive Turn where
  /-- A call is made. -/
  | ask (call : Call)
  /-- Time passes. -/
  | wait (duration : Duration)

/-- Whether a call drops all entries past their lifetime. -/
def Call.isPurge : Call → Bool
  | purge => true
  | _ => false

/-- Whether all entries past their lifetime are dropped in a turn. -/
def Turn.isPurge : Turn → Bool
  | ask call => call.isPurge
  | wait _ => false

/-- A call that was made, and what it gave unless it broke off. -/
structure Answered where
  /-- The call. -/
  call : Call
  /-- What it gave. -/
  value? : Option call.Value

namespace Table

/-- The table after a call. A call that breaks off leaves it as it is. -/
def after (table : Table) (now : Instant) (call : Call) : Table :=
  ((table.answer now call).map Prod.snd).getD table

/-- The calls among some turns, and what they give. -/
def answers : Table → Clock → List Turn → List Answered
  | _, _, [] => []
  | table, clock, .ask call :: turns =>
    ⟨call, (table.answer clock.instant call).map Prod.fst⟩ ::
      (table.after clock.instant call).answers clock turns
  | table, clock, .wait duration :: turns => table.answers (clock.advance duration) turns

/-- The table and the clock after some turns. -/
def later : Table → Clock → List Turn → Table × Clock
  | table, clock, [] => (table, clock)
  | table, clock, .ask call :: turns => (table.after clock.instant call).later clock turns
  | table, clock, .wait duration :: turns => table.later (clock.advance duration) turns

variable {table first second : Table} {now : Instant} {call : Call} {clock : Clock}

/-- Every call leaves keys distinct, also one that breaks off. -/
theorem Distinct.after (h : table.Distinct) (now : Instant) (call : Call) :
    (table.after now call).Distinct := by
  rw [Table.after]
  cases hanswer : table.answer now call with
  | none => exact h
  | some reply => exact h.answer hanswer

/-! ## What can be told -/

/-- Two tables are alike at a reading of the clock: every key has the same live entry in both. -/
structure Alike (now : Instant) (first second : Table) : Prop where
  /-- The live entries are the same. -/
  live : ∀ key, first.live? now key = second.live? now key
  /-- No key has two entries in the first table. -/
  distinct : first.Distinct
  /-- No key has two entries in the second table. -/
  distinct_other : second.Distinct

namespace Alike

/-- A table is like itself. -/
theorem refl (h : table.Distinct) : Alike now table table :=
  ⟨fun _ => rfl, h, h⟩

/-- Time passes alike. -/
theorem wait (h : Alike now first second) {later : Instant} (hle : now.nanos ≤ later.nanos) :
    Alike later first second := by
  refine ⟨fun key => ?_, h.distinct, h.distinct_other⟩
  rw [live?_of_le hle, live?_of_le hle, h.live key]

/-- Calls for a key get the same answer from tables that are alike, and leave them alike. -/
theorem answer (h : Alike now first second) (hcall : call.isPurge = false) :
    (first.answer now call).map Prod.fst = (second.answer now call).map Prod.fst ∧
      Alike now (first.after now call) (second.after now call) := by
  obtain ⟨key, hkey⟩ : ∃ key, call.key? = some key := by
    cases call <;> first | exact ⟨_, rfl⟩ | cases hcall
  have hrel := rel_answer hkey (h.live key)
  rw [after, after]
  rcases hfirst : first.answer now call with _ | ⟨value, left⟩ <;>
    rcases hsecond : second.answer now call with _ | ⟨value', left'⟩ <;>
    rw [hfirst, hsecond] at hrel <;> cases hrel
  · exact ⟨rfl, h⟩
  · rename_i hsame
    obtain ⟨rfl, hlive⟩ : value = value' ∧ _ := hsame
    refine ⟨rfl, fun other => ?_, h.distinct.answer hfirst, h.distinct_other.answer hsecond⟩
    -- the call's own key is the one whose entry may have changed
    by_cases hother : call.key? = some other
    · obtain rfl : key = other := Option.some.inj (hkey.symm.trans hother)
      exact hlive
    · calc left.live? now other = first.live? now other :=
            h.distinct.live?_answer_of_ne hother hfirst
        _ = second.live? now other := h.live other
        _ = left'.live? now other :=
            (h.distinct_other.live?_answer_of_ne hother hsecond).symm

/-- Dropping what is past its lifetime leaves a table like any that it was like. -/
theorem purge (h : Alike now first second) : Alike now (first.after now .purge) second :=
  ⟨fun key => (h.distinct.live?_purge).trans (h.live key), h.distinct.after now .purge,
    h.distinct_other⟩

/-- Tables that are alike give the same answers to the calls among some turns, also if one of them
is spared the drops. -/
theorem answers_filter (h : Alike clock.instant first second) (turns : List Turn) :
    (first.answers clock turns).filter (fun answered => !answered.call.isPurge) =
      second.answers clock (turns.filter (fun turn => !turn.isPurge)) := by
  -- over the turns: what is alike now is alike after the next one
  induction turns generalizing first second clock with
  | nil => rfl
  | cons turn turns ih =>
    cases turn with
    | ask call =>
      rcases hcall : call.isPurge with _ | _
      · obtain ⟨hvalue, halike⟩ := h.answer hcall
        have hkept : (Turn.ask call).isPurge = false := hcall
        simp only [answers, List.filter_cons, hcall, hkept, hvalue, ih halike]
        rfl
      · obtain rfl : call = .purge := by cases call <;> first | rfl | cases hcall
        exact ih h.purge
    | wait duration => exact ih (h.wait (Nat.le_add_right _ _))

end Alike

/-! ## One call -/

/-- A key is set unless it has a live value exactly if it has none and the clock can show the end of
the lifetime. -/
theorem exists_setIfAbsent_iff {key : String} {value : Bytes} {ttl : Duration} :
    (∃ left, table.setIfAbsent now key value ttl = some (true, left)) ↔
      table.get now key = none ∧ (now.plus? ttl).isSome := by
  rw [setIfAbsent, set]
  cases table.get now key <;> cases now.plus? ttl <;> simp

/-- A key that has a live value is not set, and the table stays as it is. -/
theorem setIfAbsent_eq_false_iff {key : String} {value : Bytes} {ttl : Duration} {left : Table} :
    table.setIfAbsent now key value ttl = some (false, left) ↔
      (table.get now key).isSome ∧ left = table := by
  rw [setIfAbsent, set]
  cases table.get now key <;> cases now.plus? ttl <;> simp [eq_comm]

/-- Dropping what is past its lifetime counts it. -/
theorem purge_fst (table : Table) (now : Instant) :
    (table.purge now).1 =
      table.entries.countP (fun entry => decide (entry.deadline.nanos ≤ now.nanos)) := by
  have hsplit := List.length_eq_countP_add_countP
    (fun entry : Entry => entry.isLiveAt now) (l := table.entries)
  have hexpired : table.entries.countP (fun entry => decide ¬entry.isLiveAt now = true) =
      table.entries.countP (fun entry => decide (entry.deadline.nanos ≤ now.nanos)) :=
    List.countP_congr fun entry _ => by simp [Entry.isLiveAt]
  rw [purge, ← List.countP_eq_length_filter]
  omega

/-- Dropping what is past its lifetime leaves what is not. -/
theorem mem_purge {entry : Entry} :
    entry ∈ (table.purge now).2.entries ↔
      entry ∈ table.entries ∧ now.nanos < entry.deadline.nanos := by
  simp [purge, Entry.isLiveAt]

/-- Entries past their lifetime are as good as absent. Drops of all such entries can be inserted
anywhere among calls without a change to what these give. After any turns, a key is set unless it
has a live value exactly if a look-up finds none and the clock can show the end of the new lifetime;
a key that is not set because it has a live value keeps its entry, and everything else stays as it
was; and a drop takes the entries past their lifetime, as many as it says, and no others. -/
theorem expired_unseen (h : table.Distinct) (clock : Clock) (turns : List Turn) :
    (table.answers clock turns).filter (fun answered => !answered.call.isPurge) =
        table.answers clock (turns.filter (fun turn => !turn.isPurge)) ∧
      let (held, clock) := table.later clock turns
      let now := clock.instant
      (∀ key value ttl, ((∃ left, held.answer now (.setIfAbsent key value ttl) =
            some (true, left)) ↔ held.get now key = none ∧ (now.plus? ttl).isSome) ∧
          ∀ left, held.answer now (.setIfAbsent key value ttl) = some (false, left) ↔
            (held.get now key).isSome ∧ left = held) ∧
        ∃ left, held.answer now .purge = some (held.entries.countP (fun entry =>
              decide (entry.deadline.nanos ≤ now.nanos)), left) ∧
          ∀ entry, entry ∈ left.entries ↔
            entry ∈ held.entries ∧ now.nanos < entry.deadline.nanos := by
  refine ⟨(Alike.refl h).answers_filter turns, fun key value ttl =>
    ⟨exists_setIfAbsent_iff, fun left => setIfAbsent_eq_false_iff⟩, ?_⟩
  exact ⟨_, congrArg some (Prod.ext (purge_fst _ _) rfl), fun entry => mem_purge⟩

/-- One entry is past its lifetime, and another comes to its end just when it is asked to be set
again: the answers are the same with the drops and without them. -/
theorem expired_unseen_lingering :
    let table : Table := ⟨[⟨"first", [1], ⟨5⟩⟩, ⟨"second", [2], ⟨20⟩⟩]⟩
    let clock : Clock := ⟨⟨0⟩, ⟨10⟩⟩
    let turns : List Turn := [.ask .purge, .ask (.get "first"), .wait ⟨10⟩, .ask .purge,
      .ask (.setIfAbsent "second" [3] (.ofSeconds 60))]
    let given : List Answered := [⟨.get "first", some none⟩,
      ⟨.setIfAbsent "second" [3] (.ofSeconds 60), some true⟩]
    table.Distinct ∧
      (table.answers clock turns).filter (fun answered => !answered.call.isPurge) = given ∧
      table.answers clock (turns.filter (fun turn => !turn.isPurge)) = given := by
  have hdistinct : Distinct ⟨[⟨"first", [1], ⟨5⟩⟩, ⟨"second", [2], ⟨20⟩⟩]⟩ := by simp [Distinct]
  exact ⟨hdistinct, (expired_unseen hdistinct _ _).1, rfl⟩

end Table

end Gatehouse.KeyValue
