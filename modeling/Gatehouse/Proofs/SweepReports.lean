import Gatehouse.Proofs.Calls
import Gatehouse.Proofs.Sweepers

/-!
# What a sweep reports

A sweep whose calls are answered from a script, in which any of them may fail at any time. Main
statement: whatever the script, the sweep comes to an end and its report tells what has happened
(`sweep_reported`). It is skipped exactly if the lock was not had, and then nothing else is called.
Otherwise each kind is swept, one after the other: what the calls for the second kind are and what
is reported of it depends on the answers to these calls alone. The lock is released once, at the
end, however the rest went.
-/

namespace Gatehouse

/-! ## What exchanges say -/

namespace RequestCall

/-- The failure of a call to a store. -/
def failure? : (call : RequestCall) → call.Reply → Option StorageError
  | .store _, .error error => some error
  | _, _ => none

/-- The answer to a call that counts or deletes dead sessions. -/
def number? : (call : RequestCall) → call.Reply → Option (Except StorageError Nat)
  | .store (.session (.countSweepable _)), answer => some answer
  | .store (.session (.deleteSweepable _ _)), answer => some answer
  | _, _ => none

/-- The reply to a call that counts or deletes dead sessions, or pauses, when it is answered with a
number or a failure. -/
def reply? (answer : Except StorageError Nat) : (call : RequestCall) → Option call.Reply
  | .store (.session (.countSweepable _)) => some answer
  | .store (.session (.deleteSweepable _ _)) => some answer
  | .outside (.pause _) => some ()
  | _ => none

end RequestCall

namespace Exchange

/-- The failure of an exchange with a store. -/
def failure? (exchange : Exchange requests) : Option StorageError :=
  RequestCall.failure? exchange.call exchange.reply

/-- The answer to a call that counts or deletes dead sessions. -/
def number? (exchange : Exchange requests) : Option (Except StorageError Nat) :=
  RequestCall.number? exchange.call exchange.reply

/-- Whether an exchange has deleted sessions. -/
def deletesSome (exchange : Exchange requests) : Bool := exchange.deleted != 0

end Exchange

namespace Sweep

variable {settings : SweepSettings} {kind : PrincipalKind} {exchanges : List (Exchange requests)}

/-! ## One kind -/

/-- A report once further exchanges have been made: what they deleted is added, and the first failure
among them is told. -/
def KindReport.grown (report : KindReport) (exchanges : List (Exchange requests)) : KindReport :=
  { report with
    deleted := report.deleted + total Exchange.deleted exchanges
    batches := report.batches + exchanges.countP Exchange.deletesSome
    failure := (exchanges.findSome? Exchange.failure?).map StorageError.message }

namespace KindReport

variable {report : KindReport}

/-- Without exchanges a report without a failure stays as it is. -/
theorem grown_nil (h : report.failure = none) : report.grown [] = report := by
  cases report
  cases h
  rfl

/-- A batch that deletes sessions is added to a report. -/
theorem grown_deleted {deleted : Nat} (hdeleted : deleted ≠ 0) (batchSize : UInt32) :
    report.grown (⟨.store (.session (.deleteSweepable kind batchSize)),
        (.ok deleted : Except StorageError Nat)⟩ :: exchanges) =
      { report with
        deleted := report.deleted + deleted, batches := report.batches + 1 }.grown exchanges := by
  have hsome : Exchange.deletesSome ⟨.store (.session (.deleteSweepable kind batchSize)),
      (.ok deleted : Except StorageError Nat)⟩ = true := by
    simp [Exchange.deletesSome, Exchange.deleted, RequestCall.deleted, hdeleted]
  rw [grown, grown, total_cons, List.countP_cons_of_pos hsome]
  simp only [Exchange.deleted, RequestCall.deleted, KindReport.mk.injEq]
  refine ⟨trivial, trivial, ?_, ?_, rfl⟩
  · omega
  · omega

/-- An exchange that deletes nothing and does not fail is not told. -/
theorem grown_silent {exchange : Exchange requests} (hdeleted : exchange.deleted = 0)
    (hfailure : exchange.failure? = none) :
    report.grown (exchange :: exchanges) = report.grown exchanges := by
  have hnone : ¬ exchange.deletesSome = true := by
    simp [Exchange.deletesSome, hdeleted]
  rw [grown, grown, total_cons, hdeleted, Nat.zero_add, List.countP_cons_of_neg hnone,
    List.findSome?_cons, hfailure]

end KindReport

/-- The report of a kind tells what its batches gave. -/
theorem report_deleteBatches {limit remaining : Nat} {report result : KindReport}
    (hreport : report.failure = none)
    (h : Program.Follows (deleteBatches settings kind limit remaining report) exchanges
      (.done result)) :
    result = report.grown exchanges := by
  -- over the number of batches that may still be deleted
  induction limit generalizing remaining report exchanges with
  | zero =>
    obtain ⟨rfl, hdone⟩ := h.of_done
    cases hdone
    exact (KindReport.grown_nil hreport).symm
  | succ limit ih =>
    rcases h.call_cases with ⟨-, hrest⟩ | ⟨reply, later, rfl, hlater⟩
    · exact absurd rfl (hrest result)
    change Except StorageError Nat at reply
    rcases reply with error | deleted
    -- a failure is told, and ends the loop
    · obtain ⟨rfl, hdone⟩ := hlater.of_done
      cases hdone
      rfl
    dsimp only at hlater
    split at hlater
    -- so does a batch without sessions, which is not counted
    · rename_i hzero
      subst hzero
      obtain ⟨rfl, hdone⟩ := hlater.of_done
      cases hdone
      rw [KindReport.grown_silent rfl rfl, KindReport.grown_nil hreport]
    rename_i hdeleted
    rw [KindReport.grown_deleted hdeleted]
    split at hlater
    · obtain ⟨rfl, hdone⟩ := hlater.of_done
      cases hdone
      rw [KindReport.grown_nil]
      exact hreport
    split at hlater
    · rcases hlater.call_cases with ⟨-, hrest⟩ | ⟨⟨⟩, further, rfl, hfurther⟩
      · exact absurd rfl (hrest result)
      · rw [KindReport.grown_silent rfl rfl]
        exact ih hreport hfurther
    · exact ih hreport hlater

/-- The number that a call was answered with; none if it failed. -/
def numberOf (answer : Except StorageError Nat) : Nat := answer.toOption.getD 0

/-- What is reported of a kind is what the calls for it gave. -/
structure Accounted (settings : SweepSettings) (kind : PrincipalKind)
    (calls : List (Exchange requests)) (report : KindReport) : Prop where
  /-- The report is that of the kind. -/
  kind_eq : report.kind = kind
  /-- All calls are for the kind: they count and delete its dead sessions, and pause. -/
  sweeps : ∀ exchange ∈ calls, settings.Sweeps kind exchange.call
  /-- What was found is the answer to the first call, which counts. -/
  found_eq : ∃ answer later,
    calls = ⟨.store (.session (.countSweepable kind)), answer⟩ :: later ∧
      report.found = numberOf answer
  /-- What was deleted is the sum of what the batches deleted. -/
  deleted_eq : report.deleted = total Exchange.deleted calls
  /-- The batches are those that deleted something. -/
  batches_eq : report.batches = calls.countP Exchange.deletesSome
  /-- A failure is reported exactly if a call failed. -/
  failure_iff : report.failure.isSome = true ↔ ∃ exchange ∈ calls, exchange.failure?.isSome = true
  /-- The failure that is reported is that of the first call that failed. -/
  failure_eq : report.failure = (calls.findSome? Exchange.failure?).map StorageError.message

/-- A grown report of a kind accounts for the exchanges. -/
theorem accounted_grown {answer : Except StorageError Nat}
    {later : List (Exchange requests)} (found : Nat)
    (hsweeps : ∀ exchange ∈ exchanges, settings.Sweeps kind exchange.call)
    (hexchanges : exchanges = ⟨.store (.session (.countSweepable kind)), answer⟩ :: later)
    (hfound : found = numberOf answer) :
    Accounted settings kind exchanges (({ kind, found } : KindReport).grown exchanges) where
  kind_eq := rfl
  sweeps := hsweeps
  found_eq := ⟨answer, later, hexchanges, hfound⟩
  deleted_eq := Nat.zero_add _
  batches_eq := Nat.zero_add _
  failure_iff := by
    rw [KindReport.grown, Option.isSome_map, List.findSome?_isSome_iff]
  failure_eq := rfl

/-- Sweeping a kind accounts for all its calls. -/
theorem accounted_sweepKind {report : KindReport}
    (h : Program.Follows (sweepKind settings kind) exchanges (.done report)) :
    Accounted settings kind exchanges report := by
  have hwithin : (sweepKind settings kind).Within (settings.Sweeps kind) (fun _ _ => True)
      (fun _ => True) := sweepKind_within (fun _ hcall => hcall)
  have hsweeps := hwithin.allowed_of_follows h (fun _ _ => trivial)
  rcases h.call_cases with ⟨-, hrest⟩ | ⟨reply, later, rfl, hlater⟩
  · exact absurd rfl (hrest report)
  change Except StorageError Nat at reply
  have haccounted := accounted_grown (numberOf reply) hsweeps rfl rfl
  rcases reply with error | found
  · obtain ⟨rfl, hdone⟩ := hlater.of_done
    cases hdone
    exact haccounted
  rw [KindReport.grown_silent rfl rfl] at haccounted
  dsimp only at hlater
  split at hlater
  · rename_i hzero
    subst hzero
    obtain ⟨rfl, hdone⟩ := hlater.of_done
    cases hdone
    exact haccounted
  · rw [report_deleteBatches rfl hlater]
    exact haccounted

/-! ## A kind on its own -/

/-- Answers the calls that count and delete dead sessions with one number or failure after the
other, and notes the exchanges. Other calls than these and pauses have no answer. -/
def answering (answers : Nat → Except StorageError Nat) :
    Handler requests (List (Exchange requests)) :=
  fun call past =>
    match RequestCall.reply? (answers (past.filterMap Exchange.number?).length) call with
    | some reply => (some reply, past ++ [⟨call, reply⟩])
    | none => (none, past)

/-- Exchanges have the answers with which a sequence of answers begins. -/
def Begins (exchanges : List (Exchange requests)) (answers : Nat → Except StorageError Nat) :
    Prop :=
  ∀ place answer, (exchanges.filterMap Exchange.number?)[place]? = some answer →
    answers place = answer

/-- A call for a kind is replied to with the next answer as it was when it had this answer. -/
theorem reply?_of_sweeps (exchange : Exchange requests)
    (hsweeps : settings.Sweeps kind exchange.call) {answer : Except StorageError Nat}
    (hanswer : ∀ number, exchange.number? = some number → answer = number) :
    RequestCall.reply? answer exchange.call = some exchange.reply := by
  obtain ⟨call, reply⟩ := exchange
  rcases call with (call | call | call) | call
  · cases hsweeps
  · rcases hsweeps with rfl | rfl
    · exact congrArg some (hanswer reply rfl)
    · exact congrArg some (hanswer reply rfl)
  · cases hsweeps
  · cases hsweeps
    rfl

/-- What a program asks for a kind, and how it ends, depends on the answers to these calls alone. -/
theorem run_answering {α : Type} {program : Request α} {value : α}
    (h : Program.Follows program exchanges (.done value))
    (hsweeps : ∀ exchange ∈ exchanges, settings.Sweeps kind exchange.call)
    {answers : Nat → Except StorageError Nat} (past : List (Exchange requests))
    (hanswers : Begins (past ++ exchanges) answers) :
    program.run (answering answers) past = (some value, past ++ exchanges) := by
  generalize hdone : (Program.done value : Request α) = rest at h
  induction h generalizing past with
  | start program =>
    subst hdone
    rw [List.append_nil]
    rfl
  | @reply call next reply later rest h ih =>
    obtain ⟨hcall, hlater⟩ := List.forall_mem_cons.1 hsweeps
    have hreply : RequestCall.reply? (answers (past.filterMap Exchange.number?).length) call =
        some reply := by
      refine reply?_of_sweeps ⟨call, reply⟩ hcall ?_
      intro number hnumber
      refine hanswers _ number ?_
      rw [List.filterMap_append, List.filterMap_cons_some hnumber, List.getElem?_append_right
        (Nat.le_refl _), Nat.sub_self]
      rfl
    have hstep : answering answers call past = (some reply, past ++ [⟨call, reply⟩]) := by
      rw [answering, hreply]
    rw [List.append_cons] at hanswers
    rw [Program.run, hstep, List.append_cons past _ later]
    exact ih hlater (past ++ [⟨call, reply⟩]) hanswers hdone

/-! ## A whole sweep -/

/-- The call that asks for the lock of a sweep. -/
def askForLock (settings : SweepSettings) : RequestCall :=
  .store (.keyValue (.setIfAbsent (Lock.keyFor settings.job) Lock.heldValue settings.lockTtl))

/-- The call that releases the lock of a sweep. -/
def releaseLock (settings : SweepSettings) : RequestCall :=
  .store (.keyValue (.delete (Lock.keyFor settings.job)))

/-- Whether a call releases the lock of a sweep. -/
def isRelease (settings : SweepSettings) (call : RequestCall) : Bool :=
  call = releaseLock settings

/-- A call releases the lock if it is the call that does. -/
theorem isRelease_iff {call : RequestCall} :
    isRelease settings call = true ↔ call = releaseLock settings :=
  decide_eq_true_iff

/-- Whether an exchange releases the lock of a sweep. -/
def releasesLock (settings : SweepSettings) (exchange : Exchange requests) : Bool :=
  isRelease settings exchange.call

/-- How many shared entries a sweep reports to have dropped: as many as the call for it answers, and
none if it fails or is not made. -/
def Dropped (purges : Bool) (calls : List (Exchange requests)) (purged : Nat) : Prop :=
  if purges = true then
    ∃ answer : Except StorageError Nat,
      calls = [⟨.store (.keyValue .purge), answer⟩] ∧ purged = numberOf answer
  else calls = [] ∧ purged = 0

/-- Dropping shared entries is reported as it was answered. -/
theorem dropped_purge {purges : Bool} {purged : Nat}
    (h : Program.Follows (if purges then purge else pure 0) exchanges (.done purged)) :
    Dropped purges exchanges purged := by
  cases purges with
  | false =>
    obtain ⟨rfl, hdone⟩ := h.of_done
    cases hdone
    exact ⟨rfl, rfl⟩
  | true =>
    rcases Program.Follows.call_cases h with ⟨-, hrest⟩ | ⟨answer, later, rfl, hlater⟩
    · exact absurd rfl (hrest purged)
    change Except StorageError Nat at answer
    rcases answer with error | count <;>
      obtain ⟨rfl, hdone⟩ := hlater.of_done <;> cases hdone <;> exact ⟨_, rfl, rfl⟩

/-- What a sweep that has its lock does, and what it reports. -/
structure Completed (settings : SweepSettings) (purges : Bool) (calls : List (Exchange requests))
    (outcome : Outcome) : Prop where
  /-- Staff is swept, then customers, then shared entries are dropped, then the lock is released. -/
  parts : ∃ staffCalls customerCalls purgeCalls released staff customers purged,
    calls = staffCalls ++ customerCalls ++ purgeCalls ++ [⟨releaseLock settings, released⟩] ∧
      outcome = .completed ⟨[staff, customers], purged⟩ ∧
      Accounted settings .staff staffCalls staff ∧
      Accounted settings .customer customerCalls customers ∧
      Dropped purges purgeCalls purged ∧
      -- what is called and reported for customers, the answers to these calls alone decide
      ∀ answers, Begins customerCalls answers →
        (sweepKind settings .customer).run (answering answers) [] =
          (some customers, customerCalls)
  /-- The lock is released once. -/
  released_once : calls.countP (releasesLock settings) = 1

/-- Calls for a kind release no lock. -/
theorem Accounted.releases_none {report : KindReport}
    (h : Accounted settings kind exchanges report) :
    exchanges.countP (releasesLock settings) = 0 := by
  refine List.countP_eq_zero.2 ?_
  intro exchange hmem hrelease
  obtain ⟨call, reply⟩ := exchange
  have hsweeps := h.sweeps _ hmem
  obtain rfl : call = releaseLock settings := isRelease_iff.1 hrelease
  exact hsweeps

/-- Dropping shared entries releases no lock. -/
theorem Dropped.releases_none {purges : Bool} {purged : Nat}
    (h : Dropped purges exchanges purged) :
    exchanges.countP (releasesLock settings) = 0 := by
  cases purges with
  | false =>
    obtain ⟨rfl, -⟩ := h
    rfl
  | true =>
    obtain ⟨answer, rfl, -⟩ := h
    rfl

/-- Asking for a lock is one call, which says whether the lock was had. -/
theorem follows_acquire {job : String} {ttl : Duration}
    {outcome : Except StorageError (Option String)}
    (h : Program.Follows (Lock.acquire job ttl) exchanges (.done outcome)) :
    ∃ attempt : Except StorageError Bool,
      exchanges = [⟨.store (.keyValue (.setIfAbsent (Lock.keyFor job) Lock.heldValue ttl)),
        attempt⟩] ∧
        outcome = attempt.map (fun taken => if taken then some (Lock.keyFor job) else none) := by
  rcases h.call_cases with ⟨-, hrest⟩ | ⟨attempt, later, rfl, hlater⟩
  · exact absurd rfl (hrest outcome)
  change Except StorageError Bool at attempt
  rcases attempt with error | _ | _ <;>
    obtain ⟨rfl, hdone⟩ := hlater.of_done <;> cases hdone <;> exact ⟨_, rfl, rfl⟩

/-- A sweep that has its lock sweeps staff and then customers, drops shared entries if it is to, and
releases the lock. -/
theorem follows_sweepLocked {purges : Bool} {outcome : Outcome}
    (h : Program.Follows (sweepLocked settings purges) exchanges (.done outcome)) :
    ∃ staffCalls customerCalls purgeCalls released staff customers purged,
      exchanges = staffCalls ++ customerCalls ++ purgeCalls ++ [⟨releaseLock settings, released⟩] ∧
        outcome = .completed ⟨[staff, customers], purged⟩ ∧
        Program.Follows (sweepKind settings .staff) staffCalls (.done staff) ∧
        Program.Follows (sweepKind settings .customer) customerCalls (.done customers) ∧
        Dropped purges purgeCalls purged := by
  obtain ⟨staff, staffCalls, afterStaff, rfl, hstaff, h⟩ := h.of_bind
  obtain ⟨customers, customerCalls, afterCustomers, rfl, hcustomers, h⟩ := h.of_bind
  have h : Program.Follows ((if purges then purge else pure 0) >>= fun purged =>
      Request.keyValue (.delete (Lock.keyFor settings.job)) >>= fun _ =>
        pure (Outcome.completed ⟨[staff, customers], purged⟩)) afterCustomers (.done outcome) := by
    cases purges <;> exact h
  obtain ⟨purged, purgeCalls, afterPurge, rfl, hpurge, h⟩ := h.of_bind
  rcases h.call_cases with ⟨-, hrest⟩ | ⟨released, nothing, rfl, hlast⟩
  · exact absurd rfl (hrest outcome)
  obtain ⟨rfl, hdone⟩ := hlast.of_done
  cases hdone
  refine ⟨staffCalls, customerCalls, purgeCalls, released, staff, customers, purged, ?_, rfl,
    hstaff, hcustomers, dropped_purge hpurge⟩
  simp only [List.append_assoc]
  rfl

/-- A sweep that has its lock is complete at its end. -/
theorem completed_sweepLocked {purges : Bool} {outcome : Outcome}
    (h : Program.Follows (sweepLocked settings purges) exchanges (.done outcome)) :
    Completed settings purges exchanges outcome := by
  obtain ⟨staffCalls, customerCalls, purgeCalls, released, staff, customers, purged, rfl, rfl,
    hstaff, hcustomers, hdropped⟩ := follows_sweepLocked h
  have hstaff := accounted_sweepKind hstaff
  have hcustomers' := accounted_sweepKind hcustomers
  constructor
  · refine ⟨staffCalls, customerCalls, purgeCalls, released, staff, customers, purged, rfl, rfl,
      hstaff, hcustomers', hdropped, ?_⟩
    intro answers hanswers
    exact run_answering hcustomers hcustomers'.sweeps [] hanswers
  · have hrelease (released : Except StorageError Unit) :
        List.countP (releasesLock settings) [⟨releaseLock settings, released⟩] = 1 :=
      List.countP_singleton.trans (if_pos (isRelease_iff.2 rfl))
    rw [List.countP_append, List.countP_append, List.countP_append, hstaff.releases_none,
      hcustomers'.releases_none, hdropped.releases_none, Nat.zero_add]
    exact hrelease released

/-- Whatever the calls of a sweep are answered, it comes to an end. Its first call asks for the
lock. If this is refused or fails, the sweep is skipped and makes no other call. Otherwise it sweeps
staff and then customers, each as far as the calls for the kind go, drops shared entries, releases
the lock with its last call, and reports what the calls gave. -/
theorem sweep_reported (settings : SweepSettings) (purges : Bool)
    (script : Nat → (call : RequestCall) → call.Reply) :
    ∃ (attempt : Except StorageError Bool) (later : List (Exchange requests)) (outcome : Outcome),
      (runOnce settings purges).run (Program.scripted script) [] =
          (some outcome, ⟨askForLock settings, attempt⟩ :: later) ∧
        (outcome = .skipped ↔ attempt = .ok false ∨ ∃ error, attempt = .error error) ∧
        (outcome = .skipped → later = []) ∧
        (outcome ≠ .skipped → Completed settings purges later outcome) := by
  obtain ⟨outcome, exchanges, hrun, hpath⟩ :=
    Program.run_scripted script (runOnce settings purges) []
  obtain ⟨had, first, later, rfl, hacquire, hpath⟩ := hpath.of_bind
  obtain ⟨attempt, rfl, rfl⟩ := follows_acquire hacquire
  refine ⟨attempt, later, outcome, hrun, ?_⟩
  rcases attempt with error | _ | _
  -- without the lock the sweep is done
  · obtain ⟨rfl, hdone⟩ := hpath.of_done
    cases hdone
    exact ⟨iff_of_true rfl (.inr ⟨error, rfl⟩), fun _ => rfl, fun h => absurd rfl h⟩
  · obtain ⟨rfl, hdone⟩ := hpath.of_done
    cases hdone
    exact ⟨iff_of_true rfl (.inl rfl), fun _ => rfl, fun h => absurd rfl h⟩
  · have hcompleted : Completed settings purges later outcome := completed_sweepLocked hpath
    obtain ⟨_, _, _, _, _, _, _, -, rfl, -⟩ := hcompleted.parts
    refine ⟨iff_of_false (by rintro ⟨⟩) ?_, by rintro ⟨⟩, fun _ => hcompleted⟩
    rintro (⟨⟨⟩⟩ | ⟨_, ⟨⟩⟩)

/-- The count of staff fails, and so does the second batch of customers; the lock was had, and the
rest fails too. -/
example :
    let fails : StorageError := .database "down"
    let script (past : Nat) : (call : RequestCall) → call.Reply
      | .store (.keyValue (.setIfAbsent _ _ _)) => .ok true
      | .store (.session (.countSweepable .customer)) => (.ok 3 : Except StorageError Nat)
      | .store (.session (.deleteSweepable .customer _)) =>
        (if past = 3 then .ok 2 else .error fails : Except StorageError Nat)
      | .store _ => .error fails
      | .outside call => (World.answerOutside .plain ⟨⟨0⟩, ⟨0⟩⟩ 0 call).1
    ((runOnce {} true).run (Program.scripted script) []).1 = some (.completed
      ⟨[{ kind := .staff, failure := some "database error: down" },
        { kind := .customer, found := 3, deleted := 2, batches := 1,
          failure := some "database error: down" }], 0⟩) := by
  rfl

end Sweep

end Gatehouse
