import Gatehouse.Command.Run
import Gatehouse.Proofs.Command.Options
import Gatehouse.Proofs.SweepReports

/-!
# Sweeps that are ordered

The command that sweeps once, in a process whose calls are answered from a script, and what a sweep
deletes that is always answered and whose sessions nobody else deletes: a session that was counted
is there until a batch deletes it. Main statement (`sweep_ordered`): the settings of a sweep are not
checked as those of serving are, so it can be ordered with batches that hold nothing and with a lock
that does not last. A sweep that has its lock deletes no fewer sessions of each kind than it
counted, if its batches hold any, and none otherwise; it ends well in both cases.
-/

namespace Gatehouse

/-! ## What exchanges say -/

namespace RequestCall

/-- How many sessions of a kind a call has deleted. -/
def deletedOf (kind : PrincipalKind) : (call : RequestCall) → call.Reply → Nat
  | .store (.session (.deleteSweepable other _)), .ok (count : Nat) =>
    if other = kind then count else 0
  | _, _ => 0

end RequestCall

namespace Exchange

/-- How many sessions of a kind an exchange has deleted. -/
def deletedOf (kind : PrincipalKind) (exchange : Exchange requests) : Nat :=
  RequestCall.deletedOf kind exchange.call exchange.reply

end Exchange

namespace Sweep

variable {settings : SweepSettings} {kind : PrincipalKind}
  {past first second exchanges : List (Exchange requests)}

/-- How many sessions of a kind are left of those that were counted. -/
def left (kind : PrincipalKind) (past : List (Exchange requests)) : Nat :=
  total (Exchange.counted kind) past - total (Exchange.deletedOf kind) past

/-- A call that deletes a batch deletes as many sessions as the batch holds, or all that are left of
those that were counted, and no more than the batch holds. -/
def TakesItsShare (past : List (Exchange requests)) : (call : RequestCall) → call.Reply → Prop
  | .store (.session (.deleteSweepable kind size)), .ok (deleted : Nat) =>
    min size.toNat (left kind past) ≤ deleted ∧ deleted ≤ size.toNat
  | _, _ => True

/-- Nobody else deletes sessions while exchanges are made, after others: a session that was counted
is there until a batch deletes it. -/
def Undisturbed (past : List (Exchange requests)) : List (Exchange requests) → Prop
  | [] => True
  | exchange :: later =>
    TakesItsShare past exchange.call exchange.reply ∧ Undisturbed (past ++ [exchange]) later

/-- Exchanges are undisturbed if those before some point are and those after it are. -/
theorem undisturbed_append :
    Undisturbed past (first ++ second) ↔
      Undisturbed past first ∧ Undisturbed (past ++ first) second := by
  induction first generalizing past with
  | nil => simp [Undisturbed]
  | cons exchange first ih =>
    rw [List.cons_append, Undisturbed, Undisturbed, ih, and_assoc, List.append_assoc,
      List.singleton_append]

/-- A batch takes away from what is left. -/
theorem left_concat_deleted (size : UInt32) (deleted : Nat) :
    left kind (past ++ [⟨.store (.session (.deleteSweepable kind size)),
      (.ok deleted : Except StorageError Nat)⟩]) = left kind past - deleted := by
  rw [left, left, total_append, total_append, total_cons, total_cons]
  have hcounted : Exchange.counted kind ⟨.store (.session (.deleteSweepable kind size)),
      (.ok deleted : Except StorageError Nat)⟩ = 0 := rfl
  have hdeleted : Exchange.deletedOf kind ⟨.store (.session (.deleteSweepable kind size)),
      (.ok deleted : Except StorageError Nat)⟩ = deleted := if_pos rfl
  rw [hcounted, hdeleted]
  exact Nat.sub_add_eq _ _ _

/-- A pause takes nothing away. -/
theorem left_concat_paused (duration : Duration) :
    left kind (past ++ [⟨.outside (.pause duration), ()⟩]) = left kind past := by
  rw [left, left, total_append, total_append]
  rfl

/-- What batches of a size do undisturbed: if they hold sessions, no fewer are deleted than remained
to be; otherwise none are. -/
structure Clears (size : UInt32) (kind : PrincipalKind) (remaining : Nat)
    (exchanges : List (Exchange requests)) : Prop where
  /-- Batches that hold sessions delete all that are left. -/
  cleared : size ≠ 0 → remaining ≤ total (Exchange.deletedOf kind) exchanges
  /-- Batches that hold no sessions delete nothing. -/
  spared : size = 0 → total (Exchange.deletedOf kind) exchanges = 0

/-- A batch that deletes sessions clears, with what comes after it, what was left before it. -/
theorem Clears.cons {size : UInt32} {deleted remaining : Nat}
    (h : Clears size kind (remaining - deleted) exchanges) (hdeleted : deleted ≠ 0)
    (hmost : deleted ≤ size.toNat) :
    Clears size kind remaining (⟨.store (.session (.deleteSweepable kind size)),
      (.ok deleted : Except StorageError Nat)⟩ :: exchanges) := by
  have htotal : total (Exchange.deletedOf kind) (⟨.store (.session (.deleteSweepable kind size)),
      (.ok deleted : Except StorageError Nat)⟩ :: exchanges) =
        deleted + total (Exchange.deletedOf kind) exchanges :=
    congrArg (· + _) (if_pos rfl)
  constructor
  · intro hsize
    have hcleared := h.cleared hsize
    omega
  · rintro rfl
    exact absurd (Nat.le_zero.1 hmost) hdeleted

/-- A pause neither clears nor spares anything. -/
theorem Clears.paused {size : UInt32} {remaining : Nat} (h : Clears size kind remaining exchanges)
    (duration : Duration) :
    Clears size kind remaining (⟨.outside (.pause duration), ()⟩ :: exchanges) := by
  have htotal : total (Exchange.deletedOf kind) (⟨.outside (.pause duration), ()⟩ :: exchanges) =
      total (Exchange.deletedOf kind) exchanges := Nat.zero_add _
  exact ⟨fun hsize => htotal ▸ h.cleared hsize, fun hsize => htotal ▸ h.spared hsize⟩

/-- Deleting batches undisturbed clears what was left to be deleted. -/
theorem clears_deleteBatches {limit remaining : Nat} {report result : KindReport}
    (h : Program.Follows (deleteBatches settings kind limit remaining report) exchanges
      (.done result))
    (hremaining : left kind past = remaining) (hlimit : remaining ≤ limit)
    (hundisturbed : Undisturbed past exchanges)
    (hanswered : ∀ exchange ∈ exchanges, exchange.failure? = none) :
    Clears settings.batchSize kind remaining exchanges := by
  -- over the number of batches that may still be deleted
  induction limit generalizing past remaining report exchanges with
  | zero =>
    obtain ⟨rfl, -⟩ := h.of_done
    exact ⟨fun _ => hlimit, fun _ => rfl⟩
  | succ limit ih =>
    rcases h.call_cases with ⟨-, hrest⟩ | ⟨reply, later, rfl, hlater⟩
    · exact absurd rfl (hrest result)
    change Except StorageError Nat at reply
    obtain ⟨hfirst, hothers⟩ := List.forall_mem_cons.1 hanswered
    rcases reply with error | deleted
    · cases hfirst
    obtain ⟨⟨hleast, hmost⟩, hundisturbed⟩ := hundisturbed
    rw [hremaining] at hleast
    have hleft := (left_concat_deleted settings.batchSize deleted).trans
      (congrArg (· - deleted) hremaining)
    dsimp only at hlater
    split at hlater
    -- a batch that deletes nothing holds nothing, or nothing was left
    · rename_i hzero
      subst hzero
      obtain ⟨rfl, -⟩ := hlater.of_done
      refine ⟨fun hsize => ?_, fun _ => by cases kind <;> rfl⟩
      have hpositive : settings.batchSize.toNat ≠ 0 := fun heq => hsize (UInt32.toNat_inj.1 heq)
      omega
    rename_i hdeleted
    refine Clears.cons ?_ hdeleted hmost
    split at hlater
    · rename_i hnone
      obtain ⟨rfl, -⟩ := hlater.of_done
      exact ⟨fun _ => Nat.le_of_eq hnone, fun _ => rfl⟩
    split at hlater
    · rcases hlater.call_cases with ⟨-, hrest⟩ | ⟨⟨⟩, further, rfl, hfurther⟩
      · exact absurd rfl (hrest result)
      exact (ih hfurther ((left_concat_paused _).trans hleft) (by omega) hundisturbed.2
        (List.forall_mem_cons.1 hothers).2).paused _
    · exact ih hlater hleft (by omega) hundisturbed hothers

/-! ## A kind that is swept -/

/-- A sum is zero if all that is added is. -/
theorem total_eq_zero_iff {α : Type} {count : α → Nat} {list : List α} :
    total count list = 0 ↔ ∀ element ∈ list, count element = 0 := by
  induction list with
  | nil => exact iff_of_true rfl fun _ hmem => absurd hmem List.not_mem_nil
  | cons head list ih => rw [total_cons, Nat.add_eq_zero_iff, ih, List.forall_mem_cons]

/-- An exchange that does not count sessions of a kind finds none. -/
theorem counted_eq_zero {exchange : Exchange requests} (h : exchange.counts kind = 0) :
    exchange.counted kind = 0 := by
  obtain ⟨(call | call | call) | call, reply⟩ := exchange
  case store.session =>
    cases call with
    | countSweepable other =>
      have hne : other ≠ kind := fun heq => Nat.one_ne_zero ((if_pos heq).symm.trans h)
      rcases reply with error | count
      · rfl
      · exact if_neg hne
    | _ => rfl
  all_goals rfl

/-- An exchange that does not delete sessions of a kind has deleted none. -/
theorem deletedOf_eq_zero {exchange : Exchange requests} (h : exchange.deletes kind = 0) :
    exchange.deletedOf kind = 0 := by
  obtain ⟨(call | call | call) | call, reply⟩ := exchange
  case store.session =>
    cases call with
    | deleteSweepable other size =>
      have hne : other ≠ kind := fun heq => Nat.one_ne_zero ((if_pos heq).symm.trans h)
      rcases reply with error | count
      · rfl
      · exact if_neg hne
    | _ => rfl
  all_goals rfl

/-- Exchanges leave the sessions of a kind alone: they neither count nor delete any. -/
def LeavesAlone (kind : PrincipalKind) (exchanges : List (Exchange requests)) : Prop :=
  ∀ exchange ∈ exchanges, exchange.counts kind = 0 ∧ exchange.deletes kind = 0

namespace LeavesAlone

/-- Exchanges that leave a kind alone do not count it. -/
theorem counts (h : LeavesAlone kind exchanges) : total (Exchange.counts kind) exchanges = 0 :=
  total_eq_zero_iff.2 fun exchange hmem => (h exchange hmem).1

/-- Exchanges that leave a kind alone find none of it. -/
theorem counted (h : LeavesAlone kind exchanges) : total (Exchange.counted kind) exchanges = 0 :=
  total_eq_zero_iff.2 fun exchange hmem => counted_eq_zero (h exchange hmem).1

/-- Exchanges that leave a kind alone delete none of it. -/
theorem deleted (h : LeavesAlone kind exchanges) : total (Exchange.deletedOf kind) exchanges = 0 :=
  total_eq_zero_iff.2 fun exchange hmem => deletedOf_eq_zero (h exchange hmem).2

/-- Calls for another kind leave a kind alone. -/
theorem of_sweeps {other : PrincipalKind} (hne : other ≠ kind)
    (hsweeps : ∀ exchange ∈ exchanges, settings.Sweeps other exchange.call) :
    LeavesAlone kind exchanges := by
  intro exchange hmem
  obtain ⟨call, reply⟩ := exchange
  have hcall := hsweeps _ hmem
  rcases call with (call | call | call) | call
  · cases hcall
  · rcases hcall with rfl | rfl
    · exact ⟨if_neg hne, rfl⟩
    · exact ⟨rfl, if_neg hne⟩
  · cases hcall
  · exact ⟨rfl, rfl⟩

end LeavesAlone

/-- What an undisturbed sweep does with a kind: it counts it once, and clears what it counted. -/
structure Swept (size : UInt32) (kind : PrincipalKind) (exchanges : List (Exchange requests)) :
    Prop where
  /-- The kind is counted once. -/
  counted_once : total (Exchange.counts kind) exchanges = 1
  /-- What was counted is cleared. -/
  clears : Clears size kind (total (Exchange.counted kind) exchanges) exchanges

/-- A kind stays swept if it is left alone before and afterwards. -/
theorem Swept.amid {size : UInt32} {third : List (Exchange requests)} (h : Swept size kind second)
    (hbefore : LeavesAlone kind first) (hafter : LeavesAlone kind third) :
    Swept size kind (first ++ second ++ third) := by
  have hdeleted : total (Exchange.deletedOf kind) (first ++ second ++ third) =
      total (Exchange.deletedOf kind) second := by
    rw [total_append, total_append, hbefore.deleted, hafter.deleted, Nat.zero_add, Nat.add_zero]
  constructor
  · rw [total_append, total_append, hbefore.counts, hafter.counts, h.counted_once]
  · rw [total_append, total_append, hbefore.counted, hafter.counted, Nat.zero_add, Nat.add_zero]
    exact ⟨fun hsize => hdeleted ▸ h.clears.cleared hsize,
      fun hsize => hdeleted ▸ h.clears.spared hsize⟩

/-- Sweeping a kind undisturbed clears what is counted. -/
theorem swept_sweepKind {report : KindReport}
    (h : Program.Follows (sweepKind settings kind) exchanges (.done report))
    (halone : LeavesAlone kind past) (hundisturbed : Undisturbed past exchanges)
    (hanswered : ∀ exchange ∈ exchanges, exchange.failure? = none) :
    Swept settings.batchSize kind exchanges := by
  rcases h.call_cases with ⟨-, hrest⟩ | ⟨reply, later, rfl, hlater⟩
  · exact absurd rfl (hrest report)
  change Except StorageError Nat at reply
  obtain ⟨hfirst, hothers⟩ := List.forall_mem_cons.1 hanswered
  rcases reply with error | found
  · cases hfirst
  have hcounts : Exchange.counts kind ⟨.store (.session (.countSweepable kind)),
      (.ok found : Except StorageError Nat)⟩ = 1 := if_pos rfl
  have hcounted : Exchange.counted kind ⟨.store (.session (.countSweepable kind)),
      (.ok found : Except StorageError Nat)⟩ = found := if_pos rfl
  have hbatches : total (Exchange.counts kind) later = 0 ∧
      Clears settings.batchSize kind found later := by
    dsimp only at hlater
    split at hlater
    · rename_i hzero
      obtain ⟨rfl, -⟩ := hlater.of_done
      exact ⟨rfl, fun _ => Nat.le_of_eq hzero, fun _ => rfl⟩
    · refine ⟨(deleteBatches_follows hlater).1.counts kind, ?_⟩
      refine clears_deleteBatches hlater ?_ (Nat.le_refl found) hundisturbed.2 hothers
      rw [left, total_append, total_append, halone.counted, halone.deleted, Nat.zero_add,
        total_cons, hcounted]
      exact Nat.sub_zero _
  have hnone : total (Exchange.counted kind) later = 0 :=
    total_eq_zero_iff.2 fun exchange hmem =>
      counted_eq_zero (total_eq_zero_iff.1 hbatches.1 exchange hmem)
  constructor
  · rw [total_cons, hcounts, hbatches.1]
  · rw [total_cons, hcounted, hnone, Nat.add_zero]
    exact ⟨fun hsize => Nat.le_trans (hbatches.2.cleared hsize) (Nat.le_add_left _ _),
      fun hsize => (Nat.zero_add _).trans (hbatches.2.spared hsize)⟩

/-! ## A sweep that is answered -/

/-- Asking for a lock and releasing it leaves every kind alone. -/
theorem leavesAlone_keyValue (call : KeyValue.Call) (reply : Except StorageError call.Value) :
    LeavesAlone kind [⟨.store (.keyValue call), reply⟩] := by
  intro exchange hmem
  rw [List.mem_singleton.1 hmem]
  exact ⟨rfl, rfl⟩

/-- Dropping shared entries leaves every kind alone. -/
theorem Dropped.leavesAlone {purges : Bool} {purged : Nat} (h : Dropped purges exchanges purged) :
    LeavesAlone kind exchanges := by
  cases purges with
  | false =>
    obtain ⟨rfl, -⟩ := h
    exact fun _ hmem => absurd hmem List.not_mem_nil
  | true =>
    obtain ⟨answer, rfl, -⟩ := h
    exact leavesAlone_keyValue _ _

/-- Exchanges after others that leave a kind alone. -/
theorem LeavesAlone.append (h : LeavesAlone kind first) (h' : LeavesAlone kind second) :
    LeavesAlone kind (first ++ second) :=
  fun exchange hmem => (List.mem_append.1 hmem).elim (h exchange) (h' exchange)

/-- A kind whose calls are all answered is reported without a failure. -/
theorem Accounted.failure_none {report : KindReport} (h : Accounted settings kind exchanges report)
    (hanswered : ∀ exchange ∈ exchanges, exchange.failure? = none) :
    report.failure.isSome = false := by
  rw [← Bool.not_eq_true, h.failure_iff]
  rintro ⟨exchange, hmem, hfailure⟩
  rw [hanswered exchange hmem] at hfailure
  cases hfailure

/-- A sweep that has its lock, is answered always and is not disturbed reports no failure, and
sweeps each kind. -/
theorem swept_runOnce {purges : Bool} {outcome : Outcome}
    (h : Program.Follows (runOnce settings purges) exchanges (.done outcome))
    (hlock : ⟨askForLock settings, (.ok true : Except StorageError Bool)⟩ ∈ exchanges)
    (hanswered : ∀ exchange ∈ exchanges, exchange.failure? = none)
    (hundisturbed : Undisturbed [] exchanges) :
    outcome.hasFailures = false ∧ ∀ kind, Swept settings.batchSize kind exchanges := by
  obtain ⟨had, first, later, rfl, hacquire, hpath⟩ := h.of_bind
  obtain ⟨attempt, rfl, rfl⟩ := follows_acquire hacquire
  rcases attempt with error | _ | _
  -- without the lock there is no exchange that grants it
  · obtain ⟨rfl, -⟩ := hpath.of_done
    cases List.mem_singleton.1 hlock
  · obtain ⟨rfl, -⟩ := hpath.of_done
    cases List.mem_singleton.1 hlock
  obtain ⟨staffCalls, customerCalls, purgeCalls, released, staff, customers, purged, rfl, rfl,
    hstaff, hcustomers, hdropped⟩ := follows_sweepLocked hpath
  simp only [List.forall_mem_append] at hanswered
  obtain ⟨-, ⟨⟨hstaffAnswered, hcustomersAnswered⟩, -⟩, -⟩ := hanswered
  simp only [undisturbed_append] at hundisturbed
  obtain ⟨-, ⟨⟨hstaffAlone, hcustomersAlone⟩, -⟩, -⟩ := hundisturbed
  have hstaffCalls := accounted_sweepKind hstaff
  have hcustomerCalls := accounted_sweepKind hcustomers
  have hask (kind : PrincipalKind) : LeavesAlone kind
      [⟨askForLock settings, (.ok true : Except StorageError Bool)⟩] := leavesAlone_keyValue _ _
  have hrelease (kind : PrincipalKind) : LeavesAlone kind [⟨releaseLock settings, released⟩] :=
    leavesAlone_keyValue _ _
  constructor
  · simp [Outcome.hasFailures, Report.hasFailures, hstaffCalls.failure_none hstaffAnswered,
      hcustomerCalls.failure_none hcustomersAnswered]
  intro kind
  cases kind with
  | staff =>
    have hswept := swept_sweepKind hstaff (hask .staff) hstaffAlone hstaffAnswered
    have halone : LeavesAlone .staff customerCalls :=
      LeavesAlone.of_sweeps (by decide) hcustomerCalls.sweeps
    have hafter := (halone.append hdropped.leavesAlone).append (hrelease .staff)
    have hall := hswept.amid (hask .staff) hafter
    simp only [List.append_assoc] at hall ⊢
    exact hall
  | customer =>
    have halone : LeavesAlone .customer staffCalls :=
      LeavesAlone.of_sweeps (by decide) hstaffCalls.sweeps
    have hbefore := (hask .customer).append halone
    have hswept := swept_sweepKind hcustomers hbefore hcustomersAlone hcustomersAnswered
    have hall := hswept.amid hbefore (hdropped.leavesAlone.append (hrelease .customer))
    simp only [List.append_assoc] at hall ⊢
    exact hall

end Sweep

namespace Command

/-! ## What a process is asked -/

/-- The exchange of a request as one of a process. -/
def ofRequest (exchange : Exchange requests) : Exchange process :=
  ⟨.request exchange.call, exchange.reply⟩

/-- The exchange of a request, if an exchange of a process is one. -/
def request? : Exchange process → Option (Exchange requests)
  | ⟨.request call, reply⟩ => some ⟨call, reply⟩
  | _ => none

/-- The exchanges of requests among those of a process. -/
def requestsOf (exchanges : List (Exchange process)) : List (Exchange requests) :=
  exchanges.filterMap request?

/-- The exchange of a line that is printed. -/
def printed (line : String) : Exchange process := ⟨.print line, ()⟩

/-- The failure of a call that a command makes to its stores. -/
def failure? : (call : ProcessCall) → call.Reply → Option StorageError
  | .openStores _, .error error => some error
  | .statement _, .error (fault : Sql.Fault) => some fault.storageError
  | .request call, reply => RequestCall.failure? call reply
  | _, _ => none

variable {α : Type} {exchanges : List (Exchange process)}

/-- A path through a call is the exchange of the call. -/
theorem follows_call {call : ProcessCall} {outcome : Except Abort call.Reply}
    (h : Program.Follows (Procedure.call call).run exchanges (.done outcome)) :
    ∃ reply, exchanges = [⟨call, reply⟩] ∧ outcome = .ok reply := by
  rcases Program.Follows.call_cases h with ⟨-, hrest⟩ | ⟨reply, later, rfl, hlater⟩
  · exact absurd rfl (hrest outcome)
  · obtain ⟨rfl, hdone⟩ := hlater.of_done
    cases hdone
    exact ⟨reply, rfl, rfl⟩

/-- A path through a request that a process works on is one through the request. -/
theorem follows_interpret {request : Request α} {value : α}
    (h : Program.Follows (request.interpret fun call =>
      Program.call (I := process) (.request call)) exchanges (.done value)) :
    ∃ calls, exchanges = calls.map ofRequest ∧ Program.Follows request calls (.done value) := by
  induction request generalizing exchanges with
  | done value =>
    obtain ⟨rfl, hdone⟩ := h.of_done
    cases hdone
    exact ⟨[], rfl, .start _⟩
  | ask call next ih =>
    rcases Program.Follows.call_cases h with ⟨-, hrest⟩ | ⟨reply, later, rfl, hlater⟩
    · exact absurd rfl (hrest value)
    · obtain ⟨calls, rfl, hcalls⟩ := ih reply hlater
      exact ⟨⟨call, reply⟩ :: calls, rfl, .reply hcalls⟩

/-- A process that works on a request makes its calls and cannot be given up. -/
theorem follows_request {request : Request α} {outcome : Except Abort α}
    (h : Program.Follows (Procedure.request request).run exchanges (.done outcome)) :
    ∃ calls value, exchanges = calls.map ofRequest ∧ outcome = .ok value ∧
      Program.Follows request calls (.done value) := by
  obtain ⟨value, first, second, rfl, hfirst, hsecond⟩ := Program.Follows.of_bind h
  obtain ⟨calls, rfl, hcalls⟩ := follows_interpret hfirst
  cases hsecond
  exact ⟨calls, value, List.append_nil _, rfl, hcalls⟩

/-- A path that prints lines prints each of them. -/
theorem follows_prints {lines : List String} {outcome : Except Abort Unit}
    (h : Program.Follows (lines.forM Procedure.print).run exchanges (.done outcome)) :
    exchanges = lines.map printed ∧ outcome = .ok () := by
  induction lines generalizing exchanges with
  | nil =>
    obtain ⟨rfl, hdone⟩ := Program.Follows.of_done h
    cases hdone
    exact ⟨rfl, rfl⟩
  | cons line lines ih =>
    have h : Program.Follows (Procedure.print line >>= fun _ => lines.forM Procedure.print).run
        exchanges (.done outcome) := h
    rcases h.of_except_bind with ⟨error, -, hprint⟩ | ⟨_, first, second, rfl, hprint, hlines⟩
    · obtain ⟨_, _, hok⟩ := follows_call hprint
      cases hok
    · obtain ⟨_, rfl, -⟩ := follows_call hprint
      obtain ⟨rfl, rfl⟩ := ih hlines
      exact ⟨rfl, rfl⟩

/-- Connecting to the database is one call, and what it gives. -/
theorem follows_openStores {database : Sql.Settings} {outcome : Except Abort Unit}
    (h : Program.Follows (Procedure.openStores database).run exchanges (.done outcome)) :
    ∃ reply : Except StorageError Unit, exchanges = [⟨.openStores database, reply⟩] ∧
      outcome = reply.mapError Procedure.storeAbort := by
  rcases h.of_except_bind with ⟨error, -, hcall⟩ | ⟨reply, first, second, rfl, hcall, hreply⟩
  · obtain ⟨_, _, hok⟩ := follows_call hcall
    cases hok
  · obtain ⟨_, rfl, hok⟩ := follows_call hcall
    cases hok
    change Except StorageError Unit at reply
    rcases reply with error | _ <;>
      obtain ⟨rfl, hdone⟩ := Program.Follows.of_done hreply <;> cases hdone <;>
        exact ⟨_, rfl, rfl⟩

/-- A sweep that is ordered connects to the database; once it is connected, it sweeps and prints
what the sweep did, and is given up at last if there were failures. -/
theorem follows_sweep {database : Sql.Settings} {settings : SweepSettings}
    {outcome : Except Abort Unit}
    (h : Program.Follows (sweep database settings).run exchanges (.done outcome)) :
    (∃ error, exchanges = [⟨.openStores database, (.error error : Except StorageError Unit)⟩] ∧
        outcome = .error (Procedure.storeAbort error)) ∨
      ∃ calls swept, exchanges = ⟨.openStores database, (.ok () : Except StorageError Unit)⟩ ::
          (calls.map ofRequest ++ swept.lines.map printed) ∧
        Program.Follows (Sweep.runOnce settings true) calls (.done swept) ∧
        outcome = if swept.hasFailures then .error ⟨"sweep finished with errors", none⟩
          else .ok () := by
  rcases h.of_except_bind with ⟨abort, rfl, hopen⟩ | ⟨_, first, later, rfl, hopen, hlater⟩
  · obtain ⟨error | _, rfl, hreply⟩ := follows_openStores hopen
    · cases hreply
      exact .inl ⟨error, rfl, rfl⟩
    · cases hreply
  obtain ⟨error | _, rfl, hreply⟩ := follows_openStores hopen
  · cases hreply
  rcases hlater.of_except_bind with ⟨abort, -, hsweep⟩ | ⟨swept, _, last, rfl, hsweep, hlast⟩
  · obtain ⟨_, _, _, hok, _⟩ := follows_request hsweep
    cases hok
  obtain ⟨calls, _, rfl, hok, hcalls⟩ := follows_request hsweep
  cases hok
  rcases hlast.of_except_bind with ⟨abort, -, hprint⟩ | ⟨_, _, rest, rfl, hprint, hrest⟩
  · cases (follows_prints hprint).2
  obtain ⟨rfl, -⟩ := follows_prints hprint
  refine .inr ⟨calls, swept, ?_⟩
  by_cases hfailures : swept.hasFailures = true
  · rw [if_pos hfailures] at hrest ⊢
    obtain ⟨rfl, hdone⟩ := Program.Follows.of_done hrest
    cases hdone
    exact ⟨by simp, hcalls, rfl⟩
  · rw [if_neg hfailures] at hrest ⊢
    obtain ⟨rfl, hdone⟩ := Program.Follows.of_done hrest
    cases hdone
    exact ⟨by simp, hcalls, rfl⟩

/-- The program that is to sweep once does so, and ends as the sweep does. -/
theorem follows_execute {environment : Environment} {arguments : List String}
    {invocation : Invocation} {settings : SweepSettings} {database : Sql.Settings} {ending : Ending}
    (hread : Invocation.read environment arguments = .ok invocation)
    (horder : invocation.order = .sweep settings)
    (hdatabase : invocation.databaseSettings environment = .ok database)
    (h : Program.Follows (execute environment arguments) exchanges (.done ending)) :
    ∃ outcome, Program.Follows (sweep database settings).run exchanges (.done outcome) ∧
      ending = match outcome with
        | .ok () => .done
        | .error abort => .aborted abort := by
  rw [execute, hread] at h
  obtain ⟨outcome, first, last, rfl, hsweep, hlast⟩ := Program.Follows.of_bind h
  rw [Invocation.run, horder, hdatabase] at hsweep
  refine ⟨outcome, ?_, ?_⟩
  all_goals
    rcases outcome with abort | _ <;> obtain ⟨rfl, hdone⟩ := Program.Follows.of_done hlast <;>
      cases hdone
  · exact (List.append_nil first).symm ▸ hsweep
  · exact (List.append_nil first).symm ▸ hsweep
  · rfl
  · rfl

/-- The exchanges of the requests that a process worked on are those of the requests. -/
theorem requestsOf_sweep (database : Sql.Settings) (calls : List (Exchange requests))
    (lines : List String) :
    requestsOf (⟨.openStores database, (.ok () : Except StorageError Unit)⟩ ::
      (calls.map ofRequest ++ lines.map printed)) = calls := by
  have hcalls : (calls.map ofRequest).filterMap request? = calls := by
    rw [List.filterMap_map]
    exact List.filterMap_some
  have hlines : (lines.map printed).filterMap request? = [] := by
    rw [List.filterMap_map]
    exact List.filterMap_eq_nil_iff.2 fun _ _ => rfl
  change (calls.map ofRequest ++ lines.map printed).filterMap request? = calls
  rw [List.filterMap_append, hcalls, hlines, List.append_nil]

/-- Which settings a sweep can be ordered with, and what it does. It can be any settings in range,
while serving starts only with those by which batches hold sessions and the lock lasts. Whatever the
calls of the process are answered, the program comes to an end. If the sweep gets its lock, all
calls are answered and nobody else deletes, it ends well and counts each kind once: then no fewer
sessions of the kind are deleted than were counted, if batches hold any, and none otherwise. -/
theorem sweep_ordered (settings : SweepSettings) :
    (SweepsWith settings ↔ InRange settings) ∧
      (ServesWith settings ↔
        SweepsWith settings ∧ settings.batchSize ≠ 0 ∧ 0 < settings.lockTtl.nanos) ∧
      ∀ environment arguments invocation database,
        Invocation.read environment arguments = .ok invocation →
        invocation.order = .sweep settings →
        invocation.databaseSettings environment = .ok database →
        ∀ script : Nat → (call : ProcessCall) → call.Reply, ∃ ending exchanges,
          (execute environment arguments).run (Program.scripted script) [] =
              (some ending, exchanges) ∧
            (⟨Sweep.askForLock settings, (.ok true : Except StorageError Bool)⟩ ∈
                requestsOf exchanges →
              (∀ exchange ∈ exchanges, failure? exchange.call exchange.reply = none) →
              Sweep.Undisturbed [] (requestsOf exchanges) →
              ending.status = 0 ∧
                ∀ kind, Sweep.Swept settings.batchSize kind (requestsOf exchanges)) := by
  refine ⟨sweepsWith_iff, servesWith_iff.trans (and_congr_left' sweepsWith_iff.symm), ?_⟩
  intro environment arguments invocation database hread horder hdatabase script
  obtain ⟨ending, exchanges, hrun, hpath⟩ :=
    Program.run_scripted script (execute environment arguments) []
  refine ⟨ending, exchanges, hrun, fun hlock hanswered hundisturbed => ?_⟩
  obtain ⟨outcome, hsweep, rfl⟩ := follows_execute hread horder hdatabase hpath
  rcases follows_sweep hsweep with ⟨error, rfl, rfl⟩ | ⟨calls, swept, rfl, hcalls, rfl⟩
  · cases hlock
  rw [requestsOf_sweep] at hlock hundisturbed ⊢
  have hcallsAnswered : ∀ exchange ∈ calls, exchange.failure? = none := by
    intro exchange hmem
    exact hanswered (ofRequest exchange)
      (List.mem_cons_of_mem _ (List.mem_append_left _ (List.mem_map_of_mem hmem)))
  obtain ⟨hnone, hswept⟩ := Sweep.swept_runOnce hcalls hlock hcallsAnswered hundisturbed
  rw [hnone]
  exact ⟨rfl, hswept⟩

/-- The answers to a sweep that finds dead sessions of staff and none of customers; `deleted` says
how many a batch deletes that comes after a number of calls. Everything else that may fail does. -/
def plainScript (found : Nat) (deleted : Nat → Nat) (past : Nat) :
    (call : ProcessCall) → call.Reply
  | .print _ => ()
  | .readLine => []
  | .readFile _ => (.error .missing : FileContent)
  | .openStores _ => (.ok () : Except StorageError Unit)
  | .statement made => (.error .closed : Except Sql.Fault (Sql.Answer made.Row))
  | .request (.store (.keyValue (.setIfAbsent _ _ _))) => (.ok true : Except StorageError Bool)
  | .request (.store (.keyValue .purge)) => (.ok 0 : Except StorageError Nat)
  | .request (.store (.keyValue (.delete _))) => (.ok () : Except StorageError Unit)
  | .request (.store (.session (.countSweepable .staff))) => (.ok found : Except StorageError Nat)
  | .request (.store (.session (.countSweepable .customer))) => (.ok 0 : Except StorageError Nat)
  | .request (.store (.session (.deleteSweepable _ _))) =>
    (.ok (deleted past) : Except StorageError Nat)
  | .request (.store call) => (.error (.database "down") : Except StorageError call.Value)
  | .request (.outside call) => (World.answerOutside .plain ⟨⟨0⟩, ⟨0⟩⟩ 0 call).1
  | .listen _ _ => ()

/-- An environment with nothing but the address of a database. -/
def plainEnvironment : Environment := fun name =>
  if name = "DATABASE_URL" then some "postgres://salon@localhost/salon" else none

/-- A sweep in batches of two that finds three dead sessions of staff deletes them all. -/
theorem sweep_ordered_plain :
    ∃ invocation database exchanges,
      Invocation.read plainEnvironment ["sweep", "--batch-size", "2", "--pause-ms", "0"] =
          .ok invocation ∧
        invocation.order = .sweep { batchSize := 2, pause := .ofMillis 0 } ∧
        invocation.databaseSettings plainEnvironment = .ok database ∧
        (execute plainEnvironment ["sweep", "--batch-size", "2", "--pause-ms", "0"]).run
            (Program.scripted (plainScript 3 fun past => if past = 3 then 2 else 1)) [] =
          (some .done, exchanges) ∧
        total (Exchange.counted .staff) (requestsOf exchanges) = 3 ∧
        3 ≤ total (Exchange.deletedOf .staff) (requestsOf exchanges) := by
  obtain ⟨-, -, hall⟩ := sweep_ordered { batchSize := 2, pause := .ofMillis 0 }
  obtain ⟨ending, exchanges, hrun, hswept⟩ := hall plainEnvironment
    ["sweep", "--batch-size", "2", "--pause-ms", "0"] _ _ rfl rfl rfl
    (plainScript 3 fun past => if past = 3 then 2 else 1)
  cases hrun
  obtain ⟨-, hstaff⟩ := hswept (List.Mem.head _) (by decide)
    ⟨trivial, trivial, ⟨by decide, by decide⟩, ⟨by decide, by decide⟩, trivial, trivial, trivial,
      trivial⟩
  exact ⟨_, _, _, rfl, rfl, rfl, rfl, rfl, (hstaff .staff).clears.cleared (by decide)⟩

/-- A sweep is ordered with batches that hold nothing. Serving is refused with these settings, but
the sweep takes its lock, counts five dead sessions of staff, deletes none of them and ends well,
though all calls are answered and nobody else deletes. -/
theorem empty_batches_ordered :
    ∃ invocation settings exchanges,
      Invocation.read plainEnvironment ["sweep", "--batch-size", "0"] = .ok invocation ∧
        invocation.order = .sweep settings ∧ ¬ ServesWith settings ∧
        (execute plainEnvironment ["sweep", "--batch-size", "0"]).run
            (Program.scripted (plainScript 5 fun _ => 0)) [] = (some .done, exchanges) ∧
        ⟨Sweep.askForLock settings, (.ok true : Except StorageError Bool)⟩ ∈
          requestsOf exchanges ∧
        (∀ exchange ∈ exchanges, failure? exchange.call exchange.reply = none) ∧
        Sweep.Undisturbed [] (requestsOf exchanges) ∧
        total (Exchange.counted .staff) (requestsOf exchanges) = 5 ∧
        total (Exchange.deletedOf .staff) (requestsOf exchanges) = 0 := by
  refine ⟨_, { batchSize := 0 }, _, rfl, rfl, fun hserves => ?_, rfl, ?_, ?_, ?_, rfl, rfl⟩
  · exact (servesWith_iff.1 hserves).2.1 rfl
  · exact List.Mem.head _
  · decide
  · exact ⟨trivial, trivial, ⟨by decide, by decide⟩, trivial, trivial, trivial, trivial⟩

end Command

end Gatehouse
