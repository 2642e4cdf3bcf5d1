import Gatehouse.Proofs.History
import Gatehouse.Proofs.Schedule
import Gatehouse.Proofs.Session
import Gatehouse.Sweep

/-!
# Sweeps that overlap

Any number of sweeps over one table of sessions, each at its own pace, while sessions are stored,
found and revoked, time passes and the rows come to stand in other orders. What a sweep counted goes
stale as others delete, so it may find less than it counted, or more. Main statement: this does no
harm (`sweeps_overlap`). No live session is deleted, every session that is deleted is counted by one
sweep, and a sweep of a kind makes no more deletions than it counted sessions, so that it ends
whatever the others do.
-/

namespace Gatehouse

/-- The sum of what is counted over a list. -/
def total {α : Type} (count : α → Nat) (list : List α) : Nat := (list.map count).foldr (· + ·) 0

section

variable {α : Type} {count : α → Nat}

/-- The first one counts before the others. -/
theorem total_cons (first : α) (list : List α) :
    total count (first :: list) = count first + total count list := rfl

/-- Two lists count as much as both together. -/
theorem total_append (first second : List α) :
    total count (first ++ second) = total count first + total count second := by
  induction first with
  | nil => exact (Nat.zero_add _).symm
  | cons head first ih => rw [List.cons_append, total_cons, total_cons, ih, Nat.add_assoc]

/-- Putting something in the place of what counts less by `more` adds `more`. -/
theorem total_set {list : List α} {number : Nat} {old new : α} {more : Nat}
    (h : list[number]? = some old) (hnew : count new = count old + more) :
    total count (list.set number new) = total count list + more := by
  induction list generalizing number with
  | nil => cases h
  | cons head list ih =>
    cases number with
    | zero =>
      cases h
      rw [List.set_cons_zero, total_cons, total_cons, hnew]
      omega
    | succ number =>
      rw [List.set_cons_succ, total_cons, total_cons, ih h, Nat.add_assoc]

end

/-! ## What calls say -/

namespace RequestCall

/-- How many sessions of a kind a call has counted. -/
def counted (kind : PrincipalKind) : (call : RequestCall) → call.Reply → Nat
  | .store (.session (.countSweepable other)), .ok (count : Nat) =>
    if other = kind then count else 0
  | _, _ => 0

/-- How many sessions a call has deleted. -/
def deleted : (call : RequestCall) → call.Reply → Nat
  | .store (.session (.deleteSweepable _ _)), .ok (count : Nat) => count
  | _, _ => 0

/-- One if a call counts the sessions of a kind. -/
def counts (kind : PrincipalKind) : RequestCall → Nat
  | .store (.session (.countSweepable other)) => if other = kind then 1 else 0
  | _ => 0

/-- One if a call deletes sessions of a kind. -/
def deletes (kind : PrincipalKind) : RequestCall → Nat
  | .store (.session (.deleteSweepable other _)) => if other = kind then 1 else 0
  | _ => 0

end RequestCall

/-! ## Sessions that are lost -/

namespace Session.Table

/-- The rows of a table whose names are gone in another one. -/
def lost (before after : Table) : List Row :=
  before.rows.filter (fun row => (after.row? row.kind row.token).isNone)

variable {table after : Table} {kind : PrincipalKind} {now : Timestamp}

/-- A row is lost if no row has its name any more. -/
theorem mem_lost {row : Row} :
    row ∈ table.lost after ↔
      row ∈ table.rows ∧
        ∀ other ∈ after.rows, ¬ (other.kind = row.kind ∧ other.token = row.token) := by
  simp only [lost, List.mem_filter, Option.isNone_iff_eq_none, row?_eq_none_iff,
    Bool.eq_false_iff, ne_eq, Row.isNamed_iff]

/-- Nothing is lost where every name is still there. -/
theorem lost_eq_nil
    (h : ∀ row ∈ table.rows,
      ∃ other ∈ after.rows, other.kind = row.kind ∧ other.token = row.token) :
    table.lost after = [] := by
  refine List.eq_nil_iff_forall_not_mem.2 ?_
  intro row hlost
  obtain ⟨hmem, hgone⟩ := mem_lost.1 hlost
  obtain ⟨other, hother, hnamed⟩ := h row hmem
  exact hgone other hother hnamed

/-- Nothing is lost where the rows come to stand in another order. -/
theorem lost_of_perm (hrows : after.rows.Perm table.rows) : table.lost after = [] :=
  lost_eq_nil (fun row hmem => ⟨row, hrows.mem_iff.2 hmem, rfl, rfl⟩)

/-- A table loses nothing to itself. -/
theorem lost_self (table : Table) : table.lost table = [] := lost_of_perm (.refl _)

/-- Of distinct rows, some of which are kept, those that are lost and those that are kept are all. -/
theorem lost_append_perm (hdistinct : table.Distinct) (hsub : after.rows.Sublist table.rows) :
    (table.lost after ++ after.rows).Perm table.rows := by
  have hlost : ∀ row ∈ table.lost after, row ∉ after.rows :=
    fun row hmem hkept => (mem_lost.1 hmem).2 row hkept ⟨rfl, rfl⟩
  have hnodup : (table.lost after ++ after.rows).Nodup := by
    refine List.nodup_append.2 ⟨hdistinct.nodup.filter _, hdistinct.nodup.sublist hsub, ?_⟩
    rintro row hmem _ hkept rfl
    exact hlost row hmem hkept
  refine (List.perm_ext_iff_of_nodup hnodup hdistinct.nodup).2 fun row => ?_
  rw [List.mem_append]
  constructor
  · rintro (hmem | hmem)
    · exact (mem_lost.1 hmem).1
    · exact hsub.subset hmem
  · intro hmem
    by_cases hkept : row ∈ after.rows
    · exact .inr hkept
    -- a row with the same name that is kept would be the same row
    · refine .inl (mem_lost.2 ⟨hmem, fun other hother hname => hkept ?_⟩)
      rw [← hdistinct.eq_of_named (hsub.subset hother) hmem hname]
      exact hother

/-- Deleting the first rows for which a test holds deletes as many as there are, up to the limit. -/
theorem deleteFirst_count (test : Row → Bool) (limit : Nat) (rows : List Row) :
    (deleteFirst test limit rows).1 = min limit (rows.countP test) := by
  induction rows generalizing limit with
  | nil => cases limit <;> simp [deleteFirst]
  | cons row rows ih =>
    cases limit with
    | zero => simp [deleteFirst]
    | succ limit =>
      rw [deleteFirst]
      split
      · rename_i htest
        have hrest := ih limit
        rw [List.countP_cons_of_pos htest]
        dsimp only
        omega
      · rename_i htest
        rw [List.countP_cons_of_neg htest]
        exact ih (limit + 1)

/-- Deleting the first rows for which a test holds counts the rows that are missing. -/
theorem deleteFirst_length (test : Row → Bool) (limit : Nat) (rows : List Row) :
    (deleteFirst test limit rows).1 + (deleteFirst test limit rows).2.length = rows.length := by
  induction rows generalizing limit with
  | nil => cases limit <;> rfl
  | cons row rows ih =>
    cases limit with
    | zero => exact Nat.zero_add _
    | succ limit =>
      rw [deleteFirst]
      split
      · have hrest := ih limit
        simp only [List.length_cons]
        omega
      · have hrest := ih (limit + 1)
        simp only [List.length_cons]
        omega

/-- Deleting sessions loses some of the rows and leaves the others. -/
theorem lost_deleteSweepable_perm (h : table.Distinct) (batchSize : UInt32) :
    (table.lost (table.deleteSweepable now kind batchSize).2 ++
      (table.deleteSweepable now kind batchSize).2.rows).Perm table.rows :=
  lost_append_perm h (deleteFirst_sublist _ _ _)

/-- Deleting sessions loses as many as it counts, all of which may be deleted. -/
theorem lost_deleteSweepable (h : table.Distinct) (batchSize : UInt32) :
    (table.lost (table.deleteSweepable now kind batchSize).2).length =
        (table.deleteSweepable now kind batchSize).1 ∧
      ∀ row ∈ table.lost (table.deleteSweepable now kind batchSize).2,
        row.isVictim kind now = true := by
  constructor
  · have hlost : (table.lost (table.deleteSweepable now kind batchSize).2 ++
        (table.deleteSweepable now kind batchSize).2.rows).length = table.rows.length :=
      (lost_deleteSweepable_perm h batchSize).length_eq
    have hcount := deleteFirst_length (fun row => row.isVictim kind now) batchSize.toNat table.rows
    rw [List.length_append] at hlost
    simp only [deleteSweepable] at hlost ⊢
    omega
  · intro row hlost
    obtain ⟨hmem, hgone⟩ := mem_lost.1 hlost
    -- a session that may not be deleted would still be there
    refine Decidable.byContradiction fun hspared => ?_
    have hkept : row ∈ (table.deleteSweepable now kind batchSize).2.rows :=
      mem_deleteFirst hmem (Bool.eq_false_iff.2 hspared) batchSize.toNat
    exact hgone row hkept ⟨rfl, rfl⟩

/-- Only deleting loses sessions: as many as it counts, and none that is live. -/
theorem lost_answer (h : table.Distinct) (now : Timestamp) (call : Call) :
    (table.answer now call).2.Distinct ∧
      (table.lost (table.answer now call).2).length =
          RequestCall.deleted (.store (.session call)) (table.answer now call).1 ∧
        ∀ row ∈ table.lost (table.answer now call).2, row.isLiveAt now = false := by
  -- where all names are still there, nothing is lost and nothing counted
  have hkept {after : Table} (hafter : after.Distinct)
      (hnames : ∀ row ∈ table.rows, ∃ other ∈ after.rows,
        other.kind = row.kind ∧ other.token = row.token) :
      after.Distinct ∧ (table.lost after).length = 0 ∧
        ∀ row ∈ table.lost after, row.isLiveAt now = false := by
    rw [lost_eq_nil hnames]
    exact ⟨hafter, rfl, by rintro _ ⟨⟩⟩
  have hsame := hkept h (fun row hmem => ⟨row, hmem, rfl, rfl⟩)
  cases call with
  | create new =>
    refine hkept (h.create new) ?_
    intro row hmem
    have hrows : row ∈ (table.create now new).2.rows := by
      by_cases hfree : table.row? new.kind new.token = none
      · rw [(create_of_free hfree now).2]
        exact List.mem_append_left _ hmem
      · rw [(create_of_taken hfree now).2]
        exact hmem
    exact ⟨row, hrows, rfl, rfl⟩
  | find kind token => exact hsame
  | revoke kind token =>
    refine hkept h.revoke ?_
    intro row hmem
    have hrows : ∃ other ∈ (table.revoke now kind token).2.rows,
        other.kind = row.kind ∧ other.token = row.token := by
      rw [Table.revoke]
      split
      · exact ⟨row, hmem, rfl, rfl⟩
      · refine ⟨_, List.mem_map_of_mem hmem, ?_⟩
        split <;> exact ⟨rfl, rfl⟩
    exact hrows
  | countSweepable kind => exact hsame
  | deleteSweepable kind batchSize =>
    obtain ⟨hlength, hvictims⟩ := lost_deleteSweepable h batchSize
    exact ⟨h.deleteSweepable batchSize, hlength,
      fun row hmem => (Row.isVictim_iff.1 (hvictims row hmem)).2⟩

end Session.Table

/-! ## Paths through a sweep -/

namespace Exchange

/-- How many sessions of a kind an exchange has counted. -/
def counted (kind : PrincipalKind) (exchange : Exchange requests) : Nat :=
  RequestCall.counted kind exchange.call exchange.reply

/-- How many sessions an exchange has deleted. -/
def deleted (exchange : Exchange requests) : Nat :=
  RequestCall.deleted exchange.call exchange.reply

/-- One if an exchange counts the sessions of a kind. -/
def counts (kind : PrincipalKind) (exchange : Exchange requests) : Nat :=
  RequestCall.counts kind exchange.call

/-- One if an exchange deletes sessions of a kind. -/
def deletes (kind : PrincipalKind) (exchange : Exchange requests) : Nat :=
  RequestCall.deletes kind exchange.call

end Exchange

namespace Sweep

variable {settings : SweepSettings} {kind : PrincipalKind} {exchanges : List (Exchange requests)}

/-- Exchanges, no more than a number, that count nothing and delete batches of one kind, no more
than a limit. -/
structure Batches (kind : PrincipalKind) (limit most : Nat) (exchanges : List (Exchange requests)) :
    Prop where
  /-- Nothing is counted. -/
  counts : ∀ other, total (Exchange.counts other) exchanges = 0
  /-- There are no more batches than the limit. -/
  deletes : ∀ other,
    total (Exchange.deletes other) exchanges ≤ if kind = other then limit else 0
  /-- There are no more exchanges than the number. -/
  length : exchanges.length ≤ most

variable {limit most : Nat}

/-- Before anything is done no batch is deleted. -/
theorem batches_nil (kind : PrincipalKind) (limit most : Nat) : Batches kind limit most [] :=
  ⟨fun _ => rfl, fun _ => Nat.zero_le _, Nat.zero_le _⟩

/-- One more batch. -/
theorem Batches.delete (h : Batches kind limit most exchanges) (batchSize : UInt32)
    (reply : Except StorageError Nat) :
    Batches kind (limit + 1) (most + 1)
      (⟨.store (.session (.deleteSweepable kind batchSize)), reply⟩ :: exchanges) := by
  refine ⟨fun other => ?_, fun other => ?_, Nat.succ_le_succ h.length⟩
  · rw [total_cons, h.counts]
    rfl
  · have hrest := h.deletes other
    rw [total_cons, Exchange.deletes, RequestCall.deletes]
    split
    · rename_i hkind
      rw [if_pos hkind] at hrest
      omega
    · rename_i hkind
      rw [if_neg hkind] at hrest
      omega

/-- A pause before further batches. -/
theorem Batches.pause (h : Batches kind limit most exchanges) (duration : Duration) :
    Batches kind limit (most + 1) (⟨.outside (.pause duration), ()⟩ :: exchanges) := by
  refine ⟨fun other => ?_, fun other => ?_, Nat.succ_le_succ h.length⟩
  · rw [total_cons, h.counts]
    rfl
  · rw [total_cons, show Exchange.deletes other ⟨.outside (.pause duration), ()⟩ = 0 from rfl,
      Nat.zero_add]
    exact h.deletes other

/-- More exchanges may be allowed. -/
theorem Batches.mono (h : Batches kind limit most exchanges) {more : Nat} (hle : most ≤ more) :
    Batches kind limit more exchanges :=
  ⟨h.counts, h.deletes, Nat.le_trans h.length hle⟩

/-- Deleting batches makes no more deletions than it may, with a pause between two of them at most,
and reports what they have deleted. -/
theorem deleteBatches_follows {remaining : Nat} {report : KindReport} {rest : Request KindReport}
    (h : Program.Follows (deleteBatches settings kind limit remaining report) exchanges rest) :
    Batches kind limit (2 * limit) exchanges ∧ ∀ result, rest = .done result →
      result.deleted = report.deleted + total Exchange.deleted exchanges := by
  -- over the number of batches that may still be deleted
  induction limit generalizing remaining report exchanges with
  | zero =>
    obtain ⟨rfl, rfl⟩ := h.of_done
    refine ⟨batches_nil _ _ _, ?_⟩
    rintro _ ⟨⟩
    rfl
  | succ limit ih =>
    rcases h.call_cases with ⟨rfl, hrest⟩ | ⟨reply, later, rfl, hlater⟩
    · exact ⟨batches_nil _ _ _, fun result hresult => absurd hresult (hrest result)⟩
    -- after one batch the loop ends, or it goes on with or without a pause
    change Except StorageError Nat at reply
    have hlast := (batches_nil kind limit (2 * limit + 1)).delete settings.batchSize reply
    have hends {last : KindReport} (hpath : Program.Follows (.done last) later rest)
        (hcount : last.deleted = report.deleted +
          Exchange.deleted ⟨.store (.session (.deleteSweepable kind settings.batchSize)), reply⟩) :
        Batches kind (limit + 1) (2 * (limit + 1))
            (⟨.store (.session (.deleteSweepable kind settings.batchSize)), reply⟩ :: later) ∧
          ∀ result, rest = .done result → result.deleted = report.deleted + total Exchange.deleted
            (⟨.store (.session (.deleteSweepable kind settings.batchSize)), reply⟩ :: later) := by
      obtain ⟨rfl, rfl⟩ := hpath.of_done
      refine ⟨hlast, ?_⟩
      rintro _ ⟨⟩
      exact hcount
    rcases reply with error | deleted
    · exact hends hlater rfl
    dsimp only at hlater
    split at hlater
    · rename_i hzero
      subst hzero
      exact hends hlater rfl
    split at hlater
    · exact hends hlater rfl
    split at hlater
    · rcases hlater.call_cases with ⟨rfl, hrest⟩ | ⟨⟨⟩, further, rfl, hfurther⟩
      · exact ⟨hlast, fun result hresult => absurd hresult (hrest result)⟩
      obtain ⟨hbatches, hdeleted⟩ := ih hfurther
      refine ⟨(hbatches.pause settings.pause).delete settings.batchSize (.ok deleted), ?_⟩
      intro result hresult
      rw [hdeleted result hresult, total_cons, total_cons]
      simp only [Exchange.deleted, RequestCall.deleted]
      omega
    · obtain ⟨hbatches, hdeleted⟩ := ih hlater
      refine ⟨(hbatches.delete settings.batchSize (.ok deleted)).mono (Nat.le_succ _), ?_⟩
      intro result hresult
      rw [hdeleted result hresult, total_cons]
      simp only [Exchange.deleted, RequestCall.deleted]
      omega

/-- Exchanges that count the sessions of each kind no more often than they may, and of each kind
delete no more batches than they have counted sessions; besides these and the pauses between them
there are no more than a number. -/
structure Frugal (most : Nat) (times : PrincipalKind → Nat)
    (exchanges : List (Exchange requests)) : Prop where
  /-- Each kind is counted no more often than it may be. -/
  counts : ∀ kind, total (Exchange.counts kind) exchanges ≤ times kind
  /-- There are no more batches than were counted. -/
  deletes : ∀ kind,
    total (Exchange.deletes kind) exchanges ≤ total (Exchange.counted kind) exchanges
  /-- There are no more exchanges than these batches, as many pauses and the number. -/
  length : exchanges.length ≤ most +
    2 * (total (Exchange.counted .staff) exchanges + total (Exchange.counted .customer) exchanges)

/-- More may be allowed. -/
theorem Frugal.mono {more : Nat} {times others : PrincipalKind → Nat}
    (h : Frugal most times exchanges) (hle : most ≤ more)
    (hmore : ∀ kind, times kind ≤ others kind) : Frugal more others exchanges :=
  ⟨fun kind => Nat.le_trans (h.counts kind) (hmore kind), h.deletes,
    Nat.le_trans h.length (Nat.add_le_add_right hle _)⟩

/-- What is frugal is so one after the other. -/
theorem Frugal.append {more : Nat} {times others : PrincipalKind → Nat}
    {first second : List (Exchange requests)} (h : Frugal most times first)
    (h' : Frugal more others second) :
    Frugal (most + more) (fun kind => times kind + others kind) (first ++ second) := by
  refine ⟨fun kind => ?_, fun kind => ?_, ?_⟩
  · rw [total_append]
    exact Nat.add_le_add (h.counts kind) (h'.counts kind)
  · rw [total_append, total_append]
    exact Nat.add_le_add (h.deletes kind) (h'.deletes kind)
  · have hfirst := h.length
    have hsecond := h'.length
    rw [List.length_append, total_append, total_append]
    omega

/-- Before anything is done nothing is counted and nothing deleted. -/
theorem frugal_nil (most : Nat) (times : PrincipalKind → Nat) : Frugal most times [] :=
  ⟨fun _ => Nat.zero_le _, fun _ => Nat.le_refl _, Nat.zero_le _⟩

/-- On every path the request is frugal, and if it ends, `post` holds of its value and the number of
sessions that were deleted. -/
def Accounts {α : Type} (most : Nat) (times : PrincipalKind → Nat) (post : α → Nat → Prop)
    (request : Request α) : Prop :=
  ∀ exchanges rest, Program.Follows request exchanges rest →
    Frugal most times exchanges ∧
      ∀ value, rest = .done value → post value (total Exchange.deleted exchanges)

section

variable {α β : Type} {more : Nat} {times others : PrincipalKind → Nat}
  {post : α → Nat → Prop} {post' : β → Nat → Prop}

/-- A request that is done does nothing. -/
theorem accounts_pure {value : α} (h : post value 0) :
    Accounts most times post (pure value : Request α) := by
  intro exchanges rest hpath
  obtain ⟨rfl, rfl⟩ := hpath.of_done
  refine ⟨frugal_nil most times, ?_⟩
  rintro _ ⟨⟩
  exact h

/-- Two requests account for what they do one after the other. -/
theorem Accounts.bind {request : Request α} {next : α → Request β}
    (h : Accounts most times post request)
    (hnext : ∀ value number, post value number →
      Accounts more others (fun final rest => post' final (number + rest)) (next value)) :
    Accounts (most + more) (fun kind => times kind + others kind) post' (request >>= next) := by
  intro exchanges rest hpath
  rcases hpath.bind_cases with
    ⟨⟨mid, hmid⟩, hrest⟩ | ⟨value, first, second, rfl, hfirst, hsecond⟩
  · have hfrugal := (h exchanges mid hmid).1
    refine ⟨hfrugal.mono (Nat.le_add_right _ _) (fun _ => Nat.le_add_right _ _), ?_⟩
    exact fun value hvalue => absurd hvalue (hrest value)
  · obtain ⟨hfrugal, hpost⟩ := h first _ hfirst
    obtain ⟨hfrugal', hpost'⟩ := hnext value _ (hpost value rfl) second rest hsecond
    refine ⟨hfrugal.append hfrugal', ?_⟩
    intro final hfinal
    rw [total_append]
    exact hpost' final hfinal

/-- A request that ends with a value made of that of another one does what that does. -/
theorem Accounts.ending {request : Request α} {next : α → Request β}
    (h : Accounts most times post request)
    (hnext : ∀ value, ∃ final, next value = pure final ∧
      ∀ number, post value number → post' final number) :
    Accounts most times post' (request >>= next) := by
  have hboth : Accounts (most + 0) (fun kind => times kind + 0) post' (request >>= next) := by
    refine h.bind (fun value number hvalue => ?_)
    obtain ⟨final, hfinal, hpost⟩ := hnext value
    rw [hfinal]
    exact accounts_pure (hpost number hvalue)
  exact hboth

/-- A call to the shared entries counts and deletes no session. -/
theorem accounts_keyValue (call : KeyValue.Call) :
    Accounts 1 (fun _ => 0) (fun _ number => number = 0) (Request.keyValue call) := by
  intro exchanges rest hpath
  cases hpath with
  | start => exact ⟨frugal_nil _ _, by rintro value ⟨⟩⟩
  | reply hpath =>
    obtain ⟨rfl, rfl⟩ := hpath.of_done
    exact ⟨⟨fun _ => Nat.le_refl _, fun _ => Nat.le_refl _, Nat.le_refl _⟩, fun _ _ => rfl⟩

/-- More may be allowed, and less said. -/
theorem Accounts.mono {request : Request α} {weaker : α → Nat → Prop}
    (h : Accounts most times post request) (hle : most ≤ more)
    (hmore : ∀ kind, times kind ≤ others kind)
    (hpost : ∀ value number, post value number → weaker value number) :
    Accounts more others weaker request := by
  intro exchanges rest hpath
  obtain ⟨hfrugal, hvalue⟩ := h exchanges rest hpath
  exact ⟨hfrugal.mono hle hmore, fun value heq => hpost value _ (hvalue value heq)⟩

end

/-- Counting the sessions of a kind and deleting as many batches at most is frugal. -/
theorem Batches.frugal {reply : Except StorageError Nat} {later : List (Exchange requests)}
    {found : Nat} (h : Batches kind found (2 * found) later)
    (hfound : Exchange.counted kind ⟨.store (.session (.countSweepable kind)), reply⟩ = found) :
    Frugal 1 (fun other => if kind = other then 1 else 0)
      (⟨.store (.session (.countSweepable kind)), reply⟩ :: later) := by
  refine ⟨fun other => ?_, fun other => ?_, ?_⟩
  · rw [total_cons, h.counts]
    exact Nat.le_refl _
  · have hdeletes := h.deletes other
    rw [total_cons, total_cons, show Exchange.deletes other
      ⟨.store (.session (.countSweepable kind)), reply⟩ = 0 from rfl]
    split at hdeletes
    · rename_i hkind
      subst hkind
      omega
    · omega
  · have hlength := h.length
    rw [List.length_cons, total_cons, total_cons]
    cases kind <;> omega

/-- Sweeping a kind counts its sessions once and reports what it has deleted. -/
theorem accounts_sweepKind (settings : SweepSettings) (kind : PrincipalKind) :
    Accounts 1 (fun other => if kind = other then 1 else 0)
      (fun report number => report.deleted = number) (sweepKind settings kind) := by
  intro exchanges rest hpath
  rcases hpath.call_cases with ⟨rfl, hrest⟩ | ⟨reply, later, rfl, hlater⟩
  · exact ⟨frugal_nil _ _, fun value hvalue => absurd hvalue (hrest value)⟩
  change Except StorageError Nat at reply
  rcases reply with error | found
  · obtain ⟨rfl, rfl⟩ := hlater.of_done
    refine ⟨(batches_nil kind 0 0).frugal rfl, ?_⟩
    rintro _ ⟨⟩
    rfl
  have hfound : Exchange.counted kind
      ⟨.store (.session (.countSweepable kind)), (.ok found : Except StorageError Nat)⟩ = found :=
    if_pos rfl
  dsimp only at hlater
  split at hlater
  · obtain ⟨rfl, rfl⟩ := hlater.of_done
    refine ⟨(batches_nil kind found (2 * found)).frugal hfound, ?_⟩
    rintro _ ⟨⟩
    rfl
  · obtain ⟨hbatches, hdeleted⟩ := deleteBatches_follows hlater
    refine ⟨hbatches.frugal hfound, ?_⟩
    intro report hreport
    exact (hdeleted report hreport).trans rfl

/-- The number of sessions that a sweep reports to have deleted. -/
def Outcome.deleted : Outcome → Nat
  | .skipped => 0
  | .completed report => report.totalDeleted

/-- A sweep counts the sessions of each kind once and reports what it has deleted. -/
theorem accounts_runOnce (settings : SweepSettings) (purges : Bool) :
    Accounts 5 (fun _ => 1) (fun outcome number => outcome.deleted = number)
      (runOnce settings purges) := by
  have hlock : Accounts 1 (fun _ => 0) (fun _ number => number = 0)
      (Lock.acquire settings.job settings.lockTtl) := by
    refine (accounts_keyValue _).ending ?_
    rintro (error | _ | _) <;> exact ⟨_, rfl, fun _ h => h⟩
  have hpurge : Accounts 1 (fun _ => 0) (fun _ number => number = 0) purge := by
    refine (accounts_keyValue _).ending ?_
    rintro (error | count) <;> exact ⟨_, rfl, fun _ h => h⟩
  have hrelease (key : String) (report : Report) :
      Accounts 1 (fun _ => 0) (fun outcome number => outcome = .completed report ∧ number = 0)
        (do discard (Lock.release key); return Outcome.completed report) :=
    (accounts_keyValue (.delete key)).ending (fun _ => ⟨_, rfl, fun _ h => ⟨rfl, h⟩⟩)
  -- an instance that holds the lock sweeps one kind after the other
  have hsweep (key : String) : Accounts (1 + (1 + (1 + 1)))
      (fun other => (if .staff = other then 1 else 0) +
        ((if .customer = other then 1 else 0) + (0 + 0)))
      (fun outcome number => outcome.deleted = number)
      (do
        let staff ← sweepKind settings .staff
        let customers ← sweepKind settings .customer
        let purged ← if purges then purge else pure 0
        discard (Lock.release key)
        return Outcome.completed ⟨[staff, customers], purged⟩) := by
    refine (accounts_sweepKind settings .staff).bind (fun staff first hfirst => ?_)
    refine (accounts_sweepKind settings .customer).bind (fun customers second hsecond => ?_)
    have htotal (purged number : Nat) (hnumber : number = 0) :
        (Outcome.completed ⟨[staff, customers], purged⟩).deleted =
          first + (second + number) := by
      rw [hnumber, ← hfirst, ← hsecond]
      rfl
    split
    · refine hpurge.bind ?_
      rintro purged _ rfl
      refine (hrelease key _).mono (Nat.le_refl _) (fun _ => Nat.le_refl _) ?_
      rintro _ number ⟨rfl, rfl⟩
      exact htotal purged 0 rfl
    · refine (hrelease key ⟨[staff, customers], 0⟩).mono (by decide) (fun _ => Nat.le_refl _) ?_
      rintro _ number ⟨rfl, rfl⟩
      exact htotal 0 0 rfl
  have hboth : Accounts (1 + (1 + (1 + (1 + 1))))
      (fun other => 0 + ((if .staff = other then 1 else 0) +
        ((if .customer = other then 1 else 0) + (0 + 0))))
      (fun outcome number => outcome.deleted = number) (runOnce settings purges) := by
    refine hlock.bind ?_
    rintro (error | _ | key) _ rfl
    · exact accounts_pure rfl
    · exact accounts_pure rfl
    · exact (hsweep key).mono (Nat.le_refl _) (fun _ => Nat.le_refl _)
        (fun _ _ h => h.trans (Nat.zero_add _).symm)
  refine hboth.mono (Nat.le_refl _) ?_ (fun _ _ h => h)
  rintro (_ | _) <;> decide

/-- The limit on the number of batches never ends the loop: every batch that goes on leaves less to
delete, so as many batches as there are sessions to delete are enough. -/
theorem deleteBatches_of_le {remaining limit : Nat} (hpos : 0 < remaining) (hle : remaining ≤ limit)
    (report : KindReport) :
    deleteBatches settings kind limit remaining report =
      deleteBatches settings kind remaining remaining report := by
  -- over what remains, for all limits at once
  induction remaining using Nat.strongRecOn generalizing limit report with
  | _ remaining ih =>
    obtain ⟨most, rfl⟩ := Nat.exists_eq_succ_of_ne_zero (Nat.ne_of_gt hpos)
    obtain ⟨limit, rfl⟩ :=
      Nat.exists_eq_succ_of_ne_zero (Nat.ne_of_gt (Nat.lt_of_lt_of_le hpos hle))
    have hloop (report : KindReport) (deleted : Nat) (hdeleted : deleted ≠ 0)
        (hrest : most + 1 - deleted ≠ 0) :
        deleteBatches settings kind limit (most + 1 - deleted) report =
          deleteBatches settings kind most (most + 1 - deleted) report := by
      have hless : most + 1 - deleted < most + 1 := by omega
      have hleft : most + 1 - deleted ≤ limit := by omega
      have hright : most + 1 - deleted ≤ most := by omega
      have hpos : 0 < most + 1 - deleted := by omega
      exact (ih _ hless hpos hleft report).trans (ih _ hless hpos hright report).symm
    rw [deleteBatches, deleteBatches]
    refine congrArg (Request.session (.deleteSweepable kind settings.batchSize) >>= ·) ?_
    funext reply
    change Except StorageError Nat at reply
    rcases reply with error | deleted
    · rfl
    dsimp only
    split
    · rfl
    rename_i hdeleted
    split
    · rfl
    rename_i hrest
    rw [hloop _ deleted hdeleted hrest]

end Sweep

/-! ## A crew of sweepers -/

/-- A sweep that was begun. -/
structure Sweeper where
  /-- How the sessions are swept. -/
  settings : SweepSettings
  /-- Whether shared entries past their lifetime are dropped. -/
  purges : Bool
  /-- The calls that were made, and the replies to them. -/
  exchanges : List (Exchange requests)
  /-- What is left to do. -/
  rest : Request Sweep.Outcome
  /-- How many turns the sweep has had. -/
  turns : Nat

/-- A sweep that begins. -/
def Sweeper.start (settings : SweepSettings) (purges : Bool) : Sweeper :=
  ⟨settings, purges, [], Sweep.runOnce settings purges, 0⟩

/-- A table of sessions, the time, and the sweeps that were begun. The number of a sweep is its
place among those that were begun. -/
structure Crew where
  /-- The time. -/
  now : Timestamp
  /-- The sessions. -/
  sessions : Session.Table := {}
  /-- The sweeps, in the order in which they were begun. -/
  sweepers : List Sweeper := []

/-- What happens next. -/
inductive CrewMove where
  /-- A sweep begins. -/
  | begin (settings : SweepSettings) (purges : Bool)
  /-- A sweep makes its next call. Whatever it asks elsewhere may be answered in any way: its lock
  may be free although another sweep has it. -/
  | proceed (number : Nat) (elsewhere : (call : RequestCall) → call.Reply)
  /-- A session is stored. -/
  | create (new : Session.New)
  /-- A live session is looked for. -/
  | find (kind : PrincipalKind) (token : String)
  /-- A session is revoked. -/
  | revoke (kind : PrincipalKind) (token : String)
  /-- Time passes. -/
  | wait (duration : Duration)
  /-- The rows come to stand in another order, so that the next batch may take others. -/
  | shuffle (order : List Session.Row → List Session.Row)
    (perm : ∀ rows, (order rows).Perm rows)

namespace Crew

/-- Answers a call of a sweep. -/
def answer (crew : Crew) (elsewhere : (call : RequestCall) → call.Reply) :
    (call : RequestCall) → call.Reply × Session.Table
  | .store (.session call) => crew.sessions.answer crew.now call
  | call => (elsewhere call, crew.sessions)

/-- Makes a move. -/
def take (crew : Crew) : CrewMove → Crew
  | .begin settings purges => { crew with sweepers := crew.sweepers ++ [.start settings purges] }
  | .create new => { crew with sessions := (crew.sessions.answer crew.now (.create new)).2 }
  | .find kind token =>
    { crew with sessions := (crew.sessions.answer crew.now (.find kind token)).2 }
  | .revoke kind token =>
    { crew with sessions := (crew.sessions.answer crew.now (.revoke kind token)).2 }
  | .wait duration => { crew with now := crew.now.plus duration }
  | .shuffle order _ => { crew with sessions.rows := order crew.sessions.rows }
  | .proceed number elsewhere =>
    match crew.sweepers[number]? with
    | none => crew
    | some sweeper =>
      match sweeper.rest with
      | .done _ =>
        let waiting := { sweeper with turns := sweeper.turns + 1 }
        { crew with sweepers := crew.sweepers.set number waiting }
      | .ask call next =>
        let (reply, sessions) := crew.answer elsewhere call
        let further :=
          { sweeper with
            exchanges := sweeper.exchanges ++ [⟨call, reply⟩]
            rest := next reply
            turns := sweeper.turns + 1 }
        { crew with sessions, sweepers := crew.sweepers.set number further }

/-- Makes moves one after the other. -/
def run (crew : Crew) (moves : List CrewMove) : Crew := moves.foldl take crew

/-- The sessions that are lost in moves, each with the time at which it is lost. -/
def losses (crew : Crew) : List CrewMove → List (Timestamp × Session.Row)
  | [] => []
  | move :: moves =>
    (crew.sessions.lost (crew.take move).sessions).map (fun row => (crew.now, row)) ++
      (crew.take move).losses moves

end Crew

/-- How many sessions a sweep has deleted so far. -/
def Sweeper.deleted (sweeper : Sweeper) : Nat := total Exchange.deleted sweeper.exchanges

/-- What is left of a sweep is left of it after the replies that it had, and it has used every turn
unless it has ended. -/
structure Sweeper.Sound (sweeper : Sweeper) : Prop where
  /-- What a sweep did is a path through it. -/
  follows : Program.Follows (Sweep.runOnce sweeper.settings sweeper.purges) sweeper.exchanges
    sweeper.rest
  /-- A sweep that has not ended has used its turns. -/
  turns : (∀ outcome, sweeper.rest ≠ .done outcome) → sweeper.turns = sweeper.exchanges.length

namespace Crew

/-- The sessions are distinct, and all sweeps are as they should be. -/
structure Sound (crew : Crew) : Prop where
  /-- The sessions are distinct. -/
  distinct : crew.sessions.Distinct
  /-- The sweeps are as they should be. -/
  sweepers : ∀ sweeper ∈ crew.sweepers, sweeper.Sound

variable {crew : Crew}

/-- A call of a sweep loses as many sessions as it deletes, and none that is live. -/
theorem Sound.answer (h : crew.Sound) (elsewhere : (call : RequestCall) → call.Reply)
    (call : RequestCall) :
    (crew.answer elsewhere call).2.Distinct ∧
      (crew.sessions.lost (crew.answer elsewhere call).2).length =
          RequestCall.deleted call (crew.answer elsewhere call).1 ∧
        ∀ row ∈ crew.sessions.lost (crew.answer elsewhere call).2,
          row.isLiveAt crew.now = false := by
  have hkept {number : Nat} (hzero : number = 0) :
      crew.sessions.Distinct ∧ (crew.sessions.lost crew.sessions).length = number ∧
        ∀ row ∈ crew.sessions.lost crew.sessions, row.isLiveAt crew.now = false := by
    rw [hzero, Session.Table.lost_self]
    exact ⟨h.distinct, rfl, by rintro _ ⟨⟩⟩
  rcases call with (call | call | call) | call
  · exact hkept rfl
  · exact Session.Table.lost_answer h.distinct crew.now call
  · exact hkept rfl
  · exact hkept rfl

/-- A change after which a crew is as it should be. What is lost are sessions that are not live, and
as many as the sweeps have deleted more than before. -/
structure Accounted (before after : Crew) : Prop where
  /-- The crew is as it should be. -/
  sound : after.Sound
  /-- The sweeps have deleted what is lost. -/
  deleted : total Sweeper.deleted after.sweepers =
    total Sweeper.deleted before.sweepers + (before.sessions.lost after.sessions).length
  /-- Nothing is lost that is live. -/
  dead : ∀ row ∈ before.sessions.lost after.sessions, row.isLiveAt before.now = false

/-- Nothing is lost while the sessions stay as they are, in whatever order. -/
theorem Sound.stays (h : crew.Sound) {sessions : Session.Table} {sweepers : List Sweeper}
    (now : Timestamp) (hrows : sessions.rows.Perm crew.sessions.rows)
    (hsound : ∀ sweeper ∈ sweepers, sweeper.Sound)
    (htotal : total Sweeper.deleted sweepers = total Sweeper.deleted crew.sweepers) :
    crew.Accounted ⟨now, sessions, sweepers⟩ := by
  have hnone : crew.sessions.lost sessions = [] := Session.Table.lost_of_perm hrows
  refine ⟨⟨h.distinct.of_perm hrows, hsound⟩, ?_, ?_⟩
  · rw [hnone]
    exact htotal
  · rw [hnone]
    rintro _ ⟨⟩

/-- Whatever others ask of the sessions but to delete them, it loses none. -/
theorem Sound.asked (h : crew.Sound) (call : Session.Call)
    (hnone : RequestCall.deleted (.store (.session call))
      (crew.sessions.answer crew.now call).1 = 0) :
    crew.Accounted { crew with sessions := (crew.sessions.answer crew.now call).2 } := by
  obtain ⟨hdistinct, hcount, hdead⟩ := Session.Table.lost_answer h.distinct crew.now call
  refine ⟨⟨hdistinct, h.sweepers⟩, ?_, hdead⟩
  rw [hcount, hnone]
  rfl

/-- A sweep that begins has deleted nothing yet. -/
theorem Sound.begin (h : crew.Sound) (settings : SweepSettings) (purges : Bool) :
    crew.Accounted (crew.take (.begin settings purges)) := by
  refine h.stays crew.now (.refl _) ?_ ?_
  · intro sweeper hmem
    rcases List.mem_append.1 hmem with hmem | hmem
    · exact h.sweepers sweeper hmem
    · obtain rfl := List.mem_singleton.1 hmem
      exact ⟨.start _, fun _ => rfl⟩
  · rw [total_append]
    rfl

/-- What a turn of a sweep loses is what the sweep has deleted. -/
theorem Sound.proceed (h : crew.Sound) (number : Nat)
    (elsewhere : (call : RequestCall) → call.Reply) :
    crew.Accounted (crew.take (.proceed number elsewhere)) := by
  rw [Crew.take]
  split
  · exact h.stays crew.now (.refl _) h.sweepers rfl
  rename_i sweeper hsweeper
  have hsound := h.sweepers sweeper (List.mem_of_getElem? hsweeper)
  -- the other sweeps stay as they are
  have hothers {further : Sweeper} (hfurther : further.Sound) :
      ∀ other ∈ crew.sweepers.set number further, other.Sound := by
    intro other hmem
    rcases List.mem_or_eq_of_mem_set hmem with hmem | rfl
    · exact h.sweepers other hmem
    · exact hfurther
  split
  · rename_i outcome hdone
    refine h.stays crew.now (.refl _) ?_ ?_
    · exact hothers ⟨hsound.follows, fun hnot => absurd hdone (hnot outcome)⟩
    · refine total_set hsweeper (?_ : Sweeper.deleted _ = Sweeper.deleted sweeper + 0)
      rfl
  · rename_i call next hask
    obtain ⟨hdistinct, hcount, hdead⟩ := h.answer elsewhere call
    have hfollows : Program.Follows (Sweep.runOnce sweeper.settings sweeper.purges)
        (sweeper.exchanges ++ [⟨call, (crew.answer elsewhere call).1⟩])
        (next (crew.answer elsewhere call).1) := by
      refine Program.Follows.append hsound.follows ?_
      rw [hask]
      exact .reply (.start _)
    have hturns : sweeper.turns = sweeper.exchanges.length := by
      refine hsound.turns ?_
      intro outcome hdone
      rw [hask] at hdone
      cases hdone
    refine ⟨⟨hdistinct, hothers ⟨hfollows, fun _ => ?_⟩⟩, ?_, hdead⟩
    · rw [List.length_append, hturns]
      rfl
    · refine total_set hsweeper ?_
      rw [Sweeper.deleted, Sweeper.deleted, total_append, hcount]
      rfl

/-- Every move accounts for what it loses. -/
theorem Sound.take (h : crew.Sound) (move : CrewMove) : crew.Accounted (crew.take move) := by
  cases move with
  | begin settings purges => exact h.begin settings purges
  | proceed number elsewhere => exact h.proceed number elsewhere
  | create new => exact h.asked (.create new) rfl
  | find kind token => exact h.asked (.find kind token) rfl
  | revoke kind token => exact h.asked (.revoke kind token) rfl
  | wait duration => exact h.stays (crew.now.plus duration) (.refl _) h.sweepers rfl
  | shuffle order perm => exact h.stays crew.now (perm _) h.sweepers rfl

/-- Moves keep a crew as it should be. What they lose are sessions that are not live, and as many as
the sweeps have deleted more than before. -/
theorem Sound.run (h : crew.Sound) (moves : List CrewMove) :
    (crew.run moves).Sound ∧
      total Sweeper.deleted (crew.run moves).sweepers =
          total Sweeper.deleted crew.sweepers + (crew.losses moves).length ∧
        ∀ loss ∈ crew.losses moves, loss.2.isLiveAt loss.1 = false := by
  induction moves generalizing crew with
  | nil => exact ⟨h, rfl, by rintro _ ⟨⟩⟩
  | cons move moves ih =>
    obtain ⟨htake, hcount, hdead⟩ := h.take move
    obtain ⟨hrun, hcount', hdead'⟩ := ih htake
    refine ⟨hrun, ?_, ?_⟩
    · rw [Crew.losses, List.length_append, List.length_map, ← Nat.add_assoc, ← hcount]
      exact hcount'
    · intro loss hloss
      rcases List.mem_append.1 hloss with hloss | hloss
      · obtain ⟨row, hrow, rfl⟩ := List.mem_map.1 hloss
        exact hdead row hrow
      · exact hdead' loss hloss

end Crew

/-- Sweeps that have ended report together what they have deleted together. -/
theorem total_deleted_of_ended {sweepers : List Sweeper} {outcomes : List Sweep.Outcome}
    (h : ∀ sweeper ∈ sweepers, sweeper.Sound)
    (hended : sweepers.map (fun sweeper => sweeper.rest.value?) = outcomes.map some) :
    total Sweep.Outcome.deleted outcomes = total Sweeper.deleted sweepers := by
  induction sweepers generalizing outcomes with
  | nil =>
    obtain rfl := List.map_eq_nil_iff.1 hended.symm
    rfl
  | cons sweeper sweepers ih =>
    obtain ⟨hsweeper, hsweepers⟩ := List.forall_mem_cons.1 h
    rcases outcomes with _ | ⟨outcome, outcomes⟩
    · cases hended
    obtain ⟨hvalue, hvalues⟩ := List.cons.inj hended
    have hdone : sweeper.rest = .done outcome := Program.value?_eq_some.1 hvalue
    have hdeleted := (Sweep.accounts_runOnce sweeper.settings sweeper.purges _ _
      hsweeper.follows).2 outcome hdone
    rw [total_cons, total_cons, ih hsweepers hvalues, hdeleted]
    rfl

/-- **Overlapping sweeps do no harm.** However sweeps are interleaved, with each other and with
sessions that are stored, found and revoked, in whatever order a batch meets the sessions, and
however their locks are answered: no session is deleted while it is live; once all sweeps have
ended, they report as many deleted sessions as are gone; each counts a kind at most once and asks to
delete no more batches of it than it counted sessions, so that it has ended after twice as many
turns and five more; and the limit on the number of batches, which is what was counted, never breaks
a sweep off. -/
theorem sweeps_overlap (now : Timestamp) (sessions : Session.Table) (moves : List CrewMove)
    (h : sessions.Distinct) :
    let crew : Crew := { now, sessions }
    (∀ loss ∈ crew.losses moves, loss.2.isLiveAt loss.1 = false) ∧
      (∀ outcomes : List Sweep.Outcome,
        (crew.run moves).sweepers.map (fun sweeper => sweeper.rest.value?) = outcomes.map some →
          total Sweep.Outcome.deleted outcomes = (crew.losses moves).length) ∧
      (∀ sweeper ∈ (crew.run moves).sweepers,
        (∀ kind, total (Exchange.counts kind) sweeper.exchanges ≤ 1 ∧
          total (Exchange.deletes kind) sweeper.exchanges ≤
            total (Exchange.counted kind) sweeper.exchanges) ∧
        (5 + 2 * (total (Exchange.counted .staff) sweeper.exchanges +
            total (Exchange.counted .customer) sweeper.exchanges) < sweeper.turns →
          ∃ outcome, sweeper.rest = .done outcome)) ∧
      ∀ settings kind found limit report, 0 < found → found ≤ limit →
        Sweep.deleteBatches settings kind limit found report =
          Sweep.deleteBatches settings kind found found report := by
  intro crew
  have hstart : crew.Sound := ⟨h, by rintro _ ⟨⟩⟩
  obtain ⟨hsound, hcount, hdead⟩ := hstart.run moves
  refine ⟨hdead, ?_, ?_, ?_⟩
  · intro outcomes hended
    rw [total_deleted_of_ended hsound.sweepers hended, hcount]
    exact Nat.zero_add _
  · intro sweeper hmem
    have hsweeper := hsound.sweepers sweeper hmem
    have hfrugal := (Sweep.accounts_runOnce sweeper.settings sweeper.purges _ _
      hsweeper.follows).1
    refine ⟨fun kind => ⟨hfrugal.counts kind, hfrugal.deletes kind⟩, ?_⟩
    intro hturns
    cases hrest : sweeper.rest with
    | done outcome => exact ⟨outcome, rfl⟩
    | ask call next =>
      have hused : sweeper.turns = sweeper.exchanges.length := by
        refine hsweeper.turns ?_
        intro outcome hdone
        rw [hrest] at hdone
        cases hdone
      have hlength := hfrugal.length
      omega
  · intro settings kind found limit report hpos hle
    exact Sweep.deleteBatches_of_le hpos hle report

/-- Every lock is free, and the other stores cannot be reached. -/
def RequestCall.plainReply : (call : RequestCall) → call.Reply
  | .store (.keyValue (.setIfAbsent _ _ _)) => (.ok true : Except StorageError Bool)
  | .store _ => .error (.database "no connection")
  | .outside call => (World.answerOutside .plain ⟨⟨0⟩, .zero⟩ 0 call).1

/-- Three sessions end, and two sweeps, which delete two at once, count them all before either has
deleted any. Then the last session comes to stand first. -/
def CrewMove.plainSharing : List CrewMove :=
  let sweep : SweepSettings := { batchSize := 2, pause := .zero }
  ["a", "b", "c"].map (fun token => .create ⟨1, .staff, token, none, none, .ofSeconds 1⟩) ++
    [.wait (.ofSeconds 1), .begin sweep false, .begin sweep false] ++
    [0, 0, 1, 1].map (fun number => .proceed number RequestCall.plainReply) ++
    [.shuffle List.reverse List.reverse_perm] ++
    [0, 1, 0, 1, 0, 1, 0, 1].map (fun number => .proceed number RequestCall.plainReply)

/-- One of two sweeps deletes two of the three sessions that both have counted, the other one. -/
theorem sweeps_overlap_sharing :
    Session.Table.Distinct {} ∧
      ∃ outcomes : List Sweep.Outcome,
        (Crew.run ⟨⟨0⟩, {}, []⟩ CrewMove.plainSharing).sweepers.map
            (fun sweeper => sweeper.rest.value?) = outcomes.map some ∧
          outcomes.map Sweep.Outcome.deleted = [2, 1] ∧
            (Crew.losses ⟨⟨0⟩, {}, []⟩ CrewMove.plainSharing).length = 3 := by
  have h : Session.Table.Distinct {} := .nil
  have hended : (Crew.run ⟨⟨0⟩, {}, []⟩ CrewMove.plainSharing).sweepers.map
      (fun sweeper => sweeper.rest.value?) =
      [.completed ⟨[⟨.staff, 3, 2, 1, none⟩, ⟨.customer, 0, 0, 0, none⟩], 0⟩,
        .completed ⟨[⟨.staff, 3, 1, 1, none⟩, ⟨.customer, 0, 0, 0, none⟩], 0⟩].map some := by
    rfl
  exact ⟨h, _, hended, rfl, ((sweeps_overlap ⟨0⟩ {} CrewMove.plainSharing h).2.1 _ hended).symm⟩

end Gatehouse
