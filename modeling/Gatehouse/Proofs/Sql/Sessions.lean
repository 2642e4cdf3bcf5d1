import Gatehouse.Proofs.Isolation
import Gatehouse.Proofs.Sql.Meaning
import Gatehouse.Proofs.Sweepers
import Mathlib.Data.List.Nodup

/-!
# Sessions in a database and in memory

A database and memory hold the same sessions, but for their ids and their order. Then a call gives
the same in both, but for the id of a session and the wording of a failure, and leaves them so: for
each choice of sessions that a database makes when it deletes some, there is an order of the rows in
which memory makes the same choice (`SameSessions.yields`), and for each order of the rows a
database may choose what memory does (`SameSessions.exists_yields`).
-/

namespace Gatehouse

/-- The failure of a store, without the wording of a database. -/
def StorageError.unworded : StorageError → StorageError
  | .database _ => .database ""
  | error => error

/-- What a store gives, without part of the value and without the wording of a database. -/
def outline {α : Type} (without : α → α) : Except StorageError α → Except StorageError α
  | .ok value => .ok (without value)
  | .error error => .error error.unworded

namespace Session

/-- A session that a call stores expires at a whole number of microseconds. -/
def Call.RepresentedAt (now : Timestamp) : Call → Prop
  | create new => (now.after new.ttl).IsWhole
  | _ => True

/-- Whether a call is to delete sessions. -/
def Call.isBatch : Call → Bool
  | deleteSweepable _ _ => true
  | _ => false

/-- A row after the live session of a name is revoked. -/
def Row.revoked (row : Row) (kind : PrincipalKind) (token : String) (now : Timestamp) : Row :=
  if row.isNamed kind token && row.isLiveAt now then { row with revokedAt := some now } else row

/-- Revoking a session leaves the kinds of rows. -/
theorem Row.kind_revoked (row : Row) (kind : PrincipalKind) (token : String) (now : Timestamp) :
    (row.revoked kind token now).kind = row.kind := by
  rw [revoked]
  split <;> rfl

/-- Whether a row is revoked does not depend on its id. -/
theorem Row.anonymous_revoked (row : Row) (kind : PrincipalKind) (token : String)
    (now : Timestamp) :
    (row.revoked kind token now).anonymous = row.anonymous.revoked kind token now := by
  rw [revoked, apply_ite Row.anonymous]
  rfl

namespace Table

variable {table : Table}

/-- Of distinct rows, those with a name are the one that is found. -/
theorem Distinct.filter_named (h : table.Distinct) (kind : PrincipalKind) (token : String) :
    table.rows.filter (fun row => row.isNamed kind token) = (table.row? kind token).toList := by
  refine filter_eq_toList_find? (h.imp fun hne hboth => hne ?_)
  obtain ⟨hkind, htoken⟩ := Row.isNamed_iff.1 hboth.1
  obtain ⟨hkind', htoken'⟩ := Row.isNamed_iff.1 hboth.2
  exact ⟨hkind.trans hkind'.symm, htoken.trans htoken'.symm⟩

/-- Of distinct rows, the live ones with a name are the one that is found, if it is live. -/
theorem Distinct.filter_live (h : table.Distinct) (kind : PrincipalKind) (token : String)
    (now : Timestamp) :
    table.rows.filter (fun row => row.isNamed kind token && row.isLiveAt now) =
      ((table.row? kind token).filter (fun row => row.isLiveAt now)).toList := by
  rw [Option.toList_filter, ← h.filter_named, List.filter_filter]
  simp only [Bool.and_comm]

/-- Revoking a session marks the live rows of its name. -/
theorem rows_revoke (h : table.Distinct) (kind : PrincipalKind) (token : String)
    (now : Timestamp) :
    (table.revoke now kind token).2.rows =
      table.rows.map (fun row => row.revoked kind token now) := by
  have hlive := h.filter_live kind token now
  rw [Table.revoke]
  cases hfound : (table.row? kind token).filter (fun row => row.isLiveAt now) with
  | none =>
    rw [hfound, Option.toList_none, List.filter_eq_nil_iff] at hlive
    have hsame (row : Row) (hmem : row ∈ table.rows) : row.revoked kind token now = id row :=
      if_neg (hlive row hmem)
    rw [List.map_congr_left hsame, List.map_id]
  | some found =>
    obtain ⟨hrow, hfoundLive⟩ := Option.filter_eq_some_iff.1 hfound
    apply List.map_congr_left
    intro row hmem
    by_cases hnamed : row.isNamed kind token = true
    · -- the only row with the name is the live one that was found
      have hsame : table.row? kind token = some row := (row?_eq_some_iff h).2 ⟨hmem, hnamed⟩
      obtain rfl : found = row := by simpa [hrow] using hsame
      simp [Row.revoked, hnamed, hfoundLive]
    · simp [Row.revoked, hnamed]

/-- Deleting the first rows for which a test holds deletes those that stand in front, if they are as
many as there are to be deleted. -/
theorem deleteFirst_append {test : Row → Bool} {chosen : List Row} (kept : List Row)
    (limit : Nat) (hchosen : ∀ row ∈ chosen, test row = true)
    (hlimit : chosen.length = min limit ((chosen ++ kept).countP test)) :
    deleteFirst test limit (chosen ++ kept) = (chosen.length, kept) := by
  -- over the rows in front; the limit goes down at each of them
  induction chosen generalizing limit with
  | nil =>
    have hcount := deleteFirst_count test limit kept
    have hlength := deleteFirst_length test limit kept
    rw [List.length_nil, List.nil_append] at hlimit
    apply Prod.ext
    · exact hcount.trans hlimit.symm
    · exact (deleteFirst_sublist test limit kept).eq_of_length (by omega)
  | cons row chosen ih =>
    obtain ⟨hrow, hrest⟩ := List.forall_mem_cons.1 hchosen
    rw [List.cons_append, List.countP_cons_of_pos hrow, List.length_cons] at hlimit
    cases limit with
    | zero => omega
    | succ limit =>
      rw [List.cons_append, deleteFirst, if_pos hrow, ih _ hrest (by omega)]
      rfl

/-- No call adds more than one row. -/
theorem length_rows_answer_le (table : Table) (now : Timestamp) (call : Call) :
    (table.answer now call).2.rows.length ≤
      table.rows.length + (if call.creates then 1 else 0) := by
  cases call with
  | create new =>
    by_cases hfree : table.row? new.kind new.token = none
    · rw [answer, (create_of_free hfree now).2]
      simp [Call.creates]
    · rw [answer, (create_of_taken hfree now).2]
      omega
  | find kind token => exact Nat.le_refl _
  | revoke kind token =>
    show (table.revoke now kind token).2.rows.length ≤ _
    rw [Table.revoke]
    split <;> simp [Call.creates]
  | countSweepable kind => exact Nat.le_refl _
  | deleteSweepable kind batchSize => exact (deleteFirst_sublist _ _ _).length_le

end Table

end Session

namespace Sql

open Session (Row)

variable {now : Int} {kind : PrincipalKind} {token : String}

/-- A record as memory has it, without its id. -/
def SessionRecord.view (record : SessionRecord) (kind : PrincipalKind) : Row :=
  (record.row kind).anonymous

/-- The current sessions with a token are the live ones of its name. -/
theorem SessionRecord.isCurrent_eq (record : SessionRecord) (kind : PrincipalKind) :
    record.isCurrent token now =
      ((record.view kind).isNamed kind token && (record.view kind).isLiveAt (timeOf now)) := by
  simp [isCurrent, view, row, Row.anonymous, Row.isNamed, Row.isLiveAt, timeOf, Bool.and_assoc]

/-- The sessions that are over are those that may be deleted. -/
theorem SessionRecord.isOver_eq (record : SessionRecord) (kind : PrincipalKind) :
    record.isOver now = (record.view kind).isVictim kind (timeOf now) := by
  have hpast : decide (record.expiresAt ≤ now) = !decide (now < record.expiresAt) := by
    rw [← decide_not, decide_eq_decide, Int.not_lt]
  simp [isOver, hpast, view, row, Row.anonymous, Row.isVictim, Row.isSweepableAt, Row.isLiveAt,
    timeOf]

/-- A new session is the same in a database and in memory, if its times can be stored. -/
theorem view_newRecord {new : Session.New} {issuedAt : Timestamp} (hissued : issuedAt.IsWhole)
    (hexpires : (issuedAt.after new.ttl).IsWhole) (id id' : Session.SessionId) :
    (newRecord new id issuedAt).view new.kind = (new.row id' issuedAt).anonymous := by
  simp [newRecord, SessionRecord.view, SessionRecord.row, Session.New.row, Row.anonymous,
    timeOf_storedMicros hissued, timeOf_storedMicros hexpires]

/-- A database and memory hold the same sessions. -/
structure SameSessions (records : PrincipalKind → List SessionRecord) (table : Session.Table) :
    Prop where
  /-- They hold the same rows of each kind, but for their ids. -/
  rows : ∀ kind, ((records kind).map (fun record => record.view kind)).Perm
    ((table.rows.filter (fun row => row.kind == kind)).map Row.anonymous)
  /-- In a database no two sessions of a kind have the same id. -/
  ids : ∀ kind, ((records kind).map SessionRecord.id).Nodup
  /-- In memory no two sessions have the same name. -/
  distinct : table.Distinct

variable {tables after : Tables} {table : Session.Table}

/-- The order of the rows in memory does not matter. -/
theorem SameSessions.reorder {records : PrincipalKind → List SessionRecord}
    (h : SameSessions records table) {table' : Session.Table}
    (hrows : table'.rows.Perm table.rows) : SameSessions records table' where
  rows kind := (h.rows kind).trans ((hrows.symm.filter _).map _)
  ids := h.ids
  distinct := h.distinct.of_perm hrows

/-- A condition selects the same rows in a database and in memory. -/
theorem SameSessions.select (h : SameSessions tables.sessions table) (kind : PrincipalKind)
    (test : SessionRecord → Bool) (test' : Row → Bool)
    (hrecord : ∀ record : SessionRecord, test record = test' (record.view kind))
    (hrow : ∀ row, test' row.anonymous = test' row)
    (hkind : ∀ row, test' row = true → row.kind = kind) :
    (((tables.sessions kind).filter test).map (fun record => record.view kind)).Perm
      ((table.rows.filter test').map Row.anonymous) := by
  have hselected := (h.rows kind).filter test'
  rw [List.filter_map, List.filter_map, List.filter_filter] at hselected
  have htest : test' ∘ (fun record => record.view kind) = test :=
    funext fun record => (hrecord record).symm
  have hboth : (fun row => (test' ∘ Row.anonymous) row && row.kind == kind) = test' := by
    ext row
    rw [Function.comp, hrow, Bool.and_eq_left_iff_imp]
    simpa using hkind row
  rwa [htest, hboth] at hselected

/-- The sessions of one kind change in the same way in a database and in memory. -/
theorem SameSessions.replace (h : SameSessions tables.sessions table) {records : List SessionRecord}
    {table' : Session.Table}
    (hrows : (records.map (fun record => record.view kind)).Perm
      ((table'.rows.filter (fun row => row.kind == kind)).map Row.anonymous))
    (hids : (records.map SessionRecord.id).Nodup) (hdistinct : table'.Distinct)
    (hothers : ∀ other, other ≠ kind →
      (table.rows.filter (fun row => row.kind == other)).Perm
        (table'.rows.filter (fun row => row.kind == other))) :
    SameSessions (tables.setSessions kind records).sessions table' where
  rows other := by
    rw [Tables.setSessions]
    dsimp only
    split
    · rename_i heq
      rw [heq]
      exact hrows
    · rename_i hne
      exact (h.rows other).trans ((hothers other hne).map _)
  ids other := by
    rw [Tables.setSessions]
    dsimp only
    split
    · exact hids
    · exact h.ids other
  distinct := hdistinct

/-! ## The session of a name -/

/-- The current sessions with a token in a database are the live one of the name in memory. -/
theorem SameSessions.current (h : SameSessions tables.sessions table) (token : String) :
    (((tables.sessions kind).filter (fun record => record.isCurrent token now)).map
        (fun record => record.view kind)).Perm
      (((table.row? kind token).filter (fun row => row.isLiveAt (timeOf now))).map
        Row.anonymous).toList := by
  have hselected := h.select kind (fun record => record.isCurrent token now)
    (fun row => row.isNamed kind token && row.isLiveAt (timeOf now))
    (fun record => record.isCurrent_eq kind) (fun _ => rfl)
    (fun row hrow => (Session.Row.isNamed_iff.1 (Bool.and_eq_true _ _ ▸ hrow).1).1)
  rwa [h.distinct.filter_live, ← Option.toList_map] at hselected

/-- A token is taken in a database if it is taken in memory. -/
theorem SameSessions.taken_iff (h : SameSessions tables.sessions table) :
    (∃ record ∈ tables.sessions kind, record.token = token) ↔ table.row? kind token ≠ none := by
  have hselected := h.select kind (fun record => record.token == token)
    (fun row => row.isNamed kind token)
    (fun record => by simp [Row.isNamed, SessionRecord.view, Row.anonymous, SessionRecord.row])
    (fun _ => rfl) (fun row hrow => (Session.Row.isNamed_iff.1 hrow).1)
  rw [h.distinct.filter_named] at hselected
  constructor
  · rintro ⟨record, hmem, htoken⟩ hnone
    rw [hnone, Option.toList_none, List.map_nil, List.perm_nil, List.map_eq_nil_iff,
      List.filter_eq_nil_iff] at hselected
    exact hselected record hmem (beq_iff_eq.2 htoken)
  · intro hsome
    obtain ⟨row, hrow⟩ := Option.ne_none_iff_exists'.1 hsome
    rw [hrow, Option.toList_some, List.map_singleton] at hselected
    obtain ⟨record, hrecord, -⟩ := List.mem_map.1 (hselected.mem_iff.2 List.mem_cons_self)
    obtain ⟨hmem, htoken⟩ := List.mem_filter.1 hrecord
    exact ⟨record, hmem, beq_iff_eq.1 htoken⟩

/-- Storing a session comes to the same in a database and in memory. -/
theorem SameSessions.create (h : SameSessions tables.sessions table) {new : Session.New}
    {issuedAt : Timestamp} {reply : Except StorageError Session.SessionId}
    (hissued : issuedAt.IsWhole) (hexpires : (issuedAt.after new.ttl).IsWhole)
    (hyields : Yields now (answerSession issuedAt (.create new)).run tables reply after) :
    outline (Session.Call.anonymous (.create new)) reply =
        outline (Session.Call.anonymous (.create new)) (table.create issuedAt new).1 ∧
      SameSessions after.sessions (table.create issuedAt new).2 ∧
      after.entries = tables.entries := by
  cases hyields with
  | ask hexecutes hnext =>
    cases hexecutes with
    | addTaken htaken =>
      cases hnext
      obtain ⟨row, hrow⟩ := Option.ne_none_iff_exists'.1 (h.taken_iff.1 htaken)
      rw [Session.Table.create, hrow]
      exact ⟨rfl, h.reorder (.refl _), rfl⟩
    | addFree hfree hid =>
      cases hnext
      have hnone : table.row? new.kind new.token = none := by
        by_contra hsome
        obtain ⟨record, hmem, htoken⟩ := h.taken_iff.2 hsome
        exact hfree record hmem htoken
      obtain ⟨hreply, hrows⟩ := Session.Table.create_of_free hnone issuedAt
      rw [hreply]
      refine ⟨rfl, ?_, rfl⟩
      apply h.replace
      · rw [hrows, List.filter_append, List.map_append, List.map_cons,
          view_newRecord hissued hexpires _ (table.lastId + 1)]
        refine ((h.rows new.kind).cons _).trans ?_
        simpa [Session.New.row] using (List.perm_append_singleton _ _).symm
      · rw [List.map_cons, List.nodup_cons]
        refine ⟨?_, h.ids new.kind⟩
        simpa [newRecord] using hid
      · exact h.distinct.create new
      · intro other hne
        have hnew : (new.kind == other) = false := beq_false_of_ne hne.symm
        simp [hrows, Session.New.row, hnew]

/-- The current sessions with a token that a database finds are the live one in memory. -/
theorem SameSessions.found (h : SameSessions tables.sessions table) {found : List SessionRecord}
    (hfound : found.Perm
      ((tables.sessions kind).filter (fun record => record.isCurrent token now))) :
    (found = [] ∧ (table.row? kind token).filter (fun row => row.isLiveAt (timeOf now)) = none) ∨
      ∃ record row, found = [record] ∧
        (table.row? kind token).filter (fun row => row.isLiveAt (timeOf now)) = some row ∧
          record.view kind = row.anonymous := by
  have hcurrent := (hfound.map (fun record => record.view kind)).trans (h.current token)
  cases hlive : (table.row? kind token).filter (fun row => row.isLiveAt (timeOf now)) with
  | none =>
    rw [hlive] at hcurrent
    exact .inl ⟨by simpa using hcurrent, rfl⟩
  | some row =>
    rw [hlive] at hcurrent
    obtain ⟨record, hone, hview⟩ := List.map_eq_singleton_iff.1 (List.perm_singleton.1 hcurrent)
    exact .inr ⟨record, row, hone, rfl, hview⟩

/-- Finding a session comes to the same in a database and in memory. -/
theorem SameSessions.find (h : SameSessions tables.sessions table) {issuedAt : Timestamp}
    {reply : Except StorageError Row}
    (hyields : Yields now (answerSession issuedAt (.find kind token)).run tables reply after) :
    outline Row.anonymous reply =
        outline Row.anonymous (table.find (timeOf now) kind token) ∧ after = tables := by
  cases hyields with
  | ask hexecutes hnext =>
    cases hexecutes with
    | find hfound =>
      rw [Session.Table.find]
      rcases h.found hfound with ⟨rfl, hlive⟩ | ⟨record, row, rfl, hlive, hview⟩
      · cases hnext
        rw [hlive]
        exact ⟨rfl, rfl⟩
      · cases hnext
        rw [hlive]
        exact ⟨congrArg Except.ok hview, rfl⟩

/-- A session looks the same in a database and in memory when one is revoked. -/
theorem SessionRecord.view_revoked (record : SessionRecord) (kind : PrincipalKind) :
    (record.revoked token now).view kind =
      (record.view kind).revoked kind token (timeOf now) := by
  rw [revoked, Row.revoked, ← record.isCurrent_eq kind]
  split <;> rfl

/-- Where the live session of a name is revoked in both, a database and memory hold the same. -/
theorem SameSessions.revoked (h : SameSessions tables.sessions table) (kind : PrincipalKind)
    (token : String) (now : Int) :
    SameSessions (tables.setSessions kind
      ((tables.sessions kind).map (fun record => record.revoked token now))).sessions
        (table.revoke (timeOf now) kind token).2 := by
  have hrows (other : PrincipalKind) :
      (table.revoke (timeOf now) kind token).2.rows.filter (fun row => row.kind == other) =
        (table.rows.filter (fun row => row.kind == other)).map
          (fun row => row.revoked kind token (timeOf now)) := by
    rw [Session.Table.rows_revoke h.distinct, List.filter_map]
    simp only [Function.comp_def, Row.kind_revoked]
  apply h.replace
  · have hmarked := (h.rows kind).map (fun row => row.revoked kind token (timeOf now))
    simpa only [hrows, List.map_map, Function.comp_def, SessionRecord.view_revoked,
      Row.anonymous_revoked] using hmarked
  · have hid (record : SessionRecord) : (record.revoked token now).id = record.id := by
      rw [SessionRecord.revoked]
      split <;> rfl
    simpa only [List.map_map, Function.comp_def, hid] using h.ids kind
  · exact h.distinct.revoke
  · intro other hne
    rw [hrows]
    -- the rows of other kinds do not have the name
    have hsame (row : Row) (hmem : row ∈ table.rows.filter (fun row => row.kind == other)) :
        row.revoked kind token (timeOf now) = id row := by
      have hkind : row.kind = other := by simpa using (List.mem_filter.1 hmem).2
      simp [Row.revoked, Row.isNamed, hkind, hne]
    rw [List.map_congr_left hsame, List.map_id]

/-- Revoking a session comes to the same in a database and in memory. -/
theorem SameSessions.revoke (h : SameSessions tables.sessions table) {issuedAt : Timestamp}
    {reply : Except StorageError (Option PrincipalId)}
    (hyields : Yields now (answerSession issuedAt (.revoke kind token)).run tables reply after) :
    reply = .ok (table.revoke (timeOf now) kind token).1 ∧
      SameSessions after.sessions (table.revoke (timeOf now) kind token).2 ∧
        after.entries = tables.entries := by
  have hrevoked := h.revoked kind token now
  cases hyields with
  | ask hexecutes hnext =>
    cases hexecutes with
    | revoke hfound =>
      rcases h.found hfound with ⟨rfl, hlive⟩ | ⟨record, row, rfl, hlive, hview⟩
      · cases hnext
        refine ⟨?_, hrevoked, rfl⟩
        rw [Session.Table.revoke, hlive]
        rfl
      · cases hnext
        refine ⟨?_, hrevoked, rfl⟩
        rw [Session.Table.revoke, hlive]
        exact congrArg (fun row => Except.ok (some row.principalId)) hview

/-! ## Sessions that are over -/

/-- The sessions that are over in a database are those that may be deleted in memory. -/
theorem SameSessions.over (h : SameSessions tables.sessions table) (kind : PrincipalKind)
    (now : Int) :
    (((tables.sessions kind).filter (fun record => record.isOver now)).map
        (fun record => record.view kind)).Perm
      ((table.rows.filter (fun row => row.isVictim kind (timeOf now))).map Row.anonymous) :=
  h.select kind _ _ (fun record => record.isOver_eq kind) (fun _ => rfl)
    (fun _ hrow => (Row.isVictim_iff.1 hrow).1)

/-- As many sessions are over in a database as may be deleted in memory. -/
theorem SameSessions.countP_over (h : SameSessions tables.sessions table) (kind : PrincipalKind)
    (now : Int) :
    (tables.sessions kind).countP (fun record => record.isOver now) =
      table.rows.countP (fun row => row.isVictim kind (timeOf now)) := by
  rw [List.countP_eq_length_filter, List.countP_eq_length_filter]
  simpa using (h.over kind now).length_eq

/-- Counting the sessions that may be deleted comes to the same in a database and in memory. -/
theorem SameSessions.count (h : SameSessions tables.sessions table) {issuedAt : Timestamp}
    {reply : Except StorageError Nat}
    (hyields : Yields now (answerSession issuedAt (.countSweepable kind)).run tables reply after) :
    reply = .ok (table.countSweepable (timeOf now) kind) ∧ after = tables := by
  cases hyields with
  | ask hexecutes hnext =>
    cases hexecutes with
    | count hcount =>
      cases hnext
      rw [h.countP_over] at hcount
      refine ⟨congrArg Except.ok ?_, rfl⟩
      rw [hcount]
      rfl

/-- Of records with ids of their own, those with the ids of some are these, and the others are the
rest. -/
theorem picked_of_ids {records picked rest : List SessionRecord}
    (hids : (records.map SessionRecord.id).Nodup) (hrecords : (picked ++ rest).Perm records) :
    records.countP (fun record => record.id ∈ picked.map SessionRecord.id) = picked.length ∧
      (records.filter (fun record => record.id ∉ picked.map SessionRecord.id)).Perm rest := by
  have happart := (hrecords.map SessionRecord.id).nodup_iff.2 hids
  rw [List.map_append, List.nodup_append] at happart
  have hpicked (record : SessionRecord) (hmem : record ∈ picked) :
      record.id ∈ picked.map SessionRecord.id := List.mem_map_of_mem hmem
  have hrest (record : SessionRecord) (hmem : record ∈ rest) :
      record.id ∉ picked.map SessionRecord.id :=
    fun hsame => happart.2.2 _ hsame _ (List.mem_map_of_mem hmem) rfl
  generalize picked.map SessionRecord.id = ids at hpicked hrest ⊢
  constructor
  · rw [← hrecords.countP_eq, List.countP_append, List.countP_eq_length.2 (by simpa using hpicked),
      List.countP_eq_zero.2 (by simpa using hrest), Nat.add_zero]
  · refine (hrecords.symm.filter _).trans ?_
    rw [List.filter_append, List.filter_eq_nil_iff.2 (by simpa using hpicked),
      List.filter_eq_self.2 (by simpa using hrest), List.nil_append]

/-- Where the same sessions are deleted in both, a database and memory hold the same. -/
theorem SameSessions.deleted (h : SameSessions tables.sessions table)
    {picked rest left : List SessionRecord} {chosen : List Row} {table' : Session.Table}
    (hrecords : (picked ++ rest).Perm (tables.sessions kind)) (hleft : left.Perm rest)
    (hrows : (chosen ++ table'.rows).Perm table.rows)
    (hsame : picked.map (fun record => record.view kind) = chosen.map Row.anonymous)
    (hkind : ∀ row ∈ chosen, row.kind = kind) :
    SameSessions (tables.setSessions kind left).sessions table' := by
  apply h.replace
  · have hchosen : chosen.filter (fun row => row.kind == kind) = chosen :=
      List.filter_eq_self.2 fun row hmem => beq_iff_eq.2 (hkind row hmem)
    have hall := ((hrecords.map _).trans (h.rows kind)).trans
      ((hrows.symm.filter (fun row => row.kind == kind)).map Row.anonymous)
    rw [List.filter_append, List.map_append, List.map_append, hchosen, hsame,
      List.perm_append_left_iff] at hall
    exact (hleft.map _).trans hall
  · have hids := (hrecords.map SessionRecord.id).nodup_iff.2 (h.ids kind)
    rw [List.map_append, List.nodup_append] at hids
    exact (hleft.map SessionRecord.id).nodup_iff.2 hids.2.1
  · have hdistinct : Session.Table.Distinct ⟨chosen ++ table'.rows, 0⟩ :=
      (h.reorder hrows).distinct
    exact (List.pairwise_append.1 hdistinct).2.1
  · intro other hne
    refine (hrows.symm.filter _).trans ?_
    rw [List.filter_append]
    have hnone : chosen.filter (fun row => row.kind == other) = [] := by
      simp +contextual [hkind, hne.symm]
    rw [hnone, List.nil_append]

/-- Of the same sessions, those of a database are over just if those of memory may be deleted. -/
theorem over_iff_victims {picked : List SessionRecord} {chosen : List Row}
    (hsame : picked.map (fun record => record.view kind) = chosen.map Row.anonymous) (now : Int) :
    (∀ record ∈ picked, record.isOver now = true) ↔
      ∀ row ∈ chosen, row.isVictim kind (timeOf now) = true := by
  have hviews := congrArg
    (fun views => ∀ view ∈ views, Row.isVictim view kind (timeOf now) = true) hsame
  rw [List.forall_mem_map, List.forall_mem_map, eq_iff_iff] at hviews
  simp only [SessionRecord.isOver_eq _ kind]
  exact hviews

/-- Some sessions of a kind in a database are in memory, too. -/
theorem SameSessions.exists_rows (h : SameSessions tables.sessions table)
    {picked rest : List SessionRecord} (hrecords : (picked ++ rest).Perm (tables.sessions kind)) :
    ∃ chosen kept : List Row, (chosen ++ kept).Perm table.rows ∧
      picked.map (fun record => record.view kind) = chosen.map Row.anonymous := by
  have hviews := (hrecords.map (fun record => record.view kind)).trans (h.rows kind)
  obtain ⟨ordered, hordered, hmapped⟩ := exists_perm_of_perm_map hviews
  rw [List.map_append, List.map_eq_append_iff] at hmapped
  obtain ⟨chosen, kept, rfl, hchosen, -⟩ := hmapped
  refine ⟨chosen, kept ++ table.rows.filter (fun row => !row.kind == kind), ?_, hchosen.symm⟩
  rw [← List.append_assoc]
  exact (hordered.append_right _).trans
    (List.filter_append_perm (fun row => row.kind == kind) table.rows)

/-- Some sessions of a kind in memory are in a database, too. -/
theorem SameSessions.exists_records (h : SameSessions tables.sessions table)
    {chosen kept : List Row} (hrows : (chosen ++ kept).Perm table.rows)
    (hkind : ∀ row ∈ chosen, row.kind = kind) :
    ∃ picked rest : List SessionRecord, (picked ++ rest).Perm (tables.sessions kind) ∧
      picked.map (fun record => record.view kind) = chosen.map Row.anonymous := by
  have hviews := ((hrows.filter (fun row => row.kind == kind)).map Row.anonymous).trans
    (h.rows kind).symm
  rw [List.filter_append, List.filter_eq_self.2 fun row hmem => beq_iff_eq.2 (hkind row hmem),
    List.map_append] at hviews
  obtain ⟨ordered, hordered, hmapped⟩ := exists_perm_of_perm_map hviews
  obtain ⟨picked, rest, rfl, hpicked, -⟩ := List.map_eq_append_iff.1 hmapped
  exact ⟨picked, rest, hordered, hpicked⟩

/-- What a database deletes, memory deletes with its rows in some order. -/
theorem SameSessions.delete (h : SameSessions tables.sessions table) {issuedAt : Timestamp}
    {batchSize : UInt32} {reply : Except StorageError Nat}
    (hyields : Yields now (answerSession issuedAt (.deleteSweepable kind batchSize)).run tables
      reply after) :
    ∃ rows, rows.Perm table.rows ∧
      reply = .ok (Session.Table.deleteSweepable { table with rows } (timeOf now) kind
        batchSize).1 ∧
      SameSessions after.sessions
        (Session.Table.deleteSweepable { table with rows } (timeOf now) kind batchSize).2 ∧
      after.entries = tables.entries := by
  cases hyields with
  | ask hexecutes hnext =>
    cases hexecutes with
    | @deleteOver _ _ picked others hpicked hlimit =>
      cases hnext
      -- the sessions picked and the rest of the table
      have hrecords := (hpicked.append_right _).trans
        (List.filter_append_perm (fun record => record.isOver now) (tables.sessions kind))
      rw [List.append_assoc] at hrecords
      have hover (record : SessionRecord) (hmem : record ∈ picked) : record.isOver now = true :=
        (List.mem_filter.1 (hpicked.mem_iff.1 (List.mem_append_left _ hmem))).2
      obtain ⟨hcount, hleft⟩ := picked_of_ids (h.ids kind) hrecords
      -- in memory they stand in front of the others
      obtain ⟨chosen, kept, hrows, hsame⟩ := h.exists_rows hrecords
      have hvictims := (over_iff_victims hsame now).1 hover
      have hlength : chosen.length = picked.length := by
        simpa using congrArg List.length hsame.symm
      have hnumber : picked.length + others.length =
          table.rows.countP (fun row => row.isVictim kind (timeOf now)) := by
        rw [← h.countP_over, List.countP_eq_length_filter, ← hpicked.length_eq, List.length_append]
      have hdeleted := Session.Table.deleteFirst_append kept batchSize.toNat hvictims
        (by rw [hrows.countP_eq, hlength, ← hnumber, ← hlimit])
      refine ⟨_, hrows, ?_, ?_, rfl⟩
      · rw [Session.Table.deleteSweepable, hdeleted, hlength, ← hcount]
      · rw [Session.Table.deleteSweepable, hdeleted]
        exact h.deleted hrecords hleft hrows hsame
          fun row hmem => (Row.isVictim_iff.1 (hvictims row hmem)).1

/-- What memory deletes, a database can delete. -/
theorem SameSessions.exists_delete (h : SameSessions tables.sessions table)
    (kind : PrincipalKind) (batchSize : UInt32) (now : Int) (issuedAt : Timestamp) :
    ∃ after,
      Yields now (answerSession issuedAt (.deleteSweepable kind batchSize)).run tables
        (.ok (table.deleteSweepable (timeOf now) kind batchSize).1) after ∧
      SameSessions after.sessions (table.deleteSweepable (timeOf now) kind batchSize).2 ∧
      after.entries = tables.entries := by
  -- the rows that are lost, and their records
  obtain ⟨hlength, hvictims⟩ :=
    @Session.Table.lost_deleteSweepable table kind (timeOf now) h.distinct batchSize
  have hrows :=
    @Session.Table.lost_deleteSweepable_perm table kind (timeOf now) h.distinct batchSize
  generalize table.lost _ = lost at hlength hvictims hrows
  have hkind (row : Row) (hmem : row ∈ lost) : row.kind = kind :=
    (Row.isVictim_iff.1 (hvictims row hmem)).1
  obtain ⟨picked, rest, hrecords, hsame⟩ := h.exists_records hrows hkind
  obtain ⟨hcount, hleft⟩ := picked_of_ids (h.ids kind) hrecords
  -- they are as many as the limit allows of those that are over
  have hall := hrecords.filter (fun record => record.isOver now)
  rw [List.filter_append, List.filter_eq_self.2 ((over_iff_victims hsame now).2 hvictims)] at hall
  have hsize : picked.length = (table.deleteSweepable (timeOf now) kind batchSize).1 := by
    rw [← hlength]
    simpa using congrArg List.length hsame
  have hlimit : picked.length = min batchSize.toNat
      (picked.length + (rest.filter (fun record => record.isOver now)).length) := by
    rw [← List.length_append, hall.length_eq, ← List.countP_eq_length_filter, h.countP_over, hsize]
    exact Session.Table.deleteFirst_count _ _ _
  refine ⟨_, ?_, h.deleted hrecords hleft hrows hsame hkind, rfl⟩
  rw [← hsize, ← hcount]
  exact .ask (.deleteOver hall hlimit) .done

/-! ## All calls -/

/-- A call to the sessions that deletes none gives the same in a database and in memory, but for the
id of a session and the wording of a failure, and leaves the same in both. -/
theorem SameSessions.settles (h : SameSessions tables.sessions table) {now : Timestamp}
    {call : Session.Call} {reply : Except StorageError call.Value} (hnow : now.IsWhole)
    (hcall : call.RepresentedAt now) (hbatch : call.isBatch = false)
    (hyields : Yields (storedMicros now) (answerSession now call).run tables reply after) :
    outline call.anonymous reply = outline call.anonymous (table.answer now call).1 ∧
      SameSessions after.sessions (table.answer now call).2 ∧ after.entries = tables.entries := by
  have htime := timeOf_storedMicros hnow
  cases call with
  | create new => exact h.create hnow hcall hyields
  | find kind token =>
    obtain ⟨hreply, rfl⟩ := h.find hyields
    rw [htime] at hreply
    exact ⟨hreply, h, rfl⟩
  | revoke kind token =>
    obtain ⟨rfl, hafter, hentries⟩ := h.revoke hyields
    rw [htime] at hafter ⊢
    exact ⟨rfl, hafter, hentries⟩
  | countSweepable kind =>
    obtain ⟨rfl, rfl⟩ := h.count hyields
    rw [htime]
    exact ⟨rfl, h, rfl⟩
  | deleteSweepable kind batchSize => cases hbatch

/-- A call to the sessions in a database gives the same as in memory with its rows in some order,
but for the id of a session and the wording of a failure, and leaves the same in both. -/
theorem SameSessions.yields (h : SameSessions tables.sessions table) {now : Timestamp}
    {call : Session.Call} {reply : Except StorageError call.Value} (hnow : now.IsWhole)
    (hcall : call.RepresentedAt now)
    (hyields : Yields (storedMicros now) (answerSession now call).run tables reply after) :
    ∃ rows, rows.Perm table.rows ∧
      outline call.anonymous reply =
        outline call.anonymous (Session.Table.answer { table with rows } now call).1 ∧
      SameSessions after.sessions (Session.Table.answer { table with rows } now call).2 ∧
      after.entries = tables.entries := by
  by_cases hbatch : call.isBatch = true
  · cases call with
    | deleteSweepable kind batchSize =>
      obtain ⟨rows, hrows, rfl, hafter, hentries⟩ := h.delete hyields
      rw [timeOf_storedMicros hnow] at hafter ⊢
      exact ⟨rows, hrows, rfl, hafter, hentries⟩
    | _ => cases hbatch
  · rw [Bool.not_eq_true] at hbatch
    exact ⟨table.rows, .refl _, h.settles hnow hcall hbatch hyields⟩

/-- There is an id that no record has, if there are not too many of them. -/
theorem exists_id {records : List SessionRecord} (h : records.length < 0x8000000000000000) :
    ∃ id : Session.SessionId, ∀ record ∈ records, record.id ≠ id := by
  by_contra hall
  simp only [not_exists, not_forall, not_not] at hall
  -- more numbers than there are records
  have hsub : (List.range (records.length + 1)).map Int64.ofNat ⊆ records.map SessionRecord.id := by
    intro id _
    obtain ⟨record, hmem, rfl⟩ := hall id
    exact List.mem_map_of_mem hmem
  have hnodup : ((List.range (records.length + 1)).map Int64.ofNat).Nodup := by
    refine List.Nodup.map_on ?_ List.nodup_range
    intro first hfirst second hsecond hsame
    rw [List.mem_range] at hfirst hsecond
    have hsame := congrArg Int64.toInt hsame
    rw [Int64.toInt_ofNat_of_lt (by omega), Int64.toInt_ofNat_of_lt (by omega)] at hsame
    exact Int.ofNat_inj.1 hsame
  have hlength := hnodup.length_le_of_subset hsub
  rw [List.length_map, List.length_map, List.length_range] at hlength
  omega

/-- A database answers every call to the sessions that deletes none, if there are not too many of
them. -/
theorem SameSessions.exists_answer (h : SameSessions tables.sessions table) (now : Int)
    (issuedAt : Timestamp) {call : Session.Call} (hbatch : call.isBatch = false)
    (hfew : ∀ kind, (tables.sessions kind).length < 0x8000000000000000) :
    ∃ (reply : Except StorageError call.Value) (after : Tables),
      Yields now (answerSession issuedAt call).run tables reply after := by
  have hcurrent (kind : PrincipalKind) (token : String) :=
    h.found (.refl ((tables.sessions kind).filter fun record => record.isCurrent token now))
  cases call with
  | create new =>
    by_cases htaken : ∃ record ∈ tables.sessions new.kind, record.token = new.token
    · exact ⟨_, _, .ask (.addTaken htaken) .done⟩
    · have hfree (record : SessionRecord) (hmem : record ∈ tables.sessions new.kind) :
          record.token ≠ new.token := fun hsame => htaken ⟨record, hmem, hsame⟩
      obtain ⟨id, hid⟩ := exists_id (hfew new.kind)
      exact ⟨_, _, .ask (.addFree hfree hid) .done⟩
  | find kind token =>
    rcases hcurrent kind token with ⟨hnil, -⟩ | ⟨record, row, hone, -⟩
    · exact ⟨_, _, .ask (.find (by rw [hnil])) .done⟩
    · exact ⟨_, _, .ask (.find (by rw [hone])) .done⟩
  | revoke kind token =>
    rcases hcurrent kind token with ⟨hnil, -⟩ | ⟨record, row, hone, -⟩
    · exact ⟨_, _, .ask (.revoke (by rw [hnil])) .done⟩
    · exact ⟨_, _, .ask (.revoke (by rw [hone])) .done⟩
  | countSweepable kind =>
    have hcount : (tables.sessions kind).countP (fun record => record.isOver now) <
        0x8000000000000000 := Nat.lt_of_le_of_lt List.countP_le_length (hfew kind)
    exact ⟨_, _, .ask (.count (Int64.toInt_ofNat_of_lt (by omega))) .done⟩
  | deleteSweepable kind batchSize => cases hbatch

/-- What a call to the sessions gives in memory, a database can give as well, but for the id of a
session and the wording of a failure, and leaves the same in both. -/
theorem SameSessions.exists_yields (h : SameSessions tables.sessions table) {now : Timestamp}
    {call : Session.Call} (hnow : now.IsWhole) (hcall : call.RepresentedAt now)
    (hfew : table.rows.length < 0x8000000000000000) :
    ∃ (reply : Except StorageError call.Value) (after : Tables),
      Yields (storedMicros now) (answerSession now call).run tables reply after ∧
      outline call.anonymous reply = outline call.anonymous (table.answer now call).1 ∧
      SameSessions after.sessions (table.answer now call).2 ∧ after.entries = tables.entries := by
  by_cases hbatch : call.isBatch = true
  · cases call with
    | deleteSweepable kind batchSize =>
      obtain ⟨after, hyields, hafter, hentries⟩ :=
        h.exists_delete kind batchSize (storedMicros now) now
      rw [timeOf_storedMicros hnow] at hyields hafter
      exact ⟨_, after, hyields, rfl, hafter, hentries⟩
    | _ => cases hbatch
  · rw [Bool.not_eq_true] at hbatch
    -- a database holds as many sessions of a kind as memory
    have hrecords (kind : PrincipalKind) :
        (tables.sessions kind).length < 0x8000000000000000 := by
      have hlength := (h.rows kind).length_eq
      rw [List.length_map, List.length_map] at hlength
      rw [hlength]
      exact Nat.lt_of_le_of_lt (List.length_filter_le _ _) hfew
    obtain ⟨reply, after, hyields⟩ := h.exists_answer (storedMicros now) now hbatch hrecords
    exact ⟨reply, after, hyields, h.settles hnow hcall hbatch hyields⟩

end Sql

end Gatehouse
