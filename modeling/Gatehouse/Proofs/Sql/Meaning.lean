import Gatehouse.Sql.Store
import Mathlib.Data.List.Perm.Basic

/-!
# What the statements mean

What a database makes of the statements for the sessions and the shared entries: the rows that a
condition selects, the rows that are added, changed or deleted, and the answer. No two sessions of a
table have the same token or the same id, and no two shared entries the same key; the owners of
sessions are there, and the range of the times is not a matter. A table has no order, so selected
rows come in any, and where a statement limits their number, any of them are taken.
-/

namespace Gatehouse

/-- A time is a whole number of microseconds. -/
def Timestamp.IsWhole (time : Timestamp) : Prop := (1000 : Int) ∣ time.nanos

/-- What is issued at a whole number of microseconds for a whole number of them expires at one, if
the calendar holds the time. -/
theorem Timestamp.IsWhole.after {now : Timestamp} (h : now.IsWhole) (span : Nat)
    (hearliest : earliest.nanos ≤ now.nanos)
    (hlatest : (now.plus ⟨1000 * span⟩).nanos ≤ latest.nanos) :
    (now.after ⟨1000 * span⟩).IsWhole := by
  rw [after_of_le_latest hearliest hlatest, IsWhole, plus]
  rw [IsWhole] at h
  dsimp only
  omega

/-- Where no two elements pass a test, those that pass are the one that is found. -/
theorem filter_eq_toList_find? {α : Type} {test : α → Bool} {list : List α}
    (h : list.Pairwise (fun first second => ¬ (test first = true ∧ test second = true))) :
    list.filter test = (list.find? test).toList := by
  induction list with
  | nil => rfl
  | cons head rest ih =>
    obtain ⟨hhead, hrest⟩ := List.pairwise_cons.1 h
    by_cases htest : test head = true
    · have hnone : rest.filter test = [] :=
        List.filter_eq_nil_iff.2 fun element hmem helement => hhead element hmem ⟨htest, helement⟩
      rw [List.filter_cons_of_pos htest, List.find?_cons_of_pos htest, hnone]
      rfl
    · rw [List.filter_cons_of_neg htest, List.find?_cons_of_neg htest, ih hrest]

/-- What is in the order of mapped elements is mapped from an order of the elements. -/
theorem exists_perm_of_perm_map {α β : Type} {f : α → β} {mapped : List β} {list : List α}
    (h : mapped.Perm (list.map f)) :
    ∃ ordered : List α, ordered.Perm list ∧ ordered.map f = mapped := by
  have hmap : List.Forall₂ (fun image element => image = f element) (list.map f) list := by
    rw [List.forall₂_map_left_iff]
    exact List.forall₂_same.2 fun _ _ => rfl
  obtain ⟨ordered, hordered, hperm⟩ := List.perm_comp_forall₂ h hmap
  refine ⟨ordered, hperm, ?_⟩
  have hequal : List.Forall₂ (· = ·) mapped (ordered.map f) := List.forall₂_map_right_iff.2 hordered
  rw [List.forall₂_eq_eq_eq] at hequal
  exact hequal.symm

namespace Sql

/-- A row of a table of sessions. Times are in whole microseconds since the start of the year 1970.
-/
structure SessionRecord where
  /-- `id`. -/
  id : Session.SessionId
  /-- `principal_id`. -/
  principalId : PrincipalId
  /-- `token`. -/
  token : String
  /-- `user_agent`. -/
  userAgent : Option String
  /-- `ip_address`. -/
  ipAddress : Option String
  /-- `issued_at`. -/
  issuedAt : Int
  /-- `expires_at`. -/
  expiresAt : Int
  /-- `revoked_at`. -/
  revokedAt : Option Int

/-- A row of the table of shared entries. -/
structure EntryRecord where
  /-- `key`. -/
  key : String
  /-- `value`. -/
  value : Bytes
  /-- `expires_at`, in whole microseconds since the start of the year 1970. -/
  expiresAt : Int

/-- The tables of the sessions of each kind and of the shared entries. -/
structure Tables where
  /-- The sessions of each kind. -/
  sessions : PrincipalKind → List SessionRecord := fun _ => []
  /-- The shared entries. -/
  entries : List EntryRecord := []

/-- The time of a number of microseconds. -/
def timeOf (micros : Int) : Timestamp := ⟨1000 * micros⟩

/-- A whole number of microseconds is stored as it is. -/
theorem timeOf_storedMicros {time : Timestamp} (h : time.IsWhole) :
    timeOf (storedMicros time) = time := by
  obtain ⟨micros, hmicros⟩ := h
  have hepoch : epoch.nanos = 1000 * 946684800000000 := by decide
  have hsince : time.nanos - epoch.nanos = 1000 * (micros - 946684800000000) := by omega
  have hstored : storedMicros time = micros := by
    rw [storedMicros, hsince, hepoch, Int.mul_tdiv_cancel_left _ (by decide)]
    omega
  rw [timeOf, hstored, ← hmicros]

/-- The microseconds of a second. -/
def microsPerSecond : Nat := 1000000

/-- The whole microseconds of an interval that is made from seconds, if a floating-point number can
hold them: the product is rounded, and so is its fraction, ties to the even number. -/
def interval? (seconds : Binary64) : Option Nat :=
  (seconds.mul? (.ofNat microsPerSecond)).map
    (fun micros => Binary64.roundDiv micros.toRatio.1 micros.toRatio.2)

namespace SessionRecord

/-- The row that is read from a record in the table of a kind. -/
def row (record : SessionRecord) (kind : PrincipalKind) : Session.Row :=
  ⟨record.id, record.principalId, kind, record.token, record.userAgent, record.ipAddress,
    timeOf record.issuedAt, timeOf record.expiresAt, record.revokedAt.map timeOf⟩

/-- `token = $1 AND revoked_at IS NULL AND expires_at > NOW()`. -/
def isCurrent (record : SessionRecord) (token : String) (now : Int) : Bool :=
  record.token == token && record.revokedAt.isNone && now < record.expiresAt

/-- `SET revoked_at = NOW() WHERE token = $1 AND revoked_at IS NULL AND expires_at > NOW()`. -/
def revoked (record : SessionRecord) (token : String) (now : Int) : SessionRecord :=
  if record.isCurrent token now then { record with revokedAt := some now } else record

/-- `revoked_at IS NOT NULL OR expires_at <= NOW()`. -/
def isOver (record : SessionRecord) (now : Int) : Bool :=
  record.revokedAt.isSome || record.expiresAt ≤ now

end SessionRecord

/-- The record of a new session. Of a time, what is less than a microsecond is cut off. -/
def newRecord (new : Session.New) (id : Session.SessionId) (issuedAt : Timestamp) :
    SessionRecord :=
  ⟨id, new.principalId, new.token, new.userAgent, new.ipAddress, storedMicros issuedAt,
    storedMicros (issuedAt.after new.ttl), none⟩

/-- Replaces the sessions of a kind. -/
def Tables.setSessions (tables : Tables) (kind : PrincipalKind) (records : List SessionRecord) :
    Tables :=
  { tables with sessions := fun other => if other = kind then records else tables.sessions other }

/-- `INSERT ... ON CONFLICT (key) DO UPDATE ... WHERE`: the entries that it leaves. -/
def upsert (new : EntryRecord) (condition : EntryRecord → Bool) (entries : List EntryRecord) :
    List EntryRecord :=
  if entries.any (fun entry => entry.key == new.key) then
    entries.map (fun entry => if entry.key == new.key && condition entry then new else entry)
  else new :: entries

/-- The number of rows that `INSERT ... ON CONFLICT (key) DO UPDATE ... WHERE` adds or changes. -/
def upserted (new : EntryRecord) (condition : EntryRecord → Bool) (entries : List EntryRecord) :
    Nat :=
  if entries.any (fun entry => entry.key == new.key) then
    entries.countP (fun entry => entry.key == new.key && condition entry)
  else 1

/-- A database executes a statement at a time: what it answers, and what it leaves in the tables. -/
inductive Executes (now : Int) (tables : Tables) :
    (statement : Statement) → Except Fault (Answer statement.Row) → Tables → Prop where
  /-- A session whose token is taken is refused. -/
  | addTaken {new : Session.New} {issuedAt : Timestamp}
      (htaken : ∃ record ∈ tables.sessions new.kind, record.token = new.token) :
      Executes now tables (.addSession new issuedAt) (.error .refused) tables
  /-- A session whose token is free is added, under an id that no other has. -/
  | addFree {new : Session.New} {issuedAt : Timestamp} {id : Session.SessionId}
      (hfree : ∀ record ∈ tables.sessions new.kind, record.token ≠ new.token)
      (hid : ∀ record ∈ tables.sessions new.kind, record.id ≠ id) :
      Executes now tables (.addSession new issuedAt) (.ok ⟨[id], 1⟩)
        (tables.setSessions new.kind
          (newRecord new id issuedAt :: tables.sessions new.kind))
  /-- The current sessions with a token are selected. -/
  | find {kind : PrincipalKind} {token : String} {found : List SessionRecord}
      (hfound : found.Perm
        ((tables.sessions kind).filter (fun record => record.isCurrent token now))) :
      Executes now tables (.findSession kind token)
        (.ok ⟨found.map (fun record => record.row kind), found.length⟩) tables
  /-- The current sessions with a token are marked, and their owners are given. -/
  | revoke {kind : PrincipalKind} {token : String} {found : List SessionRecord}
      (hfound : found.Perm
        ((tables.sessions kind).filter (fun record => record.isCurrent token now))) :
      Executes now tables (.revokeSession kind token)
        (.ok ⟨found.map SessionRecord.principalId, found.length⟩)
        (tables.setSessions kind
          ((tables.sessions kind).map (fun record => record.revoked token now)))
  /-- The sessions that are over are counted. -/
  | count {kind : PrincipalKind} {count : Int64}
      (hcount : count.toInt =
        (tables.sessions kind).countP (fun record => record.isOver now)) :
      Executes now tables (.countSweepable kind) (.ok ⟨[count], 1⟩) tables
  /-- The sessions with the ids of some that are over are deleted: of as many as the limit allows,
  or of all. -/
  | deleteOver {kind : PrincipalKind} {batchSize : UInt32} {picked others : List SessionRecord}
      (hpicked : (picked ++ others).Perm
        ((tables.sessions kind).filter (fun record => record.isOver now)))
      (hlimit : picked.length = min batchSize.toNat (picked.length + others.length)) :
      Executes now tables (.deleteSweepable kind batchSize)
        (.ok ⟨[], (tables.sessions kind).countP (fun record =>
          record.id ∈ picked.map SessionRecord.id)⟩)
        (tables.setSessions kind ((tables.sessions kind).filter (fun record =>
          record.id ∉ picked.map SessionRecord.id)))
  /-- The entries with a key that are not past their lifetime are selected. -/
  | get {key : String} {found : List EntryRecord}
      (hfound : found.Perm
        (tables.entries.filter (fun entry => entry.key == key && now < entry.expiresAt))) :
      Executes now tables (.getEntry key)
        (.ok ⟨found.map EntryRecord.value, found.length⟩) tables
  /-- An entry takes the place of the one with its key. -/
  | set {key : String} {value : Bytes} {ttl : Duration} {span : Nat}
      (hspan : interval? (secondsOf ttl) = some span) :
      Executes now tables (.setEntry key value ttl)
        (.ok ⟨[], upserted ⟨key, value, now + span⟩ (fun _ => true) tables.entries⟩)
        { tables with
          entries := upsert ⟨key, value, now + span⟩ (fun _ => true) tables.entries }
  /-- An entry takes the place of the one with its key, if that is past its lifetime. -/
  | setAbsent {key : String} {value : Bytes} {ttl : Duration} {span : Nat}
      (hspan : interval? (secondsOf ttl) = some span) :
      Executes now tables (.setAbsentEntry key value ttl)
        (.ok ⟨[], upserted ⟨key, value, now + span⟩ (fun entry => entry.expiresAt ≤ now)
          tables.entries⟩)
        { tables with
          entries := upsert ⟨key, value, now + span⟩ (fun entry => entry.expiresAt ≤ now)
            tables.entries }
  /-- The entries with a key are deleted. -/
  | delete {key : String} :
      Executes now tables (.deleteEntry key)
        (.ok ⟨[], tables.entries.countP (fun entry => entry.key == key)⟩)
        { tables with entries := tables.entries.filter (fun entry => entry.key != key) }
  /-- The entries past their lifetime are deleted. -/
  | purge :
      Executes now tables .purgeEntries
        (.ok ⟨[], tables.entries.countP (fun entry => entry.expiresAt ≤ now)⟩)
        { tables with
          entries := tables.entries.filter (fun entry => !(entry.expiresAt ≤ now)) }

/-- Work on a database that executes its statements at a time, one after another: what the work
comes to, and what it leaves in the tables. -/
inductive Yields (now : Int) {α : Type} : Program database α → Tables → α → Tables → Prop where
  /-- The work is done. -/
  | done {value : α} {tables : Tables} : Yields now (.done value) tables value tables
  /-- The work goes on with the answer to a statement. -/
  | ask {statement : Statement} {next : Except Fault (Answer statement.Row) → Program database α}
      {tables middle after : Tables} {reply : Except Fault (Answer statement.Row)} {value : α}
      (hexecutes : Executes now tables statement reply middle)
      (hnext : Yields now (next reply) middle value after) :
      Yields now (.ask statement next) tables value after

end Sql

end Gatehouse
