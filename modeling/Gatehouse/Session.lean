import Gatehouse.Failure
import Gatehouse.Principal
import Gatehouse.Time

/-!
# Refresh sessions

A refresh session ties a refresh token to a principal, until it expires or is revoked. Here are the
rows, the calls to a store of sessions, and the store that holds them in memory: there a kind and a
token name at most one row.
-/

namespace Gatehouse.Session

/-- The number that names a session. -/
abbrev SessionId := Int64

/-- A session to be stored. -/
structure New where
  /-- Whose session it is. -/
  principalId : PrincipalId
  /-- The kind of principal. -/
  kind : PrincipalKind
  /-- The refresh token. -/
  token : String
  /-- The program the principal signed in with, if it is known. -/
  userAgent : Option String
  /-- The address the principal signed in from, if it is known. -/
  ipAddress : Option String
  /-- How long the session lives. -/
  ttl : Duration
  deriving DecidableEq

/-- A stored session. -/
structure Row where
  /-- The session's id. -/
  id : SessionId
  /-- Whose session it is. -/
  principalId : PrincipalId
  /-- The kind of principal. -/
  kind : PrincipalKind
  /-- The refresh token. -/
  token : String
  /-- The program the principal signed in with, if it is known. -/
  userAgent : Option String
  /-- The address the principal signed in from, if it is known. -/
  ipAddress : Option String
  /-- When the session was opened. -/
  issuedAt : Timestamp
  /-- When the session expires. -/
  expiresAt : Timestamp
  /-- When the session was revoked, if it was. -/
  revokedAt : Option Timestamp
  deriving DecidableEq

namespace Row

/-- Whether a session is neither revoked nor expired. -/
def isLiveAt (row : Row) (now : Timestamp) : Bool :=
  row.revokedAt.isNone && now.nanos < row.expiresAt.nanos

/-- Whether a session may be deleted. -/
def isSweepableAt (row : Row) (now : Timestamp) : Bool :=
  !row.isLiveAt now

/-- Whether a row has this kind and token. -/
def isNamed (row : Row) (kind : PrincipalKind) (token : String) : Bool :=
  row.kind == kind && row.token == token

/-- Whether a row is of this kind and may be deleted. -/
def isVictim (row : Row) (kind : PrincipalKind) (now : Timestamp) : Bool :=
  row.kind == kind && row.isSweepableAt now

end Row

/-- The row of a new session. -/
def New.row (new : New) (id : SessionId) (now : Timestamp) : Row :=
  { id
    principalId := new.principalId
    kind := new.kind
    token := new.token
    userAgent := new.userAgent
    ipAddress := new.ipAddress
    issuedAt := now
    expiresAt := now.after new.ttl
    revokedAt := none }

/-- A call to a store of sessions. -/
inductive Call where
  /-- Stores a session and gives its id. -/
  | create (new : New)
  /-- Finds the live session of a token. -/
  | find (kind : PrincipalKind) (token : String)
  /-- Revokes the live session of a token, and gives its owner if there was one. -/
  | revoke (kind : PrincipalKind) (token : String)
  /-- Counts the sessions that may be deleted. -/
  | countSweepable (kind : PrincipalKind)
  /-- Deletes some of the sessions that may be deleted, and counts them. -/
  | deleteSweepable (kind : PrincipalKind) (batchSize : UInt32)
  deriving DecidableEq

/-- What a call gives when it succeeds. -/
def Call.Value : Call → Type
  | create _ => SessionId
  | find _ _ => Row
  | revoke _ _ => Option PrincipalId
  | countSweepable _ => Nat
  | deleteSweepable _ _ => Nat

/-- Sessions held in memory. -/
structure Table where
  /-- The rows, the oldest first. -/
  rows : List Row := []
  /-- The id that was used up last. -/
  lastId : SessionId := 0

namespace Table

/-- The row of a kind and a token, live or not. -/
def row? (table : Table) (kind : PrincipalKind) (token : String) : Option Row :=
  table.rows.find? (fun row => row.isNamed kind token)

/-- The number of rows of a kind, live or not. -/
def count (table : Table) (kind : PrincipalKind) : Nat :=
  table.rows.countP (fun row => row.kind == kind)

/-- Stores a session, unless its token is taken. An id is used up either way. -/
def create (table : Table) (now : Timestamp) (new : New) :
    Except StorageError SessionId × Table :=
  -- The id is used up even when the token is taken.
  let id := table.lastId + 1
  match table.row? new.kind new.token with
  | some _ => (.error (.database "duplicate refresh token"), { table with lastId := id })
  | none => (.ok id, { rows := table.rows ++ [new.row id now], lastId := id })

/-- The live row of a kind and a token. -/
def find (table : Table) (now : Timestamp) (kind : PrincipalKind) (token : String) :
    Except StorageError Row :=
  match (table.row? kind token).filter (fun row => row.isLiveAt now) with
  | some row => .ok row
  | none => .error (.notFound "refresh session")

/-- Revokes the live row of a kind and a token. -/
def revoke (table : Table) (now : Timestamp) (kind : PrincipalKind) (token : String) :
    Option PrincipalId × Table :=
  match (table.row? kind token).filter (fun row => row.isLiveAt now) with
  | none => (none, table)
  | some row =>
    let rows := table.rows.map (fun other =>
      if other.isNamed kind token then { other with revokedAt := some now } else other)
    (some row.principalId, { table with rows })

/-- The number of rows of a kind that may be deleted. -/
def countSweepable (table : Table) (now : Timestamp) (kind : PrincipalKind) : Nat :=
  table.rows.countP (fun row => row.isVictim kind now)

/-- Deletes the first `limit` rows for which a test holds, and counts them. -/
def deleteFirst (test : Row → Bool) : Nat → List Row → Nat × List Row
  | _, [] => (0, [])
  | 0, rows => (0, rows)
  | limit + 1, row :: rows =>
    if test row then
      let (count, rows) := deleteFirst test limit rows
      (count + 1, rows)
    else
      let (count, rows) := deleteFirst test (limit + 1) rows
      (count, row :: rows)

/-- Deletes up to `batchSize` rows of a kind that may be deleted, the oldest first. -/
def deleteSweepable (table : Table) (now : Timestamp) (kind : PrincipalKind)
    (batchSize : UInt32) : Nat × Table :=
  let (count, rows) := deleteFirst (fun row => row.isVictim kind now) batchSize.toNat table.rows
  (count, { table with rows })

/-- Answers a call. -/
def answer (table : Table) (now : Timestamp) : (call : Call) →
    Except StorageError call.Value × Table
  | .create new => table.create now new
  | .find kind token => (table.find now kind token, table)
  | .revoke kind token =>
    let (owner, table) := table.revoke now kind token
    (.ok owner, table)
  | .countSweepable kind => (.ok (table.countSweepable now kind), table)
  | .deleteSweepable kind batchSize =>
    let (count, table) := table.deleteSweepable now kind batchSize
    (.ok count, table)

end Table

end Gatehouse.Session
