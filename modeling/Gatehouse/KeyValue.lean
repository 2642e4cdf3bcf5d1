import Gatehouse.Bytes
import Gatehouse.Failure
import Gatehouse.Time

/-!
# Shared entries with a lifetime

A store of byte strings under keys, each with a lifetime, shared by all who use it. An entry past
its lifetime counts as absent, whether or not it has been dropped.
-/

namespace Gatehouse.KeyValue

/-- A call to the store. -/
inductive Call where
  /-- The live value of a key. -/
  | get (key : String)
  /-- Sets a key for a lifetime. -/
  | set (key : String) (value : Bytes) (ttl : Duration)
  /-- Sets a key for a lifetime unless it has a live value, and says whether it did. -/
  | setIfAbsent (key : String) (value : Bytes) (ttl : Duration)
  /-- Drops a key. -/
  | delete (key : String)
  /-- Drops all entries past their lifetime, and counts them. -/
  | purge
  deriving DecidableEq

/-- What a call gives when it succeeds. -/
def Call.Value : Call → Type
  | get _ => Option Bytes
  | set _ _ _ => Unit
  | setIfAbsent _ _ _ => Bool
  | delete _ => Unit
  | purge => Nat

/-- An entry held in memory. -/
structure Entry where
  /-- The key. -/
  key : String
  /-- The value. -/
  value : Bytes
  /-- When the entry's lifetime ends. -/
  deadline : Instant
  deriving DecidableEq

/-- Whether an entry is within its lifetime. -/
def Entry.isLiveAt (entry : Entry) (now : Instant) : Bool :=
  now.nanos < entry.deadline.nanos

/-- Entries held in memory. -/
structure Table where
  /-- The entries; a key has at most one. -/
  entries : List Entry := []

namespace Table

/-- The entry of a key, live or not. -/
def lookup? (table : Table) (key : String) : Option Entry :=
  table.entries.find? (fun entry => entry.key == key)

/-- The live value of a key. -/
def get (table : Table) (now : Instant) (key : String) : Option Bytes :=
  ((table.lookup? key).filter (fun entry => entry.isLiveAt now)).map Entry.value

/-- Drops a key. -/
def erase (table : Table) (key : String) : Table :=
  ⟨table.entries.filter (fun entry => entry.key != key)⟩

/-- Puts an entry in the place of the one with its key. -/
def put (table : Table) (entry : Entry) : Table :=
  ⟨entry :: (table.erase entry.key).entries⟩

/-- Sets a key for a lifetime, if the clock can show its end. -/
def set (table : Table) (now : Instant) (key : String) (value : Bytes) (ttl : Duration) :
    Option Table :=
  (now.plus? ttl).map (fun deadline => table.put ⟨key, value, deadline⟩)

/-- Sets a key for a lifetime unless it has a live value. -/
def setIfAbsent (table : Table) (now : Instant) (key : String) (value : Bytes) (ttl : Duration) :
    Option (Bool × Table) :=
  if (table.get now key).isSome then some (false, table)
  else (table.set now key value ttl).map (fun table => (true, table))

/-- Drops all entries past their lifetime, and counts them. -/
def purge (table : Table) (now : Instant) : Nat × Table :=
  let kept := table.entries.filter (fun entry => entry.isLiveAt now)
  (table.entries.length - kept.length, ⟨kept⟩)

/-- The number of live entries. -/
def countLive (table : Table) (now : Instant) : Nat :=
  table.entries.countP (fun entry => entry.isLiveAt now)

/-- Answers a call. There is no answer when a lifetime ends later than the clock can show: the
request that made the call breaks off. -/
def answer (table : Table) (now : Instant) : (call : Call) → Option (call.Value × Table)
  | .get key => some (table.get now key, table)
  | .set key value ttl => (table.set now key value ttl).map (fun table => ((), table))
  | .setIfAbsent key value ttl => table.setIfAbsent now key value ttl
  | .delete key => some ((), table.erase key)
  | .purge => some (table.purge now)

end Table

end Gatehouse.KeyValue
