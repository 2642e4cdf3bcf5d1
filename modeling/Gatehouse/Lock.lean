import Gatehouse.Request

/-!
# A lock among the shared entries

A lock by name, held by whoever set its entry first and until the entry is dropped or its lifetime
ends. Whoever holds a lock keeps its key to release it with.
-/

namespace Gatehouse.Lock

/-- What the entry of a held lock holds. -/
def heldValue : Bytes := utf8 "locked"

/-- The key of the lock of a job. -/
def keyFor (job : String) : String := job ++ "_lock"

/-- Takes the lock of a job, unless it is held, and gives its key. -/
def acquire (job : String) (ttl : Duration) : Request (Except StorageError (Option String)) := do
  match ← Request.keyValue (.setIfAbsent (keyFor job) heldValue ttl) with
  | .ok true => return .ok (some (keyFor job))
  | .ok false => return .ok none
  | .error error => return .error error

/-- Releases the lock with a key. -/
def release (key : String) : Request (Except StorageError Unit) :=
  Request.keyValue (.delete key)

end Gatehouse.Lock
