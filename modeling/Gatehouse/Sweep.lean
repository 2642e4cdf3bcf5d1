import Gatehouse.Lock
import Gatehouse.Settings

/-!
# Sweeping dead sessions

One sweep takes the job's lock and then, for each kind of principal, counts the sessions that may be
deleted and deletes them in batches, with a pause between two batches. It can also drop the shared
entries past their lifetime. Failures are reported and never break a sweep off; a sweep whose lock
is held, or cannot be reached, is skipped.
-/

namespace Gatehouse.Sweep

/-- What a sweep did for one kind of principal. -/
structure KindReport where
  /-- The kind. -/
  kind : PrincipalKind
  /-- How many rows were counted at the start. -/
  found : Nat := 0
  /-- How many rows were deleted. -/
  deleted : Nat := 0
  /-- How many batches deleted something. -/
  batches : Nat := 0
  /-- Why the work on this kind broke off, if it did. -/
  failure : Option String := none
  deriving DecidableEq, Repr

/-- What a sweep did. -/
structure Report where
  /-- What was done for each kind. -/
  kinds : List KindReport
  /-- How many shared entries were dropped. -/
  purged : Nat
  deriving DecidableEq, Repr

/-- The number of rows deleted altogether. -/
def Report.totalDeleted (report : Report) : Nat :=
  (report.kinds.map KindReport.deleted).foldr (· + ·) 0

/-- Whether the work on some kind broke off. -/
def Report.hasFailures (report : Report) : Bool :=
  report.kinds.any (fun kind => kind.failure.isSome)

/-- How a sweep ends. -/
inductive Outcome where
  /-- The lock was held by someone else, or could not be reached. -/
  | skipped
  /-- The sweep ran. -/
  | completed (report : Report)
  deriving DecidableEq, Repr

/-- Deletes batches until as many rows are deleted as were counted, nothing is left to delete, or a
call fails. Every batch that goes on deletes at least one row, so `found` batches are enough. -/
def deleteBatches (settings : SweepSettings) (kind : PrincipalKind) :
    Nat → Nat → KindReport → Request KindReport
  | 0, _, report => pure report
  | limit + 1, remaining, report => do
    match ← Request.session (.deleteSweepable kind settings.batchSize) with
    | .error error => return { report with failure := some error.message }
    | .ok (deleted : Nat) =>
      -- Someone else deleted the rest.
      if deleted = 0 then return report
      let report :=
        { report with deleted := report.deleted + deleted, batches := report.batches + 1 }
      let remaining := remaining - deleted
      if remaining = 0 then return report
      if !settings.pause.isZero then Request.outside (.pause settings.pause)
      deleteBatches settings kind limit remaining report

/-- Sweeps one kind. -/
def sweepKind (settings : SweepSettings) (kind : PrincipalKind) : Request KindReport := do
  match ← Request.session (.countSweepable kind) with
  | .error error => return { kind, failure := some error.message }
  | .ok (found : Nat) =>
    if found = 0 then return { kind }
    deleteBatches settings kind found found { kind, found }

/-- Drops the shared entries past their lifetime, and counts them; a failure counts as none. -/
def purge : Request Nat := do
  match ← Request.keyValue .purge with
  | .ok (count : Nat) => return count
  | .error _ => return 0

/-- Sweeps once. -/
def runOnce (settings : SweepSettings) (purges : Bool) : Request Outcome := do
  match ← Lock.acquire settings.job settings.lockTtl with
  | .error _ => return .skipped
  | .ok none => return .skipped
  | .ok (some key) =>
    let staff ← sweepKind settings .staff
    let customers ← sweepKind settings .customer
    let purged ← if purges then purge else pure 0
    -- A lock that cannot be released ends with its lifetime.
    discard (Lock.release key)
    return .completed ⟨[staff, customers], purged⟩

end Gatehouse.Sweep
