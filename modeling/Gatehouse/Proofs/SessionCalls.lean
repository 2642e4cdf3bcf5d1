import Gatehouse.Proofs.Session

/-!
# Calls to a table of sessions, one after another

Runs of calls at times of their own. A table keeps its rows in no particular order, so each call may
find them in another one, and which of the rows a batch takes is open. Main statements: what a call
makes of a row (`Row.Becomes`, `becomes_next`), that only storing a session adds a row
(`row?_next_of_none`), and that the number of sessions stored decides the next id
(`lastId_after`).
-/

namespace Gatehouse.Session

/-- A call to a table of sessions, and when it is answered. -/
structure Moment where
  /-- The time. -/
  now : Timestamp
  /-- The call. -/
  call : Call
  /-- The order in which the call finds rows. -/
  order : List Row → List Row := id
  /-- Rows are put in another order, and nothing else. -/
  perm : ∀ rows, (order rows).Perm rows := by exact fun rows => .refl rows

/-- The calls are in the order of their times. -/
def Chronological (calls : List Moment) : Prop :=
  calls.Pairwise (fun first second => first.now.nanos ≤ second.now.nanos)

/-- The kind and the token that a call names. -/
def Call.name? : Call → Option (PrincipalKind × String)
  | create new => some (new.kind, new.token)
  | find kind token => some (kind, token)
  | revoke kind token => some (kind, token)
  | countSweepable _ => none
  | deleteSweepable _ _ => none

/-- Whether a call stores a session. -/
def Call.creates : Call → Bool
  | create _ => true
  | _ => false

/-- How many of some calls store a session. -/
def creations (calls : List Moment) : Nat := calls.countP (fun moment => moment.call.creates)

/-- What a call makes of a row: the same row, a revoked one, or none. -/
inductive Row.Becomes (row : Row) (moment : Moment) : Option Row → Prop where
  /-- The row stays, unless it is live and the call revokes it. -/
  | stays (hcall : moment.call = .revoke row.kind row.token → row.isLiveAt moment.now = false) :
      Becomes row moment (some row)
  /-- The row is revoked, while it is live. -/
  | revoked (hcall : moment.call = .revoke row.kind row.token)
      (hlive : row.isLiveAt moment.now = true) :
      Becomes row moment (some { row with revokedAt := some moment.now })
  /-- The row is deleted with others of its kind, when it is not live. -/
  | deleted (size : UInt32) (hcall : moment.call = .deleteSweepable row.kind size)
      (hdead : row.isLiveAt moment.now = false) : Becomes row moment none

namespace Table

/-- The table with its rows in the order in which a call finds them. -/
def ordered (table : Table) (moment : Moment) : Table :=
  { table with rows := moment.order table.rows }

/-- What a call gives. -/
def reply (table : Table) (moment : Moment) : Except StorageError moment.call.Value :=
  ((table.ordered moment).answer moment.now moment.call).1

/-- The table that a call leaves. -/
def next (table : Table) (moment : Moment) : Table :=
  ((table.ordered moment).answer moment.now moment.call).2

/-- The table after calls. -/
def after (table : Table) (calls : List Moment) : Table := calls.foldl next table

variable {table : Table} {kind other : PrincipalKind} {token otherToken : String}
  {now : Timestamp} {row : Row}

/-- Calls go on where others have led. -/
theorem after_append (table : Table) (first second : List Moment) :
    table.after (first ++ second) = (table.after first).after second :=
  List.foldl_append

/-- The last of some calls leaves the table after them. -/
theorem after_concat (table : Table) (calls : List Moment) (moment : Moment) :
    table.after (calls ++ [moment]) = (table.after calls).next moment :=
  table.after_append calls [moment]

/-! ## What one call does to the row of a name -/

/-- A row that is found has the name. -/
theorem named_of_row? (hrow : table.row? kind token = some row) :
    row.kind = kind ∧ row.token = token := by
  rw [row?] at hrow
  exact Row.isNamed_iff.1 (by simpa using List.find?_some hrow)

/-- Storing a session adds the row of its name, if there is none. -/
theorem row?_create (table : Table) (now : Timestamp) (new : New) (kind : PrincipalKind)
    (token : String) :
    (table.create now new).2.row? kind token =
      if table.row? kind token = none ∧ new.kind = kind ∧ new.token = token then
        some (new.row (table.lastId + 1) now)
      else table.row? kind token := by
  by_cases hname : new.kind = kind ∧ new.token = token
  · obtain ⟨rfl, rfl⟩ := hname
    cases hrow : table.row? new.kind new.token with
    | none =>
      have hnamed : (new.row (table.lastId + 1) now).isNamed new.kind new.token = true :=
        Row.isNamed_iff.2 ⟨rfl, rfl⟩
      rw [if_pos ⟨rfl, rfl, rfl⟩, row?, (create_of_free hrow now).2, List.find?_append,
        show table.rows.find? _ = none from hrow, Option.none_or, List.find?_cons, hnamed]
    | some row =>
      rw [if_neg (fun h => by cases h.1), row?, (create_of_taken (by simp [hrow]) now).2]
      exact hrow
  · rw [if_neg (fun h => hname h.2)]
    have hnamed : (new.row (table.lastId + 1) now).isNamed kind token = false :=
      Bool.eq_false_iff.2 (fun h => hname (Row.isNamed_iff.1 h))
    by_cases hfree : table.row? new.kind new.token = none
    · rw [row?, (create_of_free hfree now).2, List.find?_append, List.find?_cons, hnamed,
        List.find?_nil, Option.or_none]
      rfl
    · rw [row?, (create_of_taken hfree now).2]
      rfl

/-- Revoking a session marks the row of its name, if that is live. -/
theorem row?_revoke (table : Table) (now : Timestamp) (kind other : PrincipalKind)
    (token otherToken : String) :
    (table.revoke now kind token).2.row? other otherToken =
      (table.row? other otherToken).map (fun row =>
        if other = kind ∧ otherToken = token ∧ row.isLiveAt now = true then
          { row with revokedAt := some now }
        else row) := by
  have hname {row : Row} (hrow : table.row? other otherToken = some row) :
      row.isNamed kind token = true ↔ other = kind ∧ otherToken = token := by
    obtain ⟨rfl, rfl⟩ := named_of_row? hrow
    exact Row.isNamed_iff
  rw [revoke]
  cases hlive : (table.row? kind token).filter (fun row => row.isLiveAt now) with
  | none =>
    -- no live row has the name, so nothing is marked
    cases hrow : table.row? other otherToken with
    | none => rfl
    | some row =>
      have hunmarked : ¬ (other = kind ∧ otherToken = token ∧ row.isLiveAt now = true) := by
        rintro ⟨rfl, rfl, h⟩
        exact Option.filter_eq_none_iff.1 hlive row hrow h
      rw [Option.map_some, if_neg hunmarked]
  | some found =>
    obtain ⟨hfound, hfoundLive⟩ := Option.filter_eq_some_iff.1 hlive
    have hsame : (fun row : Row => row.isNamed other otherToken) ∘ (fun row : Row =>
        if row.isNamed kind token then { row with revokedAt := some now } else row) =
          fun row => row.isNamed other otherToken := by
      funext row
      simp only [Function.comp]
      split <;> rfl
    dsimp only [row?]
    rw [List.find?_map, hsame]
    cases hrow : table.row? other otherToken with
    | none => rw [show table.rows.find? _ = none from hrow, Option.map_none, Option.map_none]
    | some row =>
      rw [show table.rows.find? _ = some row from hrow, Option.map_some, Option.map_some]
      by_cases hsame : other = kind ∧ otherToken = token
      · obtain ⟨rfl, rfl⟩ := hsame
        cases hrow.symm.trans hfound
        rw [if_pos ((hname hrow).2 ⟨rfl, rfl⟩), if_pos ⟨rfl, rfl, hfoundLive⟩]
      · rw [if_neg (fun h => hsame ((hname hrow).1 h)), if_neg (fun h => hsame ⟨h.1, h.2.1⟩)]

/-- Deleting a batch leaves the row of a name as it is, or takes it away if it is a row of the kind
that is not live. -/
theorem row?_deleteSweepable (h : table.Distinct) (hrow : table.row? other token = some row)
    (size : UInt32) :
    (table.deleteSweepable now kind size).2.row? other token = some row ∨
      row.isVictim kind now = true ∧
        (table.deleteSweepable now kind size).2.row? other token = none := by
  have hsub : (table.deleteSweepable now kind size).2.rows.Sublist table.rows :=
    deleteFirst_sublist _ _ _
  cases hleft : (table.deleteSweepable now kind size).2.row? other token with
  | some left =>
    -- what is left was there before, and the name has one row
    obtain ⟨hmem, hnamed⟩ := (row?_eq_some_iff (h.deleteSweepable size)).1 hleft
    rw [← hrow, (row?_eq_some_iff h).2 ⟨hsub.subset hmem, hnamed⟩]
    exact .inl rfl
  | none =>
    obtain ⟨hmem, hnamed⟩ := (row?_eq_some_iff h).1 hrow
    cases hvictim : row.isVictim kind now with
    | true => exact .inr ⟨rfl, rfl⟩
    | false =>
      have hkept : row ∈ (table.deleteSweepable now kind size).2.rows :=
        mem_deleteFirst hmem hvictim size.toNat
      rw [row?_eq_none_iff.1 hleft row hkept] at hnamed
      cases hnamed

/-- Rows stay distinct whatever is called. -/
theorem Distinct.answer (h : table.Distinct) (now : Timestamp) (call : Call) :
    (table.answer now call).2.Distinct := by
  cases call with
  | create new => exact h.create new
  | find kind token => exact h
  | revoke kind token => exact h.revoke
  | countSweepable kind => exact h
  | deleteSweepable kind size => exact h.deleteSweepable size

/-- Rows are distinct in the order in which a call finds them. -/
theorem Distinct.ordered (h : table.Distinct) (moment : Moment) :
    (table.ordered moment).Distinct :=
  h.of_perm (moment.perm table.rows)

/-- Every call leaves rows distinct. -/
theorem Distinct.next (h : table.Distinct) (moment : Moment) : (table.next moment).Distinct :=
  (h.ordered moment).answer moment.now moment.call

/-- The row of a name is found in every order. -/
theorem row?_ordered (h : table.Distinct) (moment : Moment) (kind : PrincipalKind)
    (token : String) : (table.ordered moment).row? kind token = table.row? kind token := by
  refine Option.ext fun row => ?_
  rw [row?_eq_some_iff h, row?_eq_some_iff (h.ordered moment)]
  exact and_congr_left' (moment.perm table.rows).mem_iff

/-- A call makes of the row of a name what a call can make of a row. -/
theorem becomes_next (h : table.Distinct) (hrow : table.row? kind token = some row)
    (moment : Moment) : row.Becomes moment ((table.next moment).row? kind token) := by
  obtain ⟨rfl, rfl⟩ := named_of_row? hrow
  have hfound := (row?_ordered h moment row.kind row.token).trans hrow
  obtain ⟨now, call, order, perm⟩ := moment
  cases call with
  | create new =>
    rw [next, answer, row?_create, hfound, if_neg (fun hfree => by cases hfree.1)]
    exact .stays (by rintro ⟨⟩)
  | find kind token =>
    rw [next, answer, hfound]
    exact .stays (by rintro ⟨⟩)
  | revoke kind token =>
    rw [next, answer]
    dsimp only
    rw [row?_revoke, hfound, Option.map_some]
    split
    · rename_i hmarked
      exact .revoked (by rw [hmarked.1, hmarked.2.1]) hmarked.2.2
    · rename_i hunmarked
      refine .stays ?_
      rintro ⟨⟩
      exact Bool.eq_false_iff.2 (fun hlive => hunmarked ⟨rfl, rfl, hlive⟩)
  | countSweepable kind =>
    rw [next, answer, hfound]
    exact .stays (by rintro ⟨⟩)
  | deleteSweepable kind size =>
    rw [next, answer]
    rcases row?_deleteSweepable (h.ordered _) hfound size with hkept | ⟨hvictim, hgone⟩
    · rw [hkept]
      exact .stays (by rintro ⟨⟩)
    · obtain ⟨hkind, hdead⟩ := Row.isVictim_iff.1 hvictim
      rw [hgone]
      exact .deleted size (by rw [hkind]) hdead

/-- Only storing a session adds a row: the row of the session, with the next id. -/
theorem row?_next_of_none (h : table.Distinct) (hrow : table.row? kind token = none)
    (moment : Moment) :
    (table.next moment).row? kind token = none ∨
      ∃ new, moment.call = .create new ∧ new.kind = kind ∧ new.token = token ∧
        (table.next moment).row? kind token = some (new.row (table.lastId + 1) moment.now) := by
  have hnone := (row?_ordered h moment kind token).trans hrow
  obtain ⟨now, call, order, perm⟩ := moment
  cases call with
  | create new =>
    rw [next, answer, row?_create, hnone]
    split
    · rename_i hname
      exact .inr ⟨new, rfl, hname.2.1, hname.2.2, rfl⟩
    · exact .inl rfl
  | find other otherToken => exact .inl hnone
  | revoke other otherToken =>
    refine .inl ?_
    rw [next, answer]
    dsimp only
    rw [row?_revoke, hnone, Option.map_none]
  | countSweepable other => exact .inl hnone
  | deleteSweepable other size =>
    refine .inl ?_
    rw [row?_eq_none_iff] at hnone ⊢
    exact fun row hmem => hnone row ((deleteFirst_sublist _ _ _).subset hmem)

/-- A call that names another session leaves the row of a name as it is. -/
theorem row?_next_of_name_ne (h : table.Distinct) {moment : Moment}
    {name : PrincipalKind × String} (hname : moment.call.name? = some name)
    (hne : name ≠ (kind, token)) :
    (table.next moment).row? kind token = table.row? kind token := by
  have hother (hsame : moment.call.name? = some (kind, token)) : False :=
    hne (Option.some.inj (hname.symm.trans hsame))
  cases hrow : table.row? kind token with
  | none =>
    rcases row?_next_of_none h hrow moment with hnone | ⟨new, hcall, rfl, rfl, -⟩
    · exact hnone
    · exact absurd (by rw [hcall]; rfl) hother
  | some row =>
    obtain ⟨rfl, rfl⟩ := named_of_row? hrow
    have hbecomes := becomes_next h hrow moment
    generalize (table.next moment).row? row.kind row.token = left at hbecomes ⊢
    cases hbecomes with
    | stays => rfl
    | revoked hcall => exact absurd (by rw [hcall]; rfl) hother
    | deleted size hcall =>
      rw [hcall] at hname
      cases hname

/-- Whatever is called, no two rows have the same name. -/
theorem distinct_after (calls : List Moment) : (({} : Table).after calls).Distinct := by
  have hkept (table : Table) (h : table.Distinct) : (table.after calls).Distinct := by
    induction calls generalizing table with
    | nil => exact h
    | cons moment calls ih => exact ih _ (h.next moment)
  exact hkept {} .nil

/-! ## Ids -/

/-- A call that stores a session uses up an id, even if the session is refused. -/
theorem lastId_next (table : Table) (moment : Moment) :
    (table.next moment).lastId =
      if moment.call.creates then table.lastId + 1 else table.lastId := by
  obtain ⟨now, call, order, perm⟩ := moment
  cases call with
  | create new =>
    rw [next, answer, create]
    split <;> rfl
  | find kind token => rfl
  | revoke kind token =>
    have hrevoke (found : Table) : (found.revoke now kind token).2.lastId = found.lastId := by
      rw [revoke]
      split <;> rfl
    exact hrevoke _
  | countSweepable kind => rfl
  | deleteSweepable kind size => rfl

/-- The last id is the number of calls that were to store a session. -/
theorem lastId_after (calls : List Moment) :
    (({} : Table).after calls).lastId = Int64.ofNat (creations calls) := by
  have hmore (table : Table) (used : Nat) (h : table.lastId = Int64.ofNat used) :
      (table.after calls).lastId = Int64.ofNat (used + creations calls) := by
    induction calls generalizing table used with
    | nil => exact h
    | cons moment calls ih =>
      have hnext := lastId_next table moment
      rw [creations, List.countP_cons]
      cases hcreates : moment.call.creates with
      | true =>
        rw [hcreates, if_pos rfl, h] at hnext
        rw [if_pos rfl, ← Nat.add_assoc, Nat.add_right_comm]
        exact ih _ (used + 1) (hnext.trans (Int64.ofNat_add used 1).symm)
      | false =>
        rw [hcreates, if_neg Bool.false_ne_true, h] at hnext
        rw [if_neg Bool.false_ne_true]
        exact ih _ used hnext
  rw [hmore {} 0 rfl, Nat.zero_add]

end Table

end Gatehouse.Session
