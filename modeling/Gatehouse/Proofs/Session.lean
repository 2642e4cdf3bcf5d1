import Gatehouse.Session

/-!
# Live sessions in memory

Which live sessions there are after each call, as long as a kind and a token name at most one row: a
new session is live, a revoked one is not, and deleting sessions in batches takes none that is live
then or later. Main statements: `Table.holds_create`, `Table.holds_revoke` and
`Table.holds_deleteSweepable`.
-/

namespace Gatehouse.Session

/-- A session that is live was live before. -/
theorem Row.isLiveAt_of_le {row : Row} {now later : Timestamp} (hle : now.nanos ≤ later.nanos)
    (h : row.isLiveAt later = true) : row.isLiveAt now = true := by
  simp only [isLiveAt, Bool.and_eq_true, decide_eq_true_eq] at h ⊢
  exact ⟨h.1, by omega⟩

/-- A row has a name if it has the kind and the token. -/
theorem Row.isNamed_iff {row : Row} {kind : PrincipalKind} {token : String} :
    row.isNamed kind token = true ↔ row.kind = kind ∧ row.token = token := by
  simp [isNamed]

/-- A row may be deleted if it is of the kind and not live. -/
theorem Row.isVictim_iff {row : Row} {kind : PrincipalKind} {now : Timestamp} :
    row.isVictim kind now = true ↔ row.kind = kind ∧ row.isLiveAt now = false := by
  simp [isVictim, isSweepableAt]

/-- A row that may be deleted may be deleted later. -/
theorem Row.isVictim_of_le {row : Row} {kind : PrincipalKind} {now later : Timestamp}
    (hle : now.nanos ≤ later.nanos) (h : row.isVictim kind now = true) :
    row.isVictim kind later = true := by
  obtain ⟨hkind, hdead⟩ := isVictim_iff.1 h
  refine isVictim_iff.2 ⟨hkind, Bool.eq_false_iff.2 fun hlive => ?_⟩
  rw [isLiveAt_of_le hle hlive] at hdead
  cases hdead

/-- A new session is live until its lifetime ends. -/
theorem New.isLiveAt_row {new : New} {id : SessionId} {now time : Timestamp} :
    (new.row id now).isLiveAt time = true ↔ time.nanos < (now.after new.ttl).nanos := by
  rw [Row.isLiveAt, Bool.and_eq_true, decide_eq_true_eq]
  exact ⟨fun h => h.2, fun h => ⟨rfl, h⟩⟩

namespace Table

/-- A kind and a token name at most one row. -/
def Distinct (table : Table) : Prop :=
  table.rows.Pairwise
    (fun first second => ¬ (first.kind = second.kind ∧ first.token = second.token))

/-- There is a session of a kind and a token that is live at a time, and it belongs to an owner. -/
def Holds (table : Table) (kind : PrincipalKind) (token : String) (owner : PrincipalId)
    (time : Timestamp) : Prop :=
  ∃ row ∈ table.rows,
    row.isNamed kind token = true ∧ row.principalId = owner ∧ row.isLiveAt time = true

variable {table : Table} {kind other : PrincipalKind} {token otherToken : String}
  {owner : PrincipalId} {now time : Timestamp}

/-- Of distinct rows, the one with a name is found. -/
theorem row?_eq_some_iff (h : table.Distinct) {row : Row} :
    table.row? kind token = some row ↔ row ∈ table.rows ∧ row.isNamed kind token = true := by
  constructor
  · intro hfound
    exact ⟨List.mem_of_find?_eq_some hfound, by simpa using List.find?_some hfound⟩
  rcases table with ⟨rows, lastId⟩
  rintro ⟨hmem, hnamed⟩
  obtain ⟨hkind, htoken⟩ := Row.isNamed_iff.1 hnamed
  simp only [Distinct, row?] at h hmem ⊢
  -- over the rows: no earlier row has the name, so the search passes them
  induction rows with
  | nil => cases hmem
  | cons head rest ih =>
    rw [List.pairwise_cons] at h
    rcases List.mem_cons.1 hmem with rfl | hrest
    · rw [List.find?_cons, hnamed]
    · have hhead : head.isNamed kind token = false := by
        refine Bool.eq_false_iff.2 ?_
        intro hhead
        obtain ⟨hkind', htoken'⟩ := Row.isNamed_iff.1 hhead
        exact h.1 row hrest ⟨hkind'.trans hkind.symm, htoken'.trans htoken.symm⟩
      rw [List.find?_cons, hhead]
      exact ih h.2 hrest

/-- Of distinct rows, no two have the same name. -/
theorem Distinct.eq_of_named (h : table.Distinct) {row found : Row} (hrow : row ∈ table.rows)
    (hfound : found ∈ table.rows) (hname : row.kind = found.kind ∧ row.token = found.token) :
    row = found := by
  have hfirst := (row?_eq_some_iff h).2 ⟨hrow, Row.isNamed_iff.2 hname⟩
  have hsecond := (row?_eq_some_iff h).2 ⟨hfound, Row.isNamed_iff.2 ⟨rfl, rfl⟩⟩
  exact Option.some.inj (hfirst.symm.trans hsecond)

/-- Distinct rows are not repeated. -/
theorem Distinct.nodup (h : table.Distinct) : table.rows.Nodup :=
  h.imp fun hne heq => hne ⟨congrArg Row.kind heq, congrArg Row.token heq⟩

/-- Rows are distinct in every order. -/
theorem Distinct.of_perm (h : table.Distinct) {reordered : Table}
    (hrows : reordered.rows.Perm table.rows) : reordered.Distinct :=
  (hrows.pairwise_iff fun hne hsame => hne ⟨hsame.1.symm, hsame.2.symm⟩).2 h

/-- No row has a name that is not found. -/
theorem row?_eq_none_iff :
    table.row? kind token = none ↔ ∀ row ∈ table.rows, row.isNamed kind token = false := by
  simp [row?]

/-- Finding a live session gives its row. -/
theorem find_eq_ok_iff {row : Row} :
    table.find now kind token = .ok row ↔
      table.row? kind token = some row ∧ row.isLiveAt now = true := by
  rw [find]
  cases hfound : (table.row? kind token).filter (fun row => row.isLiveAt now) with
  | none =>
    rw [Option.filter_eq_none_iff] at hfound
    constructor
    · rintro ⟨⟩
    · rintro ⟨hrow, hlive⟩
      exact absurd hlive (hfound row hrow)
  | some found =>
    obtain ⟨hrow, hlive⟩ := Option.filter_eq_some_iff.1 hfound
    constructor
    · rintro ⟨⟩
      exact ⟨hrow, hlive⟩
    · rintro ⟨hrow', -⟩
      rw [hrow] at hrow'
      cases hrow'
      rfl

/-- A live session that is not found is reported as such. -/
theorem find_of_not_ok (h : ∀ row, table.find now kind token ≠ .ok row) :
    table.find now kind token = .error (.notFound "refresh session") := by
  revert h
  rw [find]
  split
  · intro h
    exact absurd rfl (h _)
  · exact fun _ => rfl

/-- The live sessions of a name belong to the one that is found. -/
theorem holds_iff_find (h : table.Distinct) :
    table.Holds kind token owner now ↔
      ∃ row, table.find now kind token = .ok row ∧ row.principalId = owner := by
  simp only [Holds, find_eq_ok_iff, row?_eq_some_iff h]
  constructor
  · rintro ⟨row, hmem, hnamed, howner, hlive⟩
    exact ⟨row, ⟨⟨hmem, hnamed⟩, hlive⟩, howner⟩
  · rintro ⟨row, ⟨⟨hmem, hnamed⟩, hlive⟩, howner⟩
    exact ⟨row, hmem, hnamed, howner, hlive⟩

/-! ## Storing a session -/

/-- A session whose token is taken is refused, and the rows stay as they are. -/
theorem create_of_taken {new : New} (h : table.row? new.kind new.token ≠ none)
    (now : Timestamp) :
    (∃ error, (table.create now new).1 = .error error) ∧
      (table.create now new).2.rows = table.rows := by
  rw [create]
  cases hrow : table.row? new.kind new.token with
  | none => exact absurd hrow h
  | some row => exact ⟨⟨_, rfl⟩, rfl⟩

/-- A session whose token is not taken is stored behind the others. -/
theorem create_of_free {new : New} (h : table.row? new.kind new.token = none)
    (now : Timestamp) :
    (table.create now new).1 = .ok (table.lastId + 1) ∧
      (table.create now new).2.rows = table.rows ++ [new.row (table.lastId + 1) now] := by
  rw [create, h]
  exact ⟨rfl, rfl⟩

/-- Storing a session keeps rows distinct. -/
theorem Distinct.create (h : table.Distinct) (new : New) : (table.create now new).2.Distinct := by
  rw [Distinct]
  cases hrow : table.row? new.kind new.token with
  | none =>
    rw [(create_of_free hrow now).2, List.pairwise_append]
    refine ⟨h, List.pairwise_singleton _ _, ?_⟩
    rintro row hmem _ hnew ⟨hkind, htoken⟩
    obtain rfl := List.mem_singleton.1 hnew
    -- an old row with the new name would have been found
    have hnamed : row.isNamed new.kind new.token = true := Row.isNamed_iff.2 ⟨hkind, htoken⟩
    rw [row?_eq_none_iff.1 hrow row hmem] at hnamed
    cases hnamed
  | some row =>
    rw [(create_of_taken (by simp [hrow]) now).2]
    exact h

/-- The live sessions when one has been stored are the old ones and the new one. -/
theorem holds_create {new : New} (h : table.row? new.kind new.token = none) :
    (table.create now new).2.Holds kind token owner time ↔
      table.Holds kind token owner time ∨
        (new.kind = kind ∧ new.token = token ∧ new.principalId = owner ∧
          time.nanos < (now.after new.ttl).nanos) := by
  simp only [Holds, (create_of_free h now).2, List.mem_append, List.mem_singleton]
  constructor
  -- the new row is live until its lifetime ends, whatever the time is now
  · rintro ⟨row, hmem | rfl, hnamed, howner, hlive⟩
    · exact .inl ⟨row, hmem, hnamed, howner, hlive⟩
    · obtain ⟨hkind, htoken⟩ := Row.isNamed_iff.1 hnamed
      exact .inr ⟨hkind, htoken, howner, New.isLiveAt_row.1 hlive⟩
  · rintro (⟨row, hmem, hnamed, howner, hlive⟩ | ⟨hkind, htoken, howner, hlive⟩)
    · exact ⟨row, .inl hmem, hnamed, howner, hlive⟩
    · exact ⟨_, .inr rfl, Row.isNamed_iff.2 ⟨hkind, htoken⟩, howner, New.isLiveAt_row.2 hlive⟩

/-! ## Revoking a session -/

/-- Revoking a session keeps rows distinct. -/
theorem Distinct.revoke (h : table.Distinct) : (table.revoke now kind token).2.Distinct := by
  rw [Table.revoke]
  split
  · exact h
  · refine List.pairwise_map.2 (h.imp ?_)
    intro first second hne
    split <;> split <;> exact hne

/-- The live sessions when one has been revoked are the others, then and later. -/
theorem holds_revoke (h : table.Distinct) (hle : now.nanos ≤ time.nanos) :
    (table.revoke now kind token).2.Holds other otherToken owner time ↔
      table.Holds other otherToken owner time ∧ ¬ (other = kind ∧ otherToken = token) := by
  rw [Table.revoke]
  cases hfound : (table.row? kind token).filter (fun row => row.isLiveAt now) with
  | none =>
    refine ⟨fun hholds => ⟨hholds, ?_⟩, fun hholds => hholds.1⟩
    rintro ⟨rfl, rfl⟩
    obtain ⟨row, hmem, hnamed, -, hlive⟩ := hholds
    -- a session that is live later is live now and would have been found
    have hrow := (row?_eq_some_iff h).2 ⟨hmem, hnamed⟩
    exact (Option.filter_eq_none_iff.1 hfound) row hrow (Row.isLiveAt_of_le hle hlive)
  | some found =>
    simp only [Holds, List.mem_map]
    constructor
    · rintro ⟨_, ⟨row, hmem, rfl⟩, hnamed, howner, hlive⟩
      split at hlive
      -- the revoked row is live at no time
      · simp [Row.isLiveAt] at hlive
      · rename_i hother
        rw [if_neg hother] at hnamed howner
        refine ⟨⟨row, hmem, hnamed, howner, hlive⟩, ?_⟩
        rintro ⟨rfl, rfl⟩
        exact hother hnamed
    · rintro ⟨⟨row, hmem, hnamed, howner, hlive⟩, hother⟩
      obtain ⟨hkind, htoken⟩ := Row.isNamed_iff.1 hnamed
      have hne : ¬ row.isNamed kind token = true := by
        intro hsame
        obtain ⟨hkind', htoken'⟩ := Row.isNamed_iff.1 hsame
        exact hother ⟨hkind.symm.trans hkind', htoken.symm.trans htoken'⟩
      exact ⟨row, ⟨row, hmem, by rw [if_neg hne]⟩, hnamed, howner, hlive⟩

/-! ## Deleting sessions -/

/-- Deleting the first rows for which a test holds takes away rows only. -/
theorem deleteFirst_sublist (test : Row → Bool) (limit : Nat) (rows : List Row) :
    (deleteFirst test limit rows).2.Sublist rows := by
  -- over the rows; the limit goes down at each row that is taken
  induction rows generalizing limit with
  | nil => cases limit <;> exact List.Sublist.refl _
  | cons row rows ih =>
    cases limit with
    | zero => exact List.Sublist.refl _
    | succ limit =>
      rw [deleteFirst]
      split
      · exact (ih limit).cons row
      · exact (ih (limit + 1)).cons_cons row

/-- Deleting the first rows for which a test holds leaves the others. -/
theorem mem_deleteFirst {test : Row → Bool} {row : Row} {rows : List Row} (hmem : row ∈ rows)
    (htest : test row = false) (limit : Nat) : row ∈ (deleteFirst test limit rows).2 := by
  induction rows generalizing limit with
  | nil => cases hmem
  | cons head rows ih =>
    cases limit with
    | zero => exact hmem
    | succ limit =>
      rw [deleteFirst]
      rcases List.mem_cons.1 hmem with rfl | hrest
      · rw [if_neg (by rw [htest]; exact Bool.false_ne_true)]
        exact List.mem_cons_self
      · split
        · exact ih hrest limit
        · exact List.mem_cons_of_mem _ (ih hrest (limit + 1))

/-- Deleting sessions keeps rows distinct. -/
theorem Distinct.deleteSweepable (h : table.Distinct) (batchSize : UInt32) :
    (table.deleteSweepable now kind batchSize).2.Distinct :=
  List.Pairwise.sublist (deleteFirst_sublist _ _ _) h

/-- Deleting sessions that may be deleted takes none that is live then or later. -/
theorem holds_deleteSweepable (batchSize : UInt32) (hle : now.nanos ≤ time.nanos) :
    (table.deleteSweepable now kind batchSize).2.Holds other token owner time ↔
      table.Holds other token owner time := by
  constructor
  · rintro ⟨row, hmem, hrest⟩
    exact ⟨row, (deleteFirst_sublist _ _ _).subset hmem, hrest⟩
  · rintro ⟨row, hmem, hnamed, howner, hlive⟩
    -- what is live later is live now, so it may not be deleted
    refine ⟨row, mem_deleteFirst hmem ?_ _, hnamed, howner, hlive⟩
    simp [Row.isVictim, Row.isSweepableAt, Row.isLiveAt_of_le hle hlive]

end Table

end Gatehouse.Session
