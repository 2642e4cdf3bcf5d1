import Gatehouse.Proofs.Directory
import Gatehouse.Proofs.Schedule
import Gatehouse.Sql.Store

/-!
# Batches of grants

A batch of grants in the directory that is held in memory and in the one that is kept in a database.
The first looks for the stores among its own, the second among those the database answers with, in
whatever order and however often. Main statement (`grants_all_or_nothing`): both refuse a batch by
the first store in it that they do not know, before anything is written, and otherwise grant all of
it.
-/

namespace Gatehouse.Directory

/-- A store is the first of a batch that is not known. -/
structure FirstUnknown (known : StoreId → Prop) (stores : List StoreId) (missing : StoreId) :
    Prop where
  /-- The stores before it are known. -/
  before_known : ∃ before behind, stores = before ++ missing :: behind ∧
    ∀ store ∈ before, known store
  /-- The store is not known. -/
  unknown : ¬ known missing

variable {known known' : StoreId → Prop} {stores : List StoreId} {missing missing' : StoreId}

/-- The first unknown store is one of the batch. -/
theorem FirstUnknown.mem (h : FirstUnknown known stores missing) : missing ∈ stores := by
  obtain ⟨before, behind, rfl, -⟩ := h.before_known
  exact List.mem_append_right _ List.mem_cons_self

/-- A batch has one first unknown store. -/
theorem FirstUnknown.unique (h : FirstUnknown known stores missing)
    (h' : FirstUnknown known stores missing') : missing = missing' := by
  obtain ⟨before, behind, rfl, hbefore⟩ := h.before_known
  obtain ⟨before', behind', hsplit, hbefore'⟩ := h'.before_known
  classical
  have hcut := @cut_unique _ (fun store => decide (¬ known store)) before before' behind behind'
    missing missing' hsplit
  refine (hcut ?_ ?_ (decide_eq_true h.unknown) (decide_eq_true h'.unknown)).2.1
  · exact fun store hstore => decide_eq_false (not_not_intro (hbefore store hstore))
  · exact fun store hstore => decide_eq_false (not_not_intro (hbefore' store hstore))

/-- Only which stores of the batch are known decides which is the first that is not. -/
theorem FirstUnknown.congr (h : FirstUnknown known stores missing)
    (hsame : ∀ store ∈ stores, known store ↔ known' store) :
    FirstUnknown known' stores missing := by
  obtain ⟨before, behind, rfl, hbefore⟩ := h.before_known
  refine ⟨⟨before, behind, rfl, fun store hstore => ?_⟩, fun hknown => ?_⟩
  · exact (hsame store (List.mem_append_left _ hstore)).1 (hbefore store hstore)
  · exact h.unknown ((hsame missing h.mem).2 hknown)

/-- A search for what is not known finds the first unknown store, or all stores are known. -/
theorem find?_unknown {test : StoreId → Bool} (htest : ∀ store, test store = true ↔ known store)
    (stores : List StoreId) :
    (∃ missing, FirstUnknown known stores missing ∧
        stores.find? (fun store => !test store) = some missing) ∨
      (∀ store ∈ stores, known store) ∧ stores.find? (fun store => !test store) = none := by
  rcases hfound : stores.find? (fun store => !test store) with _ | missing
  · refine .inr ⟨fun store hstore => ?_, rfl⟩
    have hknown := List.find?_eq_none.1 hfound store hstore
    simpa [htest] using hknown
  · obtain ⟨hunknown, before, behind, hsplit, hbefore⟩ := List.find?_eq_some_iff_append.1 hfound
    refine .inl ⟨missing, ⟨⟨before, behind, hsplit, fun store hstore => ?_⟩, ?_⟩, rfl⟩
    · simpa [htest] using hbefore store hstore
    · simpa [← htest] using hunknown

/-! ## The directory in memory -/

/-- Grants are the earlier ones and those of a batch to a member of staff. -/
structure Granted (id : PrincipalId) (stores : List StoreId) (earlier grants : List Grant) :
    Prop where
  /-- A grant is an earlier one, or one of the batch. -/
  mem_iff : ∀ grant, grant ∈ grants ↔ grant ∈ earlier ∨ grant.staff = id ∧ grant.store ∈ stores
  /-- Grants that are listed once stay so. -/
  nodup : earlier.Nodup → grants.Nodup
  /-- The grants of everybody else are the earlier ones. -/
  others : ∀ other, other ≠ id → grants.filter (fun grant => grant.staff == other) =
    earlier.filter (fun grant => grant.staff == other)

namespace Table

variable {table : Table} {id : PrincipalId} {member : Staff}

/-- A grant that is added once is listed once. -/
theorem nodup_addGrant {grants : List Grant} (h : grants.Nodup) (grant : Grant) :
    (addGrant grants grant).Nodup := by
  rw [addGrant]
  split
  · exact h
  · rename_i hnew
    refine List.nodup_append.2 ⟨h, List.pairwise_singleton _ _, ?_⟩
    intro old hold new hadded heq
    refine hnew ?_
    rw [← List.mem_singleton.1 hadded, ← heq]
    exact List.contains_iff_mem.2 hold

/-- Adding a batch one by one grants the batch. -/
theorem granted_foldl_addGrant (id : PrincipalId) (stores : List StoreId) (earlier : List Grant) :
    Granted id stores earlier
      (stores.foldl (fun grants store => addGrant grants ⟨id, store⟩) earlier) where
  mem_iff _ := mem_foldl_addGrant
  nodup h := by
    induction stores generalizing earlier with
    | nil => exact h
    | cons store stores ih => exact ih _ (nodup_addGrant h _)
  others _ hother := filter_foldl_addGrant hother stores earlier

/-- A member of staff is granted a batch in memory if all its stores are there, and otherwise the
first that is not is named and nothing changes. -/
theorem grantStores_of_found (hmember : table.staff? id = some member) (stores : List StoreId) :
    (∃ missing, FirstUnknown table.HasStore stores missing ∧
        table.grantStores id stores = (.error (noStore missing), table)) ∨
      (∀ store ∈ stores, table.HasStore store) ∧
        ∃ grants, table.grantStores id stores = (.ok (), { table with grants }) ∧
          Granted id stores table.grants grants := by
  have htest : ∀ store, table.stores.any (fun known => known.id == store) = true ↔
      table.HasStore store := by
    simp [HasStore]
  rw [grantStores, hmember]
  dsimp only
  rcases find?_unknown htest stores with ⟨missing, hfirst, hfound⟩ | ⟨hknown, hfound⟩
  · rw [hfound]
    exact .inl ⟨missing, hfirst, rfl⟩
  · rw [hfound]
    exact .inr ⟨hknown, _, rfl, granted_foldl_addGrant id stores table.grants⟩

end Table

/-! ## The directory in a database -/

/-- A database that fails no statement, and answers each by the number of statements before it. -/
def unfailing (answers : Nat → (statement : Sql.Statement) → Sql.Answer statement.Row)
    (past : Nat) (statement : Sql.Statement) : Sql.database.Reply statement :=
  Except.ok (answers past statement)

/-- Work that starts with a query goes on with the rows that an unfailing database answers. -/
theorem run_rows_bind {α : Type}
    (answers : Nat → (statement : Sql.Statement) → Sql.Answer statement.Row)
    (query : Sql.Statement) (next : List query.Row → Sql.Work α) :
    (Sql.rows query >>= next).run.run (Program.scripted (unfailing answers)) [] =
      (next (answers 0 query).rows).run.run (Program.scripted (unfailing answers))
        [⟨query, .ok (answers 0 query)⟩] := rfl

/-- A database that fails no statement is asked for the stores of a batch. If it knows them all, the
whole batch is put to it in one more statement; otherwise the first that it does not know is named,
and nothing more is put to it. -/
theorem run_grantStores (id : PrincipalId) (stores : List StoreId)
    (answers : Nat → (statement : Sql.Statement) → Sql.Answer statement.Row) :
    let query : Exchange Sql.database :=
      ⟨.knownStores stores, .ok (answers 0 (.knownStores stores))⟩
    let known : List StoreId := (answers 0 (.knownStores stores)).rows
    let run := (Sql.grantStores id stores).run.run
      (Program.scripted (unfailing answers)) []
    (∃ missing, FirstUnknown (· ∈ known) stores missing ∧
        run = (some (.error (noStore missing)), [query])) ∨
      (∀ store ∈ stores, store ∈ known) ∧
        run = (some (.ok ()), [query,
          ⟨.addGrants id stores, .ok (answers 1 (.addGrants id stores))⟩]) := by
  intro query known run
  have htest : ∀ store, (StoreSet.ofList known).contains store = true ↔ store ∈ known := by
    simp
  have hrun : run = _ := run_rows_bind answers (.knownStores stores) _
  dsimp only at hrun
  rcases find?_unknown htest stores with ⟨missing, hfirst, hfound⟩ | ⟨hknown, hfound⟩
  · rw [hrun, hfound]
    exact .inl ⟨missing, hfirst, rfl⟩
  · rw [hrun, hfound]
    exact .inr ⟨hknown, rfl⟩

/-! ## Both directories -/

/-- A batch of grants to a member of staff is all or nothing, in memory and in a database that fails
no statement. If a store of the batch is not known, the call fails and names the first such store;
in memory nothing changes, and the database is not asked to write anything. If all are known, the
whole batch is granted: in memory nothing else changes, and the database is asked once to write it
all. Where both know the same stores of the batch, they give the same result. -/
theorem grants_all_or_nothing {table : Table} {id : PrincipalId} {member : Staff}
    (hmember : table.staff? id = some member) (stores : List StoreId)
    (answers : Nat → (statement : Sql.Statement) → Sql.Answer statement.Row) :
    let query : Exchange Sql.database :=
      ⟨.knownStores stores, .ok (answers 0 (.knownStores stores))⟩
    let known : List StoreId := (answers 0 (.knownStores stores)).rows
    let run := (Sql.grantStores id stores).run.run (Program.scripted (unfailing answers)) []
    ((∃ missing, FirstUnknown table.HasStore stores missing ∧
          table.grantStores id stores = (.error (noStore missing), table)) ∨
        (∀ store ∈ stores, table.HasStore store) ∧
          ∃ grants, table.grantStores id stores = (.ok (), { table with grants }) ∧
            Granted id stores table.grants grants) ∧
      ((∃ missing, FirstUnknown (· ∈ known) stores missing ∧
          run = (some (.error (noStore missing)), [query])) ∨
        (∀ store ∈ stores, store ∈ known) ∧
          run = (some (.ok ()), [query,
            ⟨.addGrants id stores, .ok (answers 1 (.addGrants id stores))⟩])) ∧
      ((∀ store ∈ stores, table.HasStore store ↔ store ∈ known) →
        run.1 = some (table.grantStores id stores).1) := by
  intro query known run
  have hmemory := Table.grantStores_of_found hmember stores
  have hdatabase := run_grantStores id stores answers
  refine ⟨hmemory, hdatabase, fun hsame => ?_⟩
  rcases hmemory with ⟨missing, hfirst, hresult⟩ | ⟨hall, grants, hresult, -⟩
  · rcases hdatabase with ⟨missing', hfirst', hrun⟩ | ⟨hall, -⟩
    · rw [hresult, (hfirst.congr hsame).unique hfirst']
      exact congrArg Prod.fst hrun
    · exact absurd ((hsame missing hfirst.mem).2 (hall missing hfirst.mem)) hfirst.unknown
  · rcases hdatabase with ⟨missing', hfirst', -⟩ | ⟨-, hrun⟩
    · exact absurd ((hsame missing' hfirst'.mem).1 (hall missing' hfirst'.mem)) hfirst'.unknown
    · rw [hresult]
      exact congrArg Prod.fst hrun

/-- A directory with a member of staff who was granted one of its two stores. -/
def plainStores : Table where
  staff := [⟨1, "hana", "hana@example.com", "", .manager, true⟩]
  stores := [⟨10, true⟩, ⟨20, false⟩]
  grants := [⟨1, 10⟩]
  lastId := 1

/-- A database that knows the stores `10`, `20` and `7`, one of them twice over. -/
def plainAnswers (past : Nat) : (statement : Sql.Statement) → Sql.Answer statement.Row
  | .knownStores _ => ⟨([20, 10, 7, 20] : List StoreId), past⟩
  | _ => ⟨[], past⟩

/-- Of a batch with two unknown stores the earlier one is named, by both directories. -/
theorem grants_all_or_nothing_plain :
    (∃ member, plainStores.staff? 1 = some member) ∧
      plainStores.grantStores 1 [20, 99, 10, 98] = (.error (noStore 99), plainStores) ∧
      ((Sql.grantStores 1 [20, 99, 10, 98]).run.run
        (Program.scripted (unfailing plainAnswers)) []).1 = some (.error (noStore 99)) := by
  have hmember : plainStores.staff? 1 =
      some ⟨1, "hana", "hana@example.com", "", .manager, true⟩ := rfl
  obtain ⟨-, -, hsame⟩ := grants_all_or_nothing hmember [20, 99, 10, 98] plainAnswers
  have hresult : plainStores.grantStores 1 [20, 99, 10, 98] =
      (.error (noStore 99), plainStores) := rfl
  refine ⟨⟨_, hmember⟩, hresult, ?_⟩
  rw [hsame, hresult]
  simp [plainStores, plainAnswers, Table.HasStore]

end Gatehouse.Directory
