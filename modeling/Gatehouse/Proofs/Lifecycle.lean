import Gatehouse.Proofs.Isolation
import Mathlib.Data.List.Induction
import Mathlib.Logic.Relation

/-!
# The life of a session

What becomes of the sessions that are stored by runs of calls, each at a time of its own. The row of
a session is followed from the call that stores it (`Table.trace`), since its name may be given to
another session once it is deleted. Main statement: `session_lifecycle`, which puts together how a
session moves from status to status, what never changes about it, who can revoke it and how often,
when it is found, what a batch may take, how ids are given out and what sessions of other names can
do to it.
-/

namespace Gatehouse.Session

/-- What a stored session is. -/
inductive Status where
  /-- Neither revoked nor expired. -/
  | active
  /-- Revoked before it expired. -/
  | revoked
  /-- Expired without having been revoked. -/
  | expired
  /-- No longer stored. -/
  | deleted
  deriving DecidableEq

/-- What can come after a status. -/
inductive Status.Move : Status → Status → Prop where
  /-- A session is revoked. -/
  | revoke : Move active revoked
  /-- A session expires. -/
  | expire : Move active expired
  /-- A revoked session is deleted. -/
  | deleteRevoked : Move revoked deleted
  /-- An expired session is deleted. -/
  | deleteExpired : Move expired deleted

/-- How far a status is from the first one. -/
def Status.rank : Status → Nat
  | active => 0
  | revoked => 1
  | expired => 1
  | deleted => 2

/-- Moves only lead away from the first status. -/
theorem Status.eq_or_rank_lt_of_moves {before after : Status}
    (h : Relation.ReflTransGen Move before after) : before = after ∨ before.rank < after.rank := by
  induction h with
  | refl => exact .inl rfl
  | tail _ hmove ih =>
    have hrank : ∀ {first second : Status}, Move first second → first.rank < second.rank := by
      rintro _ _ (_ | _ | _ | _) <;> decide
    rcases ih with rfl | ih
    · exact .inr (hrank hmove)
    · exact .inr (Nat.lt_trans ih (hrank hmove))

/-- The status of a session with a row. -/
def Row.status (row : Row) (now : Timestamp) : Status :=
  if row.revokedAt.isSome then .revoked
  else if now.nanos < row.expiresAt.nanos then .active
  else .expired

/-- The status of a session that may have a row. -/
def Status.of (row? : Option Row) (now : Timestamp) : Status :=
  match row? with
  | some row => row.status now
  | none => .deleted

/-- A row is live as long as its session is active. -/
theorem Row.status_eq_active_iff {row : Row} {now : Timestamp} :
    row.status now = .active ↔ row.isLiveAt now = true := by
  cases hrevoked : row.revokedAt <;> simp [status, isLiveAt, hrevoked]

/-- A session with a row is not deleted. -/
theorem Row.status_ne_deleted (row : Row) (now : Timestamp) : row.status now ≠ .deleted := by
  rw [status]
  split
  · decide
  · split <;> decide

/-- As time passes, a session at most expires. -/
theorem Row.moves_of_le (row : Row) {time later : Timestamp} (hle : time.nanos ≤ later.nanos) :
    Relation.ReflTransGen Status.Move (row.status time) (row.status later) := by
  rw [status, status]
  split
  · exact .refl
  · split <;> split
    · exact .refl
    · exact .single .expire
    · omega
    · exact .refl

/-- A call moves a session by one step at most. -/
theorem Row.Becomes.moves {row : Row} {moment : Moment} {left : Option Row}
    (h : row.Becomes moment left) :
    Relation.ReflTransGen Status.Move (row.status moment.now) (Status.of left moment.now) := by
  cases h with
  | stays => exact .refl
  | revoked _ hlive =>
    rw [Row.status_eq_active_iff.2 hlive]
    exact .single .revoke
  | deleted _ _ hdead =>
    have hnot : row.status moment.now ≠ .active := by
      rw [Ne, Row.status_eq_active_iff, hdead]
      exact Bool.false_ne_true
    cases hstatus : row.status moment.now with
    | active => exact absurd hstatus hnot
    | revoked => exact .single .deleteRevoked
    | expired => exact .single .deleteExpired
    | deleted => exact absurd hstatus (row.status_ne_deleted _)

/-- The calls are made between two times. -/
def Between (calls : List Moment) (time later : Timestamp) : Prop :=
  time.nanos ≤ later.nanos ∧
    ∀ moment ∈ calls, time.nanos ≤ moment.now.nanos ∧ moment.now.nanos ≤ later.nanos

namespace Table

/-- The row of a name through further calls, as long as there is one without a break. -/
def trace (kind : PrincipalKind) (token : String) (table : Table) : List Moment → Option Row
  | [] => table.row? kind token
  | moment :: calls =>
    (table.row? kind token).bind (fun _ => (table.next moment).trace kind token calls)

variable {table : Table} {kind : PrincipalKind} {token : String} {row : Row}
  {first more : List Moment} {moment : Moment}

/-- Without a row there is none later. -/
theorem trace_of_none (hrow : table.row? kind token = none) (calls : List Moment) :
    table.trace kind token calls = none := by
  cases calls with
  | nil => exact hrow
  | cons moment calls => rw [trace, hrow, Option.bind_none]

/-- A trace goes on where it has led, if there is still a row. -/
theorem trace_append (table : Table) (kind : PrincipalKind) (token : String)
    (first second : List Moment) :
    table.trace kind token (first ++ second) =
      (table.trace kind token first).bind
        (fun _ => (table.after first).trace kind token second) := by
  induction first generalizing table with
  | nil =>
    cases hrow : table.row? kind token with
    | none => rw [trace, hrow, Option.bind_none]; exact trace_of_none hrow second
    | some row => rw [trace, hrow, Option.bind_some]; rfl
  | cons moment first ih =>
    rw [List.cons_append, trace, trace, Option.bind_assoc]
    exact congrArg _ (funext fun _ => ih (table.next moment))

/-- What a trace leads to is the row of the name. -/
theorem row?_after_of_trace {calls : List Moment}
    (h : table.trace kind token calls = some row) :
    (table.after calls).row? kind token = some row := by
  induction calls generalizing table with
  | nil => exact h
  | cons moment calls ih =>
    rw [trace, Option.bind_eq_some_iff] at h
    obtain ⟨-, -, h⟩ := h
    exact ih h

/-- One more call leads to what it makes of the row. -/
theorem becomes_trace (hdistinct : (table.after first).Distinct)
    (h : table.trace kind token first = some row) (moment : Moment) :
    row.Becomes moment (table.trace kind token (first ++ [moment])) := by
  have hrow := row?_after_of_trace h
  rw [trace_append, h, Option.bind_some, trace, hrow, Option.bind_some]
  exact becomes_next hdistinct hrow moment

/-- A trace that has ended stays so. -/
theorem trace_append_of_none (h : table.trace kind token first = none) (more : List Moment) :
    table.trace kind token (first ++ more) = none := by
  rw [trace_append, h, Option.bind_none]

/-- From any time to any later one, a session moves along the moves of statuses, whatever is called
in between. -/
theorem moves_trace (hdistinct : ∀ calls, (table.after calls).Distinct)
    (hchronological : Chronological more) {time later : Timestamp}
    (hbetween : Between more time later) :
    Relation.ReflTransGen Status.Move (Status.of (table.trace kind token first) time)
      (Status.of (table.trace kind token (first ++ more)) later) := by
  cases hrow : table.trace kind token first with
  | none =>
    rw [trace_append_of_none hrow]
    exact .refl
  | some row =>
    obtain ⟨hle, hmore⟩ := hbetween
    induction more generalizing first time row with
    | nil =>
      rw [List.append_nil, hrow]
      exact row.moves_of_le hle
    | cons moment more ih =>
      obtain ⟨hmoment, hmore⟩ := List.forall_mem_cons.1 hmore
      obtain ⟨hnext, hchronological⟩ := List.pairwise_cons.1 hchronological
      have hmoves := (row.moves_of_le hmoment.1).trans
        (becomes_trace (hdistinct first) hrow moment).moves
      rw [List.append_cons]
      cases hleft : table.trace kind token (first ++ [moment]) with
      | none =>
        rw [trace_append_of_none hleft]
        rwa [hleft] at hmoves
      | some left =>
        rw [hleft] at hmoves
        refine hmoves.trans (ih hchronological left hleft hmoment.2 ?_)
        exact fun next hmem => ⟨hnext next hmem, (hmore next hmem).2⟩

/-- As long as there is a row, it stays as it is, but for being revoked once. -/
theorem row_trace (hdistinct : ∀ calls, (table.after calls).Distinct) {left : Row}
    (hrow : table.trace kind token first = some row)
    (hleft : table.trace kind token (first ++ more) = some left) :
    left = row ∨ row.revokedAt = none ∧
      ∃ moment ∈ more, left = { row with revokedAt := some moment.now } := by
  induction more generalizing first row with
  | nil =>
    rw [List.append_nil, hrow] at hleft
    cases hleft
    exact .inl rfl
  | cons moment more ih =>
    rw [List.append_cons] at hleft
    cases hnext : table.trace kind token (first ++ [moment]) with
    | none =>
      rw [trace_append_of_none hnext] at hleft
      cases hleft
    | some next =>
      have hbecomes := becomes_trace (hdistinct first) hrow moment
      have hmore := ih hnext hleft
      rw [hnext] at hbecomes
      cases hbecomes with
      | stays =>
        rcases hmore with rfl | ⟨hunrevoked, later, hmem, rfl⟩
        · exact .inl rfl
        · exact .inr ⟨hunrevoked, later, List.mem_cons_of_mem _ hmem, rfl⟩
      | revoked _ hlive =>
        have hunrevoked : row.revokedAt = none := by
          simp only [Row.isLiveAt, Bool.and_eq_true, Option.isNone_iff_eq_none] at hlive
          exact hlive.1
        rcases hmore with rfl | ⟨hagain, -⟩
        · exact .inr ⟨hunrevoked, moment, List.mem_cons_self, rfl⟩
        · cases hagain

/-! ## Revocations -/

/-- The owner that a call gives, if it revokes the session of a name. -/
def owner? (table : Table) (moment : Moment) (kind : PrincipalKind) (token : String) :
    Option PrincipalId :=
  if moment.call = .revoke kind token then
    ((table.ordered moment).revoke moment.now kind token).1
  else none

/-- The owners that revocations of a name give as long as there is a row of it without a break, each
with the time. -/
def revocations (kind : PrincipalKind) (token : String) (table : Table) :
    List Moment → List (Timestamp × PrincipalId)
  | [] => []
  | moment :: calls =>
    if table.row? kind token = none then []
    else
      (table.owner? moment kind token).toList.map (fun owner => (moment.now, owner)) ++
        (table.next moment).revocations kind token calls

/-- A revocation gives the owner of the live session of a name. -/
theorem owner?_eq_some_iff (hdistinct : table.Distinct) {owner : PrincipalId} :
    table.owner? moment kind token = some owner ↔
      moment.call = .revoke kind token ∧
        ∃ row, table.row? kind token = some row ∧ row.isLiveAt moment.now = true ∧
          row.principalId = owner := by
  rw [owner?]
  split
  · rename_i hcall
    rw [revoke, row?_ordered hdistinct]
    cases hlive : (table.row? kind token).filter (fun row => row.isLiveAt moment.now) with
    | none =>
      constructor
      · rintro ⟨⟩
      · rintro ⟨-, row, hrow, hlive', -⟩
        exact absurd hlive' (Option.filter_eq_none_iff.1 hlive row hrow)
    | some row =>
      obtain ⟨hrow, hlive⟩ := Option.filter_eq_some_iff.1 hlive
      constructor
      · rintro ⟨⟩
        exact ⟨hcall, row, hrow, hlive, rfl⟩
      · rintro ⟨-, row', hrow', -, rfl⟩
        cases hrow.symm.trans hrow'
        rfl
  · rename_i hcall
    constructor
    · rintro ⟨⟩
    · exact fun h => absurd h.1 hcall

/-- Without a row there is nothing to revoke. -/
theorem revocations_of_none (hrow : table.row? kind token = none) (calls : List Moment) :
    table.revocations kind token calls = [] := by
  cases calls with
  | nil => rfl
  | cons moment calls => rw [revocations, if_pos hrow]

/-- A revoked session is not revoked again. -/
theorem revocations_of_revoked (hdistinct : table.Distinct)
    (hrow : table.row? kind token = some row) (hrevoked : row.revokedAt.isSome = true)
    (calls : List Moment) : table.revocations kind token calls = [] := by
  have hdead (now : Timestamp) : row.isLiveAt now = false := by
    rw [Row.isLiveAt, Option.isNone_eq_false_iff.2 hrevoked, Bool.false_and]
  induction calls generalizing table with
  | nil => rfl
  | cons moment calls ih =>
    have howner : table.owner? moment kind token = none := by
      refine Option.eq_none_iff_forall_ne_some.2 fun owner howner => ?_
      obtain ⟨-, row', hrow', hlive, -⟩ := (owner?_eq_some_iff hdistinct).1 howner
      cases hrow.symm.trans hrow'
      cases (hdead _).symm.trans hlive
    rw [revocations, if_neg (by rw [hrow]; exact Option.some_ne_none _), howner]
    have hbecomes := becomes_next hdistinct hrow moment
    generalize hleft : (table.next moment).row? kind token = left at hbecomes
    cases hbecomes with
    | stays => exact ih (hdistinct.next moment) hleft
    | revoked _ hlive => cases (hdead _).symm.trans hlive
    | deleted => exact revocations_of_none hleft calls

/-- A session is revoked once at most, which gives its owner, before the session expires. -/
theorem revocations_spec (hdistinct : table.Distinct) (hrow : table.row? kind token = some row)
    (calls : List Moment) :
    (table.revocations kind token calls).length ≤ 1 ∧
      ∀ entry ∈ table.revocations kind token calls,
        entry.2 = row.principalId ∧ entry.1.nanos < row.expiresAt.nanos := by
  induction calls generalizing table with
  | nil => exact ⟨Nat.zero_le 1, by rintro _ ⟨⟩⟩
  | cons moment calls ih =>
    rw [revocations, if_neg (by rw [hrow]; exact Option.some_ne_none _)]
    obtain ⟨rfl, rfl⟩ := named_of_row? hrow
    have howner {owner : PrincipalId} :
        table.owner? moment row.kind row.token = some owner ↔ _ := owner?_eq_some_iff hdistinct
    have hbecomes := becomes_next hdistinct hrow moment
    generalize hleft : (table.next moment).row? row.kind row.token = left at hbecomes
    cases hbecomes with
    | stays hcall =>
      have hnone : table.owner? moment row.kind row.token = none := by
        refine Option.eq_none_iff_forall_ne_some.2 fun owner hsome => ?_
        obtain ⟨hrevoke, row', hrow', hlive, -⟩ := howner.1 hsome
        cases hrow.symm.trans hrow'
        cases (hcall hrevoke).symm.trans hlive
      rw [hnone]
      exact ih (hdistinct.next moment) hleft
    | revoked hcall hlive =>
      rw [howner.2 ⟨hcall, row, hrow, hlive, rfl⟩,
        revocations_of_revoked (hdistinct.next moment) hleft rfl]
      simp only [Row.isLiveAt, Bool.and_eq_true, decide_eq_true_eq] at hlive
      refine ⟨Nat.le_refl 1, ?_⟩
      intro entry hmem
      obtain rfl := List.mem_singleton.1 hmem
      exact ⟨rfl, hlive.2⟩
    | deleted size hcall =>
      have hnone : table.owner? moment row.kind row.token = none := by
        rw [owner?, if_neg (fun hrevoke => by cases hcall.symm.trans hrevoke)]
      rw [hnone, revocations_of_none hleft]
      exact ⟨Nat.zero_le 1, by rintro _ ⟨⟩⟩

end Table

/-! ## Sessions and the calls that store them -/

/-- A session that one of some calls has stored. -/
structure Opening (calls : List Moment) where
  /-- The calls before it. -/
  before : List Moment
  /-- When it is stored. -/
  now : Timestamp
  /-- What is to be stored. -/
  new : New
  /-- The order in which rows are found. -/
  order : List Row → List Row
  /-- Rows are only put in another order. -/
  perm : ∀ rows, (order rows).Perm rows
  /-- The calls after it. -/
  later : List Moment
  /-- The id that is given out. -/
  id : SessionId
  /-- It is one of the calls. -/
  split : calls = before ++ ⟨now, .create new, order, perm⟩ :: later
  /-- The session is stored. -/
  stored : (({} : Table).after before).reply ⟨now, .create new, order, perm⟩ = .ok id

namespace Opening

variable {calls : List Moment}

/-- The call that stores the session. -/
def moment (opening : Opening calls) : Moment :=
  ⟨opening.now, .create opening.new, opening.order, opening.perm⟩

/-- The table that the session is stored in. -/
def table (opening : Opening calls) : Table :=
  (({} : Table).after opening.before).next opening.moment

/-- The row that is stored. -/
def first (opening : Opening calls) : Row := opening.new.row opening.id opening.now

/-- The row of the session after the calls, if it is still stored. -/
def row (opening : Opening calls) : Option Row :=
  opening.table.trace opening.new.kind opening.new.token opening.later

/-- The status of the session after the calls. -/
def status (opening : Opening calls) (now : Timestamp) : Status := Status.of opening.row now

/-- The owners that revocations of the session give, each with the time. -/
def revocations (opening : Opening calls) : List (Timestamp × PrincipalId) :=
  opening.table.revocations opening.new.kind opening.new.token opening.later

/-- The session among more calls. -/
def extend (opening : Opening calls) (more : List Moment) : Opening (calls ++ more) where
  before := opening.before
  now := opening.now
  new := opening.new
  order := opening.order
  perm := opening.perm
  later := opening.later ++ more
  id := opening.id
  split := (congrArg (· ++ more) opening.split).trans (List.append_assoc _ _ _)
  stored := opening.stored

variable (opening : Opening calls)

/-- The calls lead from the table in which the session is stored to the table after them. -/
theorem after_later : opening.table.after opening.later = ({} : Table).after calls :=
  ((congrArg (Table.after {}) opening.split).trans (Table.after_append _ _ _)).symm

/-- Whatever is called after a session is stored, no two rows have the same name. -/
theorem distinct_after (more : List Moment) : (opening.table.after more).Distinct := by
  have hrest := Table.distinct_after (opening.before ++ opening.moment :: more)
  rwa [Table.after_append] at hrest

/-- A session is stored if there is none of its name, and it gets the next id. -/
theorem stored_iff {table : Table} {now : Timestamp} {new : New} {order : List Row → List Row}
    {perm : ∀ rows, (order rows).Perm rows} {id : SessionId} (hdistinct : table.Distinct) :
    table.reply ⟨now, .create new, order, perm⟩ = .ok id ↔
      table.row? new.kind new.token = none ∧ id = table.lastId + 1 := by
  rw [Table.reply, Table.answer, Table.create, Table.row?_ordered hdistinct]
  cases table.row? new.kind new.token with
  | none => exact ⟨fun h => ⟨rfl, (Except.ok.inj h).symm⟩, fun h => by rw [h.2]; rfl⟩
  | some row =>
    constructor
    · rintro ⟨⟩
    · rintro ⟨⟨⟩, -⟩

/-- Before a session is stored there is none of its name, and it gets the next id. -/
theorem stored_spec :
    (({} : Table).after opening.before).row? opening.new.kind opening.new.token = none ∧
      opening.id = (({} : Table).after opening.before).lastId + 1 :=
  (stored_iff (Table.distinct_after _)).1 opening.stored

/-- The row that is stored is found. -/
theorem row?_table :
    opening.table.row? opening.new.kind opening.new.token = some opening.first := by
  obtain ⟨hnone, hid⟩ := opening.stored_spec
  rw [table, moment, Table.next, Table.answer, Table.row?_create,
    Table.row?_ordered (Table.distinct_after _), if_pos ⟨hnone, rfl, rfl⟩, first, hid]
  rfl

/-- The ids are the numbers of the calls that are to store a session. -/
theorem id_eq : opening.id = Int64.ofNat (creations opening.before + 1) := by
  rw [opening.stored_spec.2, Table.lastId_after]
  exact (Int64.ofNat_add _ 1).symm

/-- The row of a session is in the table, under its name. -/
theorem row?_of_row {row : Row} (hrow : opening.row = some row) :
    (({} : Table).after calls).row? opening.new.kind opening.new.token = some row := by
  rw [← opening.after_later]
  exact Table.row?_after_of_trace hrow

/-- One more call leads to the row of the name after it, if the session is still stored. -/
theorem row_extend_one (moment : Moment) :
    (opening.extend [moment]).row =
      opening.row.bind (fun _ =>
        ((({} : Table).after calls).next moment).row? opening.new.kind opening.new.token) := by
  have hrow : (opening.extend [moment]).row =
      opening.table.trace opening.new.kind opening.new.token (opening.later ++ [moment]) := rfl
  rw [hrow, Table.trace_append, after_later]
  cases hlast : opening.row with
  | none => rw [show opening.table.trace _ _ opening.later = none from hlast]; rfl
  | some row =>
    rw [show opening.table.trace _ _ opening.later = some row from hlast, Option.bind_some,
      Option.bind_some, Table.trace, opening.row?_of_row hlast, Option.bind_some]
    rfl

/-- Of two sessions, both are the same or one is stored after the other. -/
theorem eq_or_before (opening other : Opening calls) :
    opening.before = other.before ∨
      (∃ between, other.before = opening.before ++ opening.moment :: between ∧
        opening.later = between ++ other.moment :: other.later) ∨
      ∃ between, opening.before = other.before ++ other.moment :: between ∧
        other.later = between ++ opening.moment :: opening.later := by
  have hsplit := opening.split.symm.trans other.split
  rcases List.append_eq_append_iff.1 hsplit with ⟨_ | ⟨next, between⟩, hbefore, hlater⟩ |
    ⟨_ | ⟨next, between⟩, hbefore, hlater⟩
  · exact .inl (by rw [hbefore, List.append_nil])
  · obtain ⟨rfl, hrest⟩ := List.cons.inj hlater
    exact .inr (.inl ⟨between, hbefore, hrest⟩)
  · exact .inl (by rw [hbefore, List.append_nil])
  · obtain ⟨rfl, hrest⟩ := List.cons.inj hlater
    exact .inr (.inr ⟨between, hbefore, hrest⟩)

/-- A session is still stored only if no session of its name is stored after it. -/
theorem row_eq_none_of_between {opening other : Opening calls} {between : List Moment}
    (hkind : opening.new.kind = other.new.kind) (htoken : opening.new.token = other.new.token)
    (hbefore : other.before = opening.before ++ opening.moment :: between)
    (hlater : opening.later = between ++ other.moment :: other.later) : opening.row = none := by
  have hfree := other.stored_spec.1
  rw [hbefore, Table.after_append, ← hkind, ← htoken] at hfree
  rw [row, hlater, Table.trace_append, Option.bind_eq_none_iff]
  intro row hrow
  cases (Table.row?_after_of_trace hrow).symm.trans hfree

/-- Of the sessions of a name, one at most is stored at the same time. -/
theorem before_eq_of_row {opening other : Opening calls}
    (hkind : opening.new.kind = other.new.kind) (htoken : opening.new.token = other.new.token)
    (hrow : opening.row ≠ none) (hother : other.row ≠ none) : opening.before = other.before := by
  rcases opening.eq_or_before other with heq | ⟨between, hbefore, hlater⟩ |
    ⟨between, hbefore, hlater⟩
  · exact heq
  · exact absurd (row_eq_none_of_between hkind htoken hbefore hlater) hrow
  · exact absurd (row_eq_none_of_between hkind.symm htoken.symm hbefore hlater) hother

/-- Calls that are to store a session have different ids, if they are not too many. -/
theorem before_eq_of_id {opening other : Opening calls} (hfew : creations calls < Nat.pow 2 63)
    (hid : opening.id = other.id) : opening.before = other.before := by
  -- of two calls that store a session, the later one finds more ids used up
  have hused {opening other : Opening calls} {between : List Moment}
      (hbefore : other.before = opening.before ++ opening.moment :: between)
      (hid : opening.id = other.id) : False := by
    have hother : creations other.before + 1 ≤ creations calls := by
      rw [creations, creations, congrArg (List.countP _) other.split, List.countP_append,
        List.countP_cons_of_pos rfl]
      omega
    have hmore : creations opening.before + 1 ≤ creations other.before := by
      rw [creations, creations, hbefore, List.countP_append,
        List.countP_cons_of_pos (by rfl)]
      omega
    have hsize : Nat.pow 2 63 = 0x8000000000000000 := rfl
    rw [opening.id_eq, other.id_eq] at hid
    have hsame := congrArg Int64.toInt hid
    rw [Int64.toInt_ofNat_of_lt (by omega), Int64.toInt_ofNat_of_lt (by omega)] at hsame
    omega
  rcases opening.eq_or_before other with heq | ⟨between, hbefore, -⟩ | ⟨between, hbefore, -⟩
  · exact heq
  · exact (hused hbefore hid).elim
  · exact (hused hbefore hid.symm).elim

/-- The rows of the table are those of the sessions. -/
theorem exists_row_iff {row : Row} :
    row ∈ (({} : Table).after calls).rows ↔ ∃ opening : Opening calls, opening.row = some row := by
  have hnamed (kind : PrincipalKind) (token : String)
      (hrow : (({} : Table).after calls).row? kind token = some row) :
      ∃ opening : Opening calls, opening.row = some row := by
    induction calls using List.reverseRecOn generalizing row with
    | nil => cases hrow
    | append_singleton calls moment ih =>
      have hdistinct := Table.distinct_after calls
      rw [Table.after_concat] at hrow
      obtain ⟨now, call, order, perm⟩ := moment
      cases hold : (({} : Table).after calls).row? kind token with
      | none =>
        rcases Table.row?_next_of_none hdistinct hold ⟨now, call, order, perm⟩ with
          hnone | ⟨new, hcall, rfl, rfl, -⟩
        · cases hnone.symm.trans hrow
        · cases hcall
          exact ⟨⟨calls, now, new, order, perm, [], _, rfl,
            (stored_iff hdistinct).2 ⟨hold, rfl⟩⟩, hrow⟩
      | some old =>
        obtain ⟨opening, hopening⟩ := ih hold
        obtain ⟨rfl, rfl⟩ := Table.named_of_row? hold
        obtain ⟨hkind, htoken⟩ := Table.named_of_row? (opening.row?_of_row hopening)
        refine ⟨opening.extend [⟨now, call, order, perm⟩], ?_⟩
        rw [row_extend_one, hopening, Option.bind_some, ← hkind, ← htoken]
        exact hrow
  constructor
  · intro hmem
    exact hnamed row.kind row.token
      ((Table.row?_eq_some_iff (Table.distinct_after calls)).2 ⟨hmem, Row.isNamed_iff.2 ⟨rfl, rfl⟩⟩)
  · rintro ⟨opening, hrow⟩
    exact List.mem_of_find?_eq_some (opening.row?_of_row hrow)

/-- A session is active as long as its row is live. -/
theorem status_eq_active_iff {now : Timestamp} :
    opening.status now = .active ↔
      ∃ row, opening.row = some row ∧ row.isLiveAt now = true := by
  rw [status]
  cases opening.row with
  | none =>
    constructor
    · rintro ⟨⟩
    · rintro ⟨row, ⟨⟩, -⟩
  | some row =>
    constructor
    · exact fun h => ⟨row, rfl, Row.status_eq_active_iff.1 h⟩
    · rintro ⟨_, ⟨⟩, hlive⟩
      exact Row.status_eq_active_iff.2 hlive

/-- The row of a session is the one that was stored, or that one revoked. -/
theorem row_eq_first {row : Row} (hrow : opening.row = some row) :
    row = opening.first ∨ opening.first.revokedAt = none ∧
      ∃ moment ∈ opening.later, row = { opening.first with revokedAt := some moment.now } :=
  have hfirst : opening.table.trace opening.new.kind opening.new.token [] = some opening.first :=
    opening.row?_table
  Table.row_trace opening.distinct_after hfirst hrow

/-- The owner of a session stays the one it was stored for. -/
theorem principalId_of_row {row : Row} (hrow : opening.row = some row) :
    row.principalId = opening.new.principalId := by
  rcases opening.row_eq_first hrow with rfl | ⟨-, moment, -, rfl⟩ <;> rfl

/-- The live row of a name is that of an active session of the name. -/
theorem live_iff {kind : PrincipalKind} {token : String} {row : Row} {now : Timestamp} :
    (({} : Table).after calls).row? kind token = some row ∧ row.isLiveAt now = true ↔
      ∃ opening : Opening calls, opening.new.kind = kind ∧ opening.new.token = token ∧
        opening.row = some row ∧ opening.status now = .active := by
  constructor
  · rintro ⟨hrow, hlive⟩
    obtain ⟨opening, hopening⟩ := exists_row_iff.1 (List.mem_of_find?_eq_some hrow)
    obtain ⟨hkind, htoken⟩ := Table.named_of_row? hrow
    obtain ⟨hkind', htoken'⟩ := Table.named_of_row? (opening.row?_of_row hopening)
    exact ⟨opening, hkind'.symm.trans hkind, htoken'.symm.trans htoken, hopening,
      opening.status_eq_active_iff.2 ⟨row, hopening, hlive⟩⟩
  · rintro ⟨opening, rfl, rfl, hrow, hactive⟩
    obtain ⟨row', hrow', hlive⟩ := opening.status_eq_active_iff.1 hactive
    cases hrow.symm.trans hrow'
    exact ⟨opening.row?_of_row hrow, hlive⟩

/-- A session is found as long as it is active. -/
theorem find_iff {kind : PrincipalKind} {token : String} {row : Row} {now : Timestamp}
    {order : List Row → List Row} {perm : ∀ rows, (order rows).Perm rows} :
    (({} : Table).after calls).reply ⟨now, .find kind token, order, perm⟩ = .ok row ↔
      ∃ opening : Opening calls, opening.new.kind = kind ∧ opening.new.token = token ∧
        opening.row = some row ∧ opening.status now = .active := by
  rw [← live_iff, ← Table.row?_ordered (Table.distinct_after calls)
    ⟨now, .find kind token, order, perm⟩]
  exact Table.find_eq_ok_iff

/-- A revocation gives an owner if the owner's session is active. -/
theorem revoke_iff {kind : PrincipalKind} {token : String} {owner : PrincipalId} {now : Timestamp}
    {order : List Row → List Row} {perm : ∀ rows, (order rows).Perm rows} :
    (({} : Table).after calls).reply ⟨now, .revoke kind token, order, perm⟩ = .ok (some owner) ↔
      ∃ opening : Opening calls, opening.new.kind = kind ∧ opening.new.token = token ∧
        opening.new.principalId = owner ∧ opening.status now = .active := by
  have howner : Table.owner? _ ⟨now, .revoke kind token, order, perm⟩ kind token = some owner ↔ _ :=
    Table.owner?_eq_some_iff (Table.distinct_after calls)
  rw [Table.owner?, if_pos rfl] at howner
  constructor
  · intro hreply
    obtain ⟨-, row, hrow, hlive, rfl⟩ := howner.1 (Except.ok.inj hreply)
    obtain ⟨opening, hkind, htoken, hopening, hactive⟩ := live_iff.1 ⟨hrow, hlive⟩
    exact ⟨opening, hkind, htoken, (opening.principalId_of_row hopening).symm, hactive⟩
  · rintro ⟨opening, rfl, rfl, rfl, hactive⟩
    obtain ⟨row, hrow, hlive⟩ := opening.status_eq_active_iff.1 hactive
    exact congrArg Except.ok (howner.2
      ⟨rfl, row, opening.row?_of_row hrow, hlive, opening.principalId_of_row hrow⟩)

end Opening

/-- What becomes of the sessions that calls store, find, revoke, count and delete. -/
structure Lifecycle (calls : List Moment) : Prop where
  /-- A session starts with the row that was to be stored, which is not revoked. -/
  starts : ∀ opening : Opening calls, opening.later = [] →
    opening.row = some opening.first ∧ opening.first.revokedAt = none
  /-- From any time to any later one, a session makes moves of statuses. -/
  moves : ∀ past more, calls = past ++ more → ∀ (opening : Opening past) (time later : Timestamp),
    Between more time later →
      Relation.ReflTransGen Status.Move (opening.status time) ((opening.extend more).status later)
  /-- A status that a session has left does not come back. -/
  forth : ∀ past between more, calls = past ++ (between ++ more) →
    ∀ (opening : Opening past) (time middle later : Timestamp),
      Between between time middle → Between more middle later →
        (opening.extend between).status middle ≠ opening.status time →
          ((opening.extend between).extend more).status later ≠ opening.status time
  /-- As long as a session is stored, its row stays as it is, but for being revoked once. -/
  stays : ∀ past more, calls = past ++ more → ∀ (opening : Opening past) (row left : Row),
    opening.row = some row → (opening.extend more).row = some left →
      left = row ∨ row.revokedAt = none ∧
        ∃ moment ∈ more, left = { row with revokedAt := some moment.now }
  /-- Of all revocations of a session, one at most gives an owner: the session's own, and before the
  session expires. -/
  revoked : ∀ opening : Opening calls, opening.revocations.length ≤ 1 ∧
    ∀ entry ∈ opening.revocations,
      entry.2 = opening.new.principalId ∧ entry.1.nanos < opening.first.expiresAt.nanos
  /-- A revocation gives an owner if an active session of the name is the owner's. -/
  given : ∀ past now kind token order perm more,
    calls = past ++ ⟨now, .revoke kind token, order, perm⟩ :: more → ∀ owner,
      (({} : Table).after past).reply ⟨now, .revoke kind token, order, perm⟩ = .ok (some owner) ↔
        ∃ opening : Opening past, opening.new.kind = kind ∧ opening.new.token = token ∧
          opening.new.principalId = owner ∧ opening.status now = .active
  /-- A row is found if it is that of an active session of the name. -/
  found : ∀ past now kind token order perm more,
    calls = past ++ ⟨now, .find kind token, order, perm⟩ :: more → ∀ row,
      (({} : Table).after past).reply ⟨now, .find kind token, order, perm⟩ = .ok row ↔
        ∃ opening : Opening past, opening.new.kind = kind ∧ opening.new.token = token ∧
          opening.row = some row ∧ opening.status now = .active
  /-- The rows are those of the sessions that are still stored. -/
  rows : ∀ row, row ∈ (({} : Table).after calls).rows ↔
    ∃ opening : Opening calls, opening.row = some row
  /-- Two sessions of one name are never stored at the same time. -/
  alone : ∀ opening other : Opening calls, opening.new.kind = other.new.kind →
    opening.new.token = other.new.token → opening.row ≠ none → other.row ≠ none →
      opening.before = other.before
  /-- A batch adds no row, changes none, and takes only rows of its kind that are not active. -/
  swept : ∀ past moment more kind size, calls = past ++ moment :: more →
    moment.call = .deleteSweepable kind size →
      (∀ row ∈ (({} : Table).after (past ++ [moment])).rows, row ∈ (({} : Table).after past).rows) ∧
        ∀ row ∈ (({} : Table).after past).rows,
          row ∈ (({} : Table).after (past ++ [moment])).rows ∨
            row.kind = kind ∧ row.status moment.now ≠ .active
  /-- Different calls give out different ids, if there are less than 2⁶³ of them. -/
  ids : creations calls < Nat.pow 2 63 → ∀ opening other : Opening calls,
    opening.id = other.id → opening.before = other.before
  /-- Calls for a name give the same without calls for other names, but for the ids of sessions, if
  batches treat the dead session of the name alike. -/
  isolated : ∀ kind token kept, Unaffected kind token kept calls → ∀ before moment later,
    calls = before ++ moment :: later → moment.call.name? = some (kind, token) →
      (({} : Table).after before).outcome moment =
        (({} : Table).after (before.filter kept)).outcome moment

/-- **The life of a session.** Whatever calls are made of a table of sessions, with times that never
go back and whichever rows a batch meets first: what `Lifecycle` says. -/
theorem session_lifecycle (calls : List Moment) (h : Chronological calls) : Lifecycle calls where
  starts opening hlater := by
    refine ⟨?_, rfl⟩
    rw [Opening.row, hlater]
    exact opening.row?_table
  moves past more hsplit opening time later hbetween := by
    rw [Chronological, hsplit, List.pairwise_append] at h
    exact Table.moves_trace opening.distinct_after h.2.1 hbetween
  forth past between more hsplit opening time middle later hfirst hsecond hleft hback := by
    rw [Chronological, hsplit, List.pairwise_append, List.pairwise_append] at h
    have hmoves : Relation.ReflTransGen Status.Move (opening.status time)
        ((opening.extend between).status middle) :=
      Table.moves_trace opening.distinct_after h.2.1.1 hfirst
    have hmoves' : Relation.ReflTransGen Status.Move ((opening.extend between).status middle)
        (((opening.extend between).extend more).status later) :=
      Table.moves_trace opening.distinct_after h.2.1.2.1 hsecond
    -- the first moves raise the rank, and the second do not lower it again
    rw [hback] at hmoves'
    have hrank := Status.eq_or_rank_lt_of_moves hmoves
    have hrank' := Status.eq_or_rank_lt_of_moves hmoves'
    rcases hrank with heq | hlt
    · exact hleft heq.symm
    · rcases hrank' with heq | hlt'
      · exact hleft heq
      · omega
  stays past more _ opening row left hrow hleft :=
    Table.row_trace opening.distinct_after hrow hleft
  revoked opening := by
    have hspec := Table.revocations_spec (opening.distinct_after []) opening.row?_table
      opening.later
    exact hspec
  given past now kind token order perm more _ owner := Opening.revoke_iff
  found past now kind token order perm more _ row := Opening.find_iff
  rows row := Opening.exists_row_iff
  alone opening other := Opening.before_eq_of_row
  swept past moment more kind size _ hcall := by
    obtain ⟨now, call, order, perm⟩ := moment
    cases hcall
    rw [Table.after_concat]
    have hperm := perm (({} : Table).after past).rows
    constructor
    · intro row hmem
      exact hperm.subset ((Table.deleteFirst_sublist _ _ _).subset hmem)
    · intro row hmem
      cases hvictim : row.isVictim kind now with
      | false => exact .inl (Table.mem_deleteFirst (hperm.symm.subset hmem) hvictim _)
      | true =>
        refine .inr ?_
        rw [Ne, Row.status_eq_active_iff]
        simpa [Row.isVictim, Row.isSweepableAt] using hvictim
  ids hfew opening other := Opening.before_eq_of_id hfew
  isolated kind token kept hcalls before moment later hsplit hname :=
    outcome_filter hcalls h hsplit hname

/-- A session of staff that is stored at once and lives for some time. -/
def New.plain (token : String) (ttl : Duration) : New := ⟨1, .staff, token, none, none, ttl⟩

/-- A call at the first moment. -/
def Moment.plain (call : Call) : Moment := { now := ⟨0⟩, call }

/-- A session is stored, revoked and deleted. -/
def Moment.plainLife : List Moment :=
  [.plain (.create (.plain "a" (.ofSeconds 1))), .plain (.revoke .staff "a"),
    .plain (.deleteSweepable .staff 1)]

/-- The session is revoked once, by its owner, and gone in the end. -/
theorem session_lifecycle_revoked :
    Chronological Moment.plainLife ∧ ∃ opening : Opening Moment.plainLife,
      opening.revocations = [(⟨0⟩, 1)] ∧ opening.status ⟨0⟩ = .deleted ∧
        Lifecycle Moment.plainLife := by
  have h : Chronological Moment.plainLife := by
    simp [Chronological, Moment.plainLife, Moment.plain]
  exact ⟨h, ⟨[], ⟨0⟩, .plain "a" (.ofSeconds 1), id, _, [.plain (.revoke .staff "a"),
    .plain (.deleteSweepable .staff 1)], 1, rfl, rfl⟩, rfl, rfl, session_lifecycle _ h⟩

/-- What a session of another name can do: of two sessions that are not live, a batch takes one, and
it is the other one. The token stays taken, which it is not without the other session. -/
theorem crowded_out :
    let other : Moment := .plain (.create (.plain "a" .zero))
    let store : Moment := .plain (.create (.plain "b" .zero))
    let batch : Moment := .plain (.deleteSweepable .staff 1)
    Chronological [other, store, batch, store] ∧
      other.call.name? = some (.staff, "a") ∧ store.call.name? = some (.staff, "b") ∧
        (({} : Table).after [other, store, batch]).outcome store =
            .error (.database "duplicate refresh token") ∧
          (({} : Table).after [store, batch]).outcome store = .ok (0 : SessionId) := by
  refine ⟨?_, rfl, rfl, rfl, rfl⟩
  simp [Chronological, Moment.plain]

end Gatehouse.Session
