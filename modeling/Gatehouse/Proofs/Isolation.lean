import Gatehouse.Proofs.SessionCalls

/-!
# Sessions of different names

Calls for one kind and token, with and without calls for others before them. A session that is no
longer live keeps its token until a batch takes it, and a batch takes at most so many sessions of a
kind: so which sessions others have stored can decide whether a batch takes one. Main statement:
nothing else is between them (`outcome_filter`). Where every batch that stands between two attempts
to store a session of the name passes over the dead session of that name in both runs or in neither,
the calls for the name give the same, but for the ids of sessions.
-/

namespace Gatehouse.Session

/-- A row without its id. -/
def Row.anonymous (row : Row) : Row := { row with id := 0 }

/-- Whether a row is live does not depend on its id. -/
theorem Row.isLiveAt_anonymous (row : Row) (now : Timestamp) :
    row.anonymous.isLiveAt now = row.isLiveAt now := rfl

/-- What a call gives, without the id of a session. -/
def Call.anonymous : (call : Call) → call.Value → call.Value
  | create _, _ => (0 : SessionId)
  | find _ _, row => Row.anonymous row
  | revoke _ _, owner => owner
  | countSweepable _, count => count
  | deleteSweepable _ _, count => count

/-- Whether a call is to store a session of a name. -/
def Moment.Opens (moment : Moment) (kind : PrincipalKind) (token : String) : Prop :=
  ∃ new, moment.call = .create new ∧ new.kind = kind ∧ new.token = token

namespace Table

/-- What a call gives, without the id of a session. -/
def outcome (table : Table) (moment : Moment) : Except StorageError moment.call.Value :=
  (table.reply moment).map moment.call.anonymous

/-- A call leaves a row of the name that is not live. -/
def PassesOver (table : Table) (moment : Moment) (kind : PrincipalKind) (token : String) : Prop :=
  ∃ row, (table.next moment).row? kind token = some row ∧ row.isLiveAt moment.now = false

/-- Two tables have the same row of a name, but for its id. -/
def Agree (kind : PrincipalKind) (token : String) (first second : Table) : Prop :=
  (first.row? kind token).map Row.anonymous = (second.row? kind token).map Row.anonymous

/-- Two tables have the same live row of a name from a time on, but for its id. -/
def AgreeFrom (time : Timestamp) (kind : PrincipalKind) (token : String) (first second : Table) :
    Prop :=
  ∀ later, time.nanos ≤ later.nanos →
    ((first.row? kind token).filter (fun row => row.isLiveAt later)).map Row.anonymous =
      ((second.row? kind token).filter (fun row => row.isLiveAt later)).map Row.anonymous

variable {first second : Table} {kind : PrincipalKind} {token : String} {time later : Timestamp}
  {moment : Moment}

/-- No other call adds a row of a name than one that is to store a session of the name. -/
theorem row?_next_of_not_opens {table : Table} (hdistinct : table.Distinct)
    (hrow : table.row? kind token = none) (hopens : ¬ moment.Opens kind token) :
    (table.next moment).row? kind token = none := by
  rcases row?_next_of_none hdistinct hrow moment with hnone | ⟨new, hcall, hkind, htoken, -⟩
  · exact hnone
  · exact absurd ⟨new, hcall, hkind, htoken⟩ hopens

/-! ## Tables that agree -/

/-- Tables that agree have both a row or both none. -/
theorem Agree.eq_none_iff (h : Agree kind token first second) :
    first.row? kind token = none ↔ second.row? kind token = none := by
  rw [← Option.map_eq_none_iff (f := Row.anonymous), h, Option.map_eq_none_iff]

/-- The live row without its id is the row without its id, if that is live. -/
theorem map_filter_live (row? : Option Row) (time : Timestamp) :
    (row?.filter (fun row => row.isLiveAt time)).map Row.anonymous =
      (row?.map Row.anonymous).filter (fun row => row.isLiveAt time) := by
  cases row? with
  | none => rfl
  | some row =>
    rw [Option.map_some, Option.filter_some, Option.filter_some, apply_ite (Option.map _)]
    rfl

/-- Tables that agree have the same live row at all times. -/
theorem Agree.agreeFrom (h : Agree kind token first second) (time : Timestamp) :
    AgreeFrom time kind token first second := by
  intro later _
  rw [map_filter_live, map_filter_live, h]

/-- Tables that agree from a time on agree from later times on. -/
theorem AgreeFrom.mono (h : AgreeFrom time kind token first second)
    (hle : time.nanos ≤ later.nanos) : AgreeFrom later kind token first second :=
  fun latest hlatest => h latest (Int.le_trans hle hlatest)

/-- After a revocation no session of the name is live. Every other call that does not store a
session of the name leaves the live one as it is. -/
theorem live_next {table : Table} (hdistinct : table.Distinct)
    (hopens : ¬ moment.Opens kind token) (hle : moment.now.nanos ≤ later.nanos) :
    ((table.next moment).row? kind token).filter (fun row => row.isLiveAt later) =
      if moment.call = .revoke kind token then none
      else (table.row? kind token).filter (fun row => row.isLiveAt later) := by
  -- what is not live now is not live later
  have hlater {row : Row} (hdead : row.isLiveAt moment.now = false) :
      (some row).filter (fun row => row.isLiveAt later) = none := by
    refine Option.filter_eq_none_iff.2 ?_
    rintro _ ⟨⟩ hlive
    rw [Row.isLiveAt_of_le hle hlive] at hdead
    cases hdead
  cases hrow : table.row? kind token with
  | none =>
    rw [row?_next_of_not_opens hdistinct hrow hopens]
    split <;> rfl
  | some row =>
    obtain ⟨rfl, rfl⟩ := named_of_row? hrow
    have hbecomes := becomes_next hdistinct hrow moment
    generalize (table.next moment).row? row.kind row.token = left at hbecomes ⊢
    cases hbecomes with
    | stays hcall =>
      split
      · rename_i hrevoke
        exact hlater (hcall hrevoke)
      · rfl
    | revoked hcall => rw [if_pos hcall]; rfl
    | deleted size hcall hdead =>
      rw [if_neg (fun hrevoke => by cases hcall.symm.trans hrevoke), hlater hdead]
      rfl

/-- A batch leaves the row of a name, or it takes one of its kind that is not live. -/
theorem row?_next_of_batch {table : Table} {row : Row} {other : PrincipalKind} {size : UInt32}
    (hdistinct : table.Distinct) (hcall : moment.call = .deleteSweepable other size)
    (hrow : table.row? kind token = some row) :
    (table.next moment).row? kind token = some row ∨
      kind = other ∧ row.isLiveAt moment.now = false ∧
        (table.next moment).row? kind token = none := by
  obtain ⟨rfl, rfl⟩ := named_of_row? hrow
  have hbecomes := becomes_next hdistinct hrow moment
  generalize (table.next moment).row? row.kind row.token = left at hbecomes ⊢
  cases hbecomes with
  | stays => exact .inl rfl
  | revoked hother =>
    rw [hcall] at hother
    cases hother
  | deleted size hother hdead =>
    rw [hcall] at hother
    cases hother
    exact .inr ⟨rfl, hdead, rfl⟩

/-- A call keeps tables in agreement, if it is no batch that passes over the row of the name in one
of them only. -/
theorem Agree.next (hfirst : first.Distinct) (hsecond : second.Distinct)
    (h : Agree kind token first second)
    (hbatch : ∀ size, moment.call = .deleteSweepable kind size →
      (first.PassesOver moment kind token ↔ second.PassesOver moment kind token)) :
    Agree kind token (first.next moment) (second.next moment) := by
  obtain ⟨now, call, order, perm⟩ := moment
  have hordered : Agree kind token (first.ordered ⟨now, call, order, perm⟩)
      (second.ordered ⟨now, call, order, perm⟩) := by
    rw [Agree, row?_ordered hfirst, row?_ordered hsecond]
    exact h
  cases call with
  | create new =>
    rw [Agree, Table.next, Table.next, answer, answer, row?_create, row?_create]
    simp only [hordered.eq_none_iff]
    split
    · rfl
    · exact hordered
  | find other otherToken => exact hordered
  | countSweepable other => exact hordered
  | revoke other otherToken =>
    rw [Agree, Table.next, Table.next, answer, answer]
    dsimp only
    rw [row?_revoke, row?_revoke, Option.map_map, Option.map_map]
    -- whether a row is marked as revoked does not depend on its id
    have hmark : Row.anonymous ∘ (fun row : Row =>
        if kind = other ∧ token = otherToken ∧ row.isLiveAt now = true then
          { row with revokedAt := some now } else row) =
        (fun row : Row =>
          if kind = other ∧ token = otherToken ∧ row.isLiveAt now = true then
            { row with revokedAt := some now } else row) ∘ Row.anonymous := by
      funext row
      simp only [Function.comp, apply_ite Row.anonymous]
      rfl
    rw [hmark, ← Option.map_map, ← Option.map_map, hordered]
  | deleteSweepable other size =>
    generalize hmoment : (⟨now, .deleteSweepable other size, order, perm⟩ : Moment) = moment
      at hbatch ⊢
    have hcall : moment.call = .deleteSweepable other size := by rw [← hmoment]
    cases hrow : first.row? kind token with
    | none =>
      have hopens : ¬ moment.Opens kind token := by
        rintro ⟨new, hcreate, -⟩
        cases hcall.symm.trans hcreate
      rw [Agree, row?_next_of_not_opens hfirst hrow hopens,
        row?_next_of_not_opens hsecond (h.eq_none_iff.1 hrow) hopens]
    | some row =>
      obtain ⟨row', hrow', hsame⟩ := Option.map_eq_some_iff.1 (h.symm.trans (by rw [hrow]; rfl))
      have hlive : row'.isLiveAt moment.now = row.isLiveAt moment.now := by
        rw [← row'.isLiveAt_anonymous, hsame, row.isLiveAt_anonymous]
      rw [Agree]
      rcases row?_next_of_batch hfirst hcall hrow with hkept | ⟨hkind, hdead, hgone⟩ <;>
        rcases row?_next_of_batch hsecond hcall hrow' with hkept' | ⟨hkind', hdead', hgone'⟩
      · rw [hkept, hkept', Option.map_some, Option.map_some, hsame]
      · -- passed over in the first table only
        obtain ⟨left, hleft, -⟩ := (hbatch size (hkind' ▸ hcall)).1 ⟨row, hkept, hlive ▸ hdead'⟩
        cases hgone'.symm.trans hleft
      · obtain ⟨left, hleft, -⟩ := (hbatch size (hkind ▸ hcall)).2 ⟨row', hkept', hlive ▸ hdead⟩
        cases hgone.symm.trans hleft
      · rw [hgone, hgone']

/-- A call keeps tables in agreement from its time on, if it stores no session of the name, or if
the tables agree on all rows of the name. -/
theorem AgreeFrom.next (hfirst : first.Distinct) (hsecond : second.Distinct)
    (h : AgreeFrom moment.now kind token first second)
    (hopens : moment.Opens kind token → Agree kind token first second) :
    AgreeFrom moment.now kind token (first.next moment) (second.next moment) := by
  by_cases hstores : moment.Opens kind token
  · refine (Agree.next hfirst hsecond (hopens hstores) ?_).agreeFrom moment.now
    obtain ⟨new, hcreate, -⟩ := hstores
    intro size hcall
    cases hcreate.symm.trans hcall
  · intro later hle
    rw [live_next hfirst hstores hle, live_next hsecond hstores hle]
    split
    · rfl
    · exact h later hle

/-- A call for a name gives the same in tables that agree, but for the id of a session. -/
theorem outcome_eq (hfirst : first.Distinct) (hsecond : second.Distinct)
    (hname : moment.call.name? = some (kind, token))
    (h : AgreeFrom moment.now kind token first second)
    (hopens : moment.Opens kind token → Agree kind token first second) :
    first.outcome moment = second.outcome moment := by
  obtain ⟨now, call, order, perm⟩ := moment
  have hlive := h now (Int.le_refl _)
  rw [← row?_ordered hfirst ⟨now, call, order, perm⟩,
    ← row?_ordered hsecond ⟨now, call, order, perm⟩] at hlive
  cases call with
  | create new =>
    cases hname
    have hagree := (hopens ⟨new, rfl, rfl, rfl⟩).eq_none_iff
    rw [outcome, outcome, reply, reply, answer, answer, create, create, row?_ordered hfirst,
      row?_ordered hsecond]
    cases hrow : first.row? new.kind new.token with
    | none => rw [hagree.1 hrow]; rfl
    | some row =>
      cases hrow' : second.row? new.kind new.token with
      | none => cases hrow.symm.trans (hagree.2 hrow')
      | some row' => rfl
  | find other otherToken =>
    cases hname
    rw [outcome, outcome, reply, reply, answer, answer, find, find]
    generalize Option.filter _ (Table.row? _ _ _) = live at hlive ⊢
    generalize Option.filter _ (Table.row? _ _ _) = live' at hlive ⊢
    rcases live with _ | row <;> rcases live' with _ | row'
    · rfl
    · cases hlive
    · cases hlive
    · exact congrArg Except.ok (Option.some.inj hlive)
  | revoke other otherToken =>
    cases hname
    rw [outcome, outcome, reply, reply, answer, answer, revoke, revoke]
    generalize Option.filter _ (Table.row? _ _ _) = live at hlive ⊢
    generalize Option.filter _ (Table.row? _ _ _) = live' at hlive ⊢
    rcases live with _ | row <;> rcases live' with _ | row'
    · rfl
    · cases hlive
    · cases hlive
    · have howner := congrArg Row.principalId (Option.some.inj hlive)
      exact congrArg (fun owner => Except.ok (some owner)) howner
  | countSweepable other => cases hname
  | deleteSweepable other size => cases hname

/-! ## Runs -/

/-- No row has a name for which no session was to be stored. -/
theorem row?_after_of_not_opened {calls : List Moment}
    (h : ∀ moment ∈ calls, ¬ moment.Opens kind token) :
    (({} : Table).after calls).row? kind token = none := by
  have hkept (table : Table) (hdistinct : table.Distinct) (hrow : table.row? kind token = none) :
      (table.after calls).row? kind token = none := by
    induction calls generalizing table with
    | nil => exact hrow
    | cons moment calls ih =>
      obtain ⟨hmoment, hcalls⟩ := List.forall_mem_cons.1 h
      exact ih hcalls _ (hdistinct.next moment) (row?_next_of_not_opens hdistinct hrow hmoment)
  exact hkept {} .nil rfl

end Table

variable {kind : PrincipalKind} {token : String} {moment : Moment}

/-- What is left out of a run are calls that name others, and each batch between two calls that are
to store a session of the name passes over its dead session in both runs or in neither. -/
structure Unaffected (kind : PrincipalKind) (token : String) (kept : Moment → Bool)
    (calls : List Moment) : Prop where
  /-- The calls that are left out name others. -/
  others : ∀ moment ∈ calls, kept moment = false →
    ∃ name, moment.call.name? = some name ∧ name ≠ (kind, token)
  /-- The batches in between pass over the session of the name in both runs or in neither. -/
  batches : ∀ before moment later size, calls = before ++ moment :: later →
    moment.call = .deleteSweepable kind size →
      (∃ earlier ∈ before, earlier.Opens kind token) →
        (∃ next ∈ later, next.Opens kind token) →
          ((({} : Table).after before).PassesOver moment kind token ↔
            (({} : Table).after (before.filter kept)).PassesOver moment kind token)

/-- Two runs agree, as far as further calls for the name can tell. -/
structure Aligned (kind : PrincipalKind) (token : String) (kept : Moment → Bool)
    (before later : List Moment) : Prop where
  /-- They agree on the row of the name, if there is still a session of the name to be stored. -/
  rows : (∃ next ∈ later, next.Opens kind token) →
    Table.Agree kind token (({} : Table).after before) (({} : Table).after (before.filter kept))
  /-- They agree on the live session of the name. -/
  live : ∀ time, (∀ moment ∈ before, moment.now.nanos ≤ time.nanos) →
    Table.AgreeFrom time kind token (({} : Table).after before)
      (({} : Table).after (before.filter kept))

variable {kept : Moment → Bool} {calls before later : List Moment}

open Table

/-- A batch passes over the session of the name in both runs or in neither, if there is still a
session of the name to be stored. -/
theorem Unaffected.passesOver_iff (h : Unaffected kind token kept calls)
    (hsplit : calls = before ++ moment :: later) (hnext : ∃ next ∈ later, next.Opens kind token)
    (size : UInt32) (hcall : moment.call = .deleteSweepable kind size) :
    (({} : Table).after before).PassesOver moment kind token ↔
      (({} : Table).after (before.filter kept)).PassesOver moment kind token := by
  by_cases hearlier : ∃ earlier ∈ before, earlier.Opens kind token
  · exact h.batches before moment later size hsplit hcall hearlier hnext
  -- no session of the name was stored yet, so there is none to pass over
  have hnone (calls : List Moment) (hsub : ∀ earlier ∈ calls, earlier ∈ before) :
      ¬ (({} : Table).after calls).PassesOver moment kind token := by
    rintro ⟨row, hrow, -⟩
    have hstart : (({} : Table).after calls).row? kind token = none :=
      row?_after_of_not_opened fun earlier hmem hopens =>
        hearlier ⟨earlier, hsub earlier hmem, hopens⟩
    have hopens : ¬ moment.Opens kind token := by
      rintro ⟨new, hcreate, -⟩
      cases hcreate.symm.trans hcall
    cases (row?_next_of_not_opens (distinct_after calls) hstart hopens).symm.trans hrow
  exact iff_of_false (hnone before fun _ hmem => hmem)
    (hnone (before.filter kept) fun _ hmem => (List.mem_filter.1 hmem).1)

/-- Calls leave two runs aligned. -/
theorem Aligned.next (h : Aligned kind token kept before (moment :: later))
    (hchronological : Chronological calls) (hcalls : Unaffected kind token kept calls)
    (hsplit : calls = before ++ moment :: later) :
    Aligned kind token kept (before ++ [moment]) later := by
  have hfirst := distinct_after before
  have hsecond := distinct_after (before.filter kept)
  have hpast : ∀ earlier ∈ before, earlier.now.nanos ≤ moment.now.nanos := by
    rw [Chronological, hsplit, List.pairwise_append] at hchronological
    exact fun earlier hearlier => hchronological.2.2 earlier hearlier moment List.mem_cons_self
  cases hkept : kept moment with
  | true =>
    have hfilter : (before ++ [moment]).filter kept = before.filter kept ++ [moment] := by
      rw [List.filter_append, List.filter_cons_of_pos hkept, List.filter_nil]
    constructor
    · rintro ⟨next, hmem, hopens⟩
      rw [hfilter, after_concat, after_concat]
      exact (h.rows ⟨next, List.mem_cons_of_mem _ hmem, hopens⟩).next hfirst hsecond
        (hcalls.passesOver_iff hsplit ⟨next, hmem, hopens⟩)
    · intro time htime
      rw [hfilter, after_concat, after_concat]
      have hmoment := (List.forall_mem_append.1 htime).2 moment List.mem_cons_self
      refine ((h.live moment.now hpast).next hfirst hsecond ?_).mono hmoment
      exact fun hopens => h.rows ⟨moment, List.mem_cons_self, hopens⟩
  | false =>
    have hfilter : (before ++ [moment]).filter kept = before.filter kept := by
      rw [List.filter_append, List.filter_cons_of_neg (by rw [hkept]; exact Bool.false_ne_true),
        List.filter_nil, List.append_nil]
    obtain ⟨name, hname, hne⟩ := hcalls.others moment
      (by rw [hsplit]; exact List.mem_append_right _ List.mem_cons_self) hkept
    have hrow := row?_next_of_name_ne hfirst hname hne
    constructor
    · rintro ⟨next, hmem, hopens⟩
      rw [hfilter, after_concat, Agree, hrow]
      exact h.rows ⟨next, List.mem_cons_of_mem _ hmem, hopens⟩
    · intro time htime
      rw [hfilter, after_concat, AgreeFrom, hrow]
      exact h.live time (List.forall_mem_append.1 htime).1

/-- Two runs are aligned after any of the calls. -/
theorem Unaffected.aligned (hcalls : Unaffected kind token kept calls)
    (hchronological : Chronological calls) (hsplit : calls = before ++ later) :
    Aligned kind token kept before later := by
  have hrun (start more : List Moment) (hstart : Aligned kind token kept start (more ++ later))
      (hsplit : calls = start ++ (more ++ later)) :
      Aligned kind token kept (start ++ more) later := by
    induction more generalizing start with
    | nil => rwa [List.append_nil]
    | cons moment more ih =>
      have hnext := hstart.next hchronological hcalls hsplit
      rw [List.append_cons]
      exact ih (start ++ [moment]) hnext (by rw [hsplit, List.append_assoc]; rfl)
  exact hrun [] before ⟨fun _ => rfl, fun _ _ _ _ => rfl⟩ hsplit

/-- Calls for a name give the same with and without calls for others, but for the ids of sessions,
where the batches in between treat the dead session of the name alike. -/
theorem outcome_filter (hcalls : Unaffected kind token kept calls)
    (hchronological : Chronological calls) (hsplit : calls = before ++ moment :: later)
    (hname : moment.call.name? = some (kind, token)) :
    (({} : Table).after before).outcome moment =
      (({} : Table).after (before.filter kept)).outcome moment := by
  have haligned := hcalls.aligned hchronological hsplit
  refine outcome_eq (distinct_after _) (distinct_after _) hname (haligned.live moment.now ?_) ?_
  · rw [Chronological, hsplit, List.pairwise_append] at hchronological
    exact fun earlier hearlier => hchronological.2.2 earlier hearlier moment List.mem_cons_self
  · exact fun hopens => haligned.rows ⟨moment, List.mem_cons_self, hopens⟩

end Gatehouse.Session
