import Gatehouse.Proofs.SessionCalls
import Gatehouse.Proofs.Sweepers
import Gatehouse.Proofs.World
import Mathlib.Data.List.Perm.Subperm

/-!
# What one sweep deletes

A sweep of a kind among others who store and revoke sessions while time passes, but do not delete.
A session that may be deleted stays so until it is deleted, so at every batch there are at least as
many of them as are still to be deleted. Main statement: the sweep is exact (`sweep_exact`). It
finds what there is, deletes in batches that are full but for the last, at least as much as it found and
no more than the batches hold, and only what may be deleted; and where nothing more dies meanwhile,
it deletes just the sessions that it counted.
-/

namespace Gatehouse

/-- The sessions of a kind that may be deleted in a world. -/
def World.victims (kind : PrincipalKind) (world : World) : List Session.Row :=
  world.sessions.rows.filter (fun row => row.isVictim kind world.clock.now)

/-- The sessions that may be deleted are as many as are counted. -/
theorem World.length_victims (kind : PrincipalKind) (world : World) :
    (world.victims kind).length = world.sessions.countSweepable world.clock.now kind :=
  List.countP_eq_length_filter.symm

/-- A session that may be deleted is one of the rows. -/
theorem World.mem_victims {kind : PrincipalKind} {world : World} {row : Session.Row} :
    row ∈ world.victims kind ↔
      row ∈ world.sessions.rows ∧ row.isVictim kind world.clock.now = true :=
  List.mem_filter

namespace Sweep

/-! ## What others do -/

/-- What happens to the sessions between two calls of a sweep. -/
inductive Happening where
  /-- Somebody makes a call to the sessions, but does not delete any. -/
  | ask (call : Session.Call) (hkeeps : ∀ kind size, call ≠ .deleteSweepable kind size)
  /-- Time passes. -/
  | wait (duration : Duration)
  /-- The rows come to stand in another order. -/
  | shuffle (order : List Session.Row → List Session.Row)
    (perm : ∀ rows, (order rows).Perm rows)

/-- The world after something has happened. -/
def Happening.on (happening : Happening) (world : World) : World :=
  match happening with
  | .ask call _ =>
    { world with sessions := (world.sessions.answer world.clock.now call).2 }
  | .wait duration => { world with clock := world.clock.advance duration }
  | .shuffle order _ => { world with sessions.rows := order world.sessions.rows }

/-- Nothing is deleted from one world to the next, and what could be deleted still can. -/
structure Spared (kind : PrincipalKind) (world later : World) : Prop where
  /-- The calendar does not go back. -/
  now_le : world.clock.now.nanos ≤ later.clock.now.nanos
  /-- Rows stay distinct. -/
  distinct : later.sessions.Distinct
  /-- No session is lost. -/
  lost : world.sessions.lost later.sessions = []
  /-- What could be deleted still can. -/
  victims : ∀ row ∈ world.victims kind, row ∈ later.victims kind

variable {kind : PrincipalKind} {world later : World}

/-- Where only time passes nothing is deleted. -/
theorem spared_of_sessions_eq (hdistinct : world.sessions.Distinct)
    (hsessions : later.sessions = world.sessions)
    (hnow : world.clock.now.nanos ≤ later.clock.now.nanos) : Spared kind world later := by
  refine ⟨hnow, hsessions ▸ hdistinct, ?_, ?_⟩
  · rw [hsessions, Session.Table.lost_self]
  · intro row hrow
    obtain ⟨hmem, hvictim⟩ := World.mem_victims.1 hrow
    exact World.mem_victims.2 ⟨hsessions ▸ hmem, Session.Row.isVictim_of_le hnow hvictim⟩

/-- A call that does not delete leaves every name, and every row that is not live. -/
theorem spared_call (hdistinct : world.sessions.Distinct) {call : Session.Call}
    (hkeeps : ∀ kind size, call ≠ .deleteSweepable kind size) :
    Spared kind world (Happening.on (.ask call hkeeps) world) := by
  let moment : Session.Moment := { now := world.clock.now, call }
  have hrow (row : Session.Row) (hmem : row ∈ world.sessions.rows) :
      row.Becomes moment ((world.sessions.next moment).row? row.kind row.token) :=
    Session.Table.becomes_next hdistinct ((Session.Table.row?_eq_some_iff hdistinct).2
      ⟨hmem, Session.Row.isNamed_iff.2 ⟨rfl, rfl⟩⟩) moment
  have hafter : (world.sessions.next moment).Distinct := hdistinct.next moment
  refine ⟨Int.le_refl _, hafter, Session.Table.lost_eq_nil ?_, ?_⟩
  · intro row hmem
    have hbecomes := hrow row hmem
    cases hleft : (world.sessions.next moment).row? row.kind row.token with
    | some left =>
      exact ⟨left, ((Session.Table.row?_eq_some_iff hafter).1 hleft).1,
        Session.Table.named_of_row? hleft⟩
    | none =>
      rw [hleft] at hbecomes
      cases hbecomes with
      | deleted size hcall => exact absurd hcall (hkeeps row.kind size)
  · intro row hvictim
    obtain ⟨hmem, hvictim⟩ := World.mem_victims.1 hvictim
    have hdead : row.isLiveAt moment.now = false := (Session.Row.isVictim_iff.1 hvictim).2
    have hbecomes := hrow row hmem
    -- only a live row is revoked
    have hleft : (world.sessions.next moment).row? row.kind row.token = some row := by
      generalize (world.sessions.next moment).row? row.kind row.token = left at hbecomes ⊢
      cases hbecomes with
      | stays => rfl
      | revoked _ hlive =>
        rw [hdead] at hlive
        cases hlive
      | deleted size hcall => exact absurd hcall (hkeeps row.kind size)
    exact World.mem_victims.2 ⟨((Session.Table.row?_eq_some_iff hafter).1 hleft).1, hvictim⟩

/-- Whatever happens between two calls, nothing is deleted. -/
theorem spared_happening (hdistinct : world.sessions.Distinct) (happening : Happening) :
    Spared kind world (happening.on world) := by
  cases happening with
  | ask call hkeeps => exact spared_call hdistinct hkeeps
  | wait duration =>
    exact spared_of_sessions_eq hdistinct rfl (world.clock.now_le_advance duration)
  | shuffle order perm =>
    refine ⟨Int.le_refl _, hdistinct.of_perm (perm _), Session.Table.lost_of_perm (perm _), ?_⟩
    intro row hrow
    obtain ⟨hmem, hvictim⟩ := World.mem_victims.1 hrow
    exact World.mem_victims.2 ⟨(perm _).mem_iff.2 hmem, hvictim⟩

/-! ## Watching a sweep -/

/-- A session that is gone. -/
structure Removal where
  /-- When it went. -/
  time : Timestamp
  /-- Its row. -/
  row : Session.Row

/-- The sessions that are lost in the course of worlds, of which the last comes first. -/
def removals : List World → List Removal
  | later :: world :: earlier =>
    removals (world :: earlier) ++
      (world.sessions.lost later.sessions).map (fun row => ⟨world.clock.now, row⟩)
  | _ => []

/-- In the course of worlds, of which the last comes first, no further session of a kind comes to be
one that may be deleted. -/
def NothingDies (kind : PrincipalKind) : List World → Prop
  | later :: world :: earlier =>
    (∀ row ∈ later.victims kind, row ∈ world.victims kind) ∧ NothingDies kind (world :: earlier)
  | _ => True

instance NothingDies.decide (kind : PrincipalKind) :
    (course : List World) → Decidable (NothingDies kind course)
  | later :: world :: earlier =>
    have := NothingDies.decide kind (world :: earlier)
    inferInstanceAs (Decidable
      ((∀ row ∈ later.victims kind, row ∈ world.victims kind) ∧
        NothingDies kind (world :: earlier)))
  | [_] => isTrue trivial
  | [] => isTrue trivial

/-- A sweep that is watched: the world in which it is, the worlds before, and what is to happen
after each of its next calls. -/
structure Watch where
  /-- The world. -/
  world : World
  /-- The worlds before, of which the last comes first. -/
  past : List World := []
  /-- What happens after each of the next calls. -/
  ahead : List (List Happening) := []

namespace Watch

/-- All worlds so far, of which the last comes first. -/
def course (watch : Watch) : List World := watch.world :: watch.past

/-- The world becomes another. -/
def turn (watch : Watch) (world : World) : Watch := { watch with world, past := watch.course }

/-- What is next to happen between two calls happens. -/
def proceed (watch : Watch) : Watch :=
  match watch.ahead with
  | [] => watch
  | happenings :: ahead =>
    happenings.foldl (fun watch happening => watch.turn (happening.on watch.world))
      { watch with ahead }

/-- What is lost when the world becomes another is gone from then on. -/
theorem removals_turn (watch : Watch) (later : World) :
    removals (watch.turn later).course = removals watch.course ++
      (watch.world.sessions.lost later.sessions).map (fun row => ⟨watch.world.clock.now, row⟩) :=
  rfl

/-- Answers a call as the world does, and lets happen what is to happen after it. -/
def handler (around : Surroundings) : Handler requests Watch := fun call watch =>
  let (reply, world) := World.handler around call watch.world
  (reply, (watch.turn world).proceed)

end Watch

/-- What holds of a sweep of a kind after it counted and then deleted some sessions, while at least
so many that may be deleted are left. -/
structure Tracks (kind : PrincipalKind) (counted : List Session.Row) (deleted least : Nat)
    (watch : Watch) : Prop where
  /-- The rows are distinct. -/
  distinct : watch.world.sessions.Distinct
  /-- What was counted may still be deleted, where it is still there. -/
  dead : ∀ row ∈ counted, row.isVictim kind watch.world.clock.now = true
  /-- At least so many that may be deleted are left. -/
  left : least ≤ (watch.world.victims kind).length
  /-- Only as many sessions are gone as were deleted. -/
  length : (removals watch.course).length = deleted
  /-- Sessions are gone only that could be deleted then. -/
  victims : ∀ removal ∈ removals watch.course, removal.row.isVictim kind removal.time = true
  /-- Where nothing else dies, what is gone and what may be deleted is what was counted. -/
  conserved : NothingDies kind watch.course →
    ((removals watch.course).map Removal.row ++ watch.world.victims kind).Perm counted

namespace Tracks

variable {counted : List Session.Row} {deleted least : Nat} {watch : Watch}

/-- At first nothing is gone, and what may be deleted is counted. -/
theorem start (h : world.sessions.Distinct) (ahead : List (List Happening)) :
    Tracks kind (world.victims kind) 0 (world.victims kind).length { world, ahead } where
  distinct := h
  dead row hrow := (World.mem_victims.1 hrow).2
  left := Nat.le_refl _
  length := rfl
  victims := by rintro _ ⟨⟩
  conserved _ := .refl _

/-- Where nothing is deleted a sweep stays as it is. -/
theorem spared (h : Tracks kind counted deleted least watch)
    (hspared : Spared kind watch.world later) :
    Tracks kind counted deleted least (watch.turn later) := by
  have hremovals : removals (watch.turn later).course = removals watch.course := by
    rw [watch.removals_turn, hspared.lost, List.map_nil, List.append_nil]
  have hnodup (world : World) (h : world.sessions.Distinct) : (world.victims kind).Nodup :=
    h.nodup.filter _
  refine ⟨hspared.distinct, ?_, ?_, ?_, ?_, ?_⟩
  · exact fun row hrow => Session.Row.isVictim_of_le hspared.now_le (h.dead row hrow)
  · have hsubset : watch.world.victims kind ⊆ later.victims kind := hspared.victims
    have hmore := (List.subperm_of_subset (hnodup _ h.distinct) hsubset).length_le
    exact Nat.le_trans h.left hmore
  · rw [hremovals, h.length]
  · rw [hremovals]
    exact h.victims
  · rintro ⟨hlater, hnothing⟩
    -- nothing more and nothing less may be deleted than before
    have hsame : (later.victims kind).Perm (watch.world.victims kind) :=
      (List.perm_ext_iff_of_nodup (hnodup _ hspared.distinct) (hnodup _ h.distinct)).2
        fun row => ⟨hlater row, hspared.victims row⟩
    rw [hremovals]
    exact (hsame.append_left _).trans (h.conserved hnothing)

/-- Whatever happens leaves a sweep as it is. -/
theorem happenings (h : Tracks kind counted deleted least watch) (happenings : List Happening) :
    Tracks kind counted deleted least (happenings.foldl
      (fun watch happening => watch.turn (happening.on watch.world)) watch) := by
  induction happenings generalizing watch with
  | nil => exact h
  | cons happening happenings ih =>
    exact ih (h.spared (spared_happening h.distinct happening))

/-- What happens between two calls leaves a sweep as it is. -/
theorem proceed (h : Tracks kind counted deleted least watch) :
    Tracks kind counted deleted least watch.proceed := by
  obtain ⟨world, past, ahead⟩ := watch
  cases ahead with
  | nil => exact h
  | cons first ahead =>
    have hrest : Tracks kind counted deleted least ⟨world, past, ahead⟩ :=
      ⟨h.distinct, h.dead, h.left, h.length, h.victims, h.conserved⟩
    exact hrest.happenings first

/-- What a batch takes and what it leaves is what could be deleted. -/
theorem lost_append_victims (hdistinct : world.sessions.Distinct) (size : UInt32) :
    let batch := world.sessions.deleteSweepable world.clock.now kind size
    (world.sessions.lost batch.2 ++ World.victims kind { world with sessions := batch.2 }).Perm
      (world.victims kind) := by
  intro batch
  have hvictims : ∀ row ∈ world.sessions.lost batch.2, row.isVictim kind world.clock.now = true :=
    (Session.Table.lost_deleteSweepable hdistinct size).2
  have hrows : (world.sessions.lost batch.2 ++ batch.2.rows).Perm world.sessions.rows :=
    Session.Table.lost_deleteSweepable_perm hdistinct size
  have hperm := hrows.filter (fun row => row.isVictim kind world.clock.now)
  rw [List.filter_append, List.filter_eq_self.2 hvictims] at hperm
  exact hperm

/-- A batch takes as many sessions as it can, all of which may be deleted. -/
theorem batch (h : Tracks kind counted deleted least watch) (size : UInt32) :
    let batch := watch.world.sessions.deleteSweepable watch.world.clock.now kind size
    batch.1 = min size.toNat (watch.world.victims kind).length ∧
      Tracks kind counted (deleted + batch.1) (least - batch.1)
        (watch.turn { watch.world with sessions := batch.2 }) := by
  intro batch
  obtain ⟨hlength, hvictims⟩ : (watch.world.sessions.lost batch.2).length = batch.1 ∧
      ∀ row ∈ watch.world.sessions.lost batch.2,
        row.isVictim kind watch.world.clock.now = true :=
    Session.Table.lost_deleteSweepable h.distinct size
  have hperm : (watch.world.sessions.lost batch.2 ++
      World.victims kind { watch.world with sessions := batch.2 }).Perm
        (watch.world.victims kind) := lost_append_victims h.distinct size
  have hleft := hperm.length_eq
  rw [List.length_append, hlength] at hleft
  constructor
  · rw [World.length_victims]
    exact Session.Table.deleteFirst_count _ _ _
  refine ⟨h.distinct.deleteSweepable size, h.dead, ?_, ?_, ?_, ?_⟩
  · have hbefore := h.left
    show least - batch.1 ≤ (World.victims kind { watch.world with sessions := batch.2 }).length
    omega
  · rw [watch.removals_turn, List.length_append, List.length_map, h.length, hlength]
  · rw [watch.removals_turn, List.forall_mem_append]
    refine ⟨h.victims, ?_⟩
    intro removal hremoval
    obtain ⟨row, hrow, rfl⟩ := List.mem_map.1 hremoval
    exact hvictims row hrow
  · rintro ⟨-, hnothing⟩
    have hmap : ((watch.world.sessions.lost batch.2).map
        (fun row => (⟨watch.world.clock.now, row⟩ : Removal))).map Removal.row =
          watch.world.sessions.lost batch.2 := by
      rw [List.map_map]
      exact List.map_id _
    rw [watch.removals_turn, List.map_append, hmap, List.append_assoc]
    exact (hperm.append_left _).trans (h.conserved hnothing)

end Tracks

/-! ## The batches -/

/-- The number of batches of a size that hold so many. -/
def batchesFor (size count : Nat) : Nat := (count + size - 1) / size

/-- What fits into one batch takes one. -/
theorem batchesFor_of_le {size count : Nat} (hpos : 0 < count) (hle : count ≤ size) :
    batchesFor size count = 1 := by
  rw [batchesFor, Nat.div_eq_of_lt_le]
  · omega
  · omega

/-- What does not fit into one batch takes one more than the rest. -/
theorem batchesFor_of_lt {size count : Nat} (hsize : 0 < size) (hlt : size < count) :
    batchesFor size count = batchesFor size (count - size) + 1 := by
  rw [batchesFor, batchesFor, ← Nat.add_div_right _ hsize]
  congr 1
  omega

/-- From one report to another batches have deleted what remained to be deleted: as many batches as
hold it, and no more than they hold. -/
structure Deletes (size remaining : Nat) (report result : KindReport) : Prop where
  /-- The kind is the same. -/
  kind_eq : result.kind = report.kind
  /-- What was found is the same. -/
  found_eq : result.found = report.found
  /-- There is no further failure. -/
  failure_eq : result.failure = report.failure
  /-- There are as many further batches as hold what remained. -/
  batches_eq : result.batches = report.batches + batchesFor size remaining
  /-- At least what remained is deleted. -/
  le_deleted : report.deleted + remaining ≤ result.deleted
  /-- No more is deleted than the batches hold. -/
  deleted_le : result.deleted ≤ report.deleted + batchesFor size remaining * size

/-- The last batch takes all that remains, and may take more. -/
theorem Deletes.last {size remaining count : Nat} (report : KindReport) (hpos : 0 < remaining)
    (hleast : remaining ≤ count) (hmost : count ≤ size) :
    Deletes size remaining report
      { report with deleted := report.deleted + count, batches := report.batches + 1 } where
  kind_eq := rfl
  found_eq := rfl
  failure_eq := rfl
  batches_eq := by rw [batchesFor_of_le hpos (Nat.le_trans hleast hmost)]
  le_deleted := Nat.add_le_add_left hleast _
  deleted_le := by
    rw [batchesFor_of_le hpos (Nat.le_trans hleast hmost), Nat.one_mul]
    exact Nat.add_le_add_left hmost _

/-- Any other batch is full, and further batches delete the rest. -/
theorem Deletes.full {size remaining : Nat} {report result : KindReport} (hsize : 0 < size)
    (hlt : size < remaining)
    (h : Deletes size (remaining - size)
      { report with deleted := report.deleted + size, batches := report.batches + 1 } result) :
    Deletes size remaining report result := by
  have hmore := batchesFor_of_lt hsize hlt
  obtain ⟨hkind, hfound, hfailure, hbatches, hle, hge⟩ := h
  dsimp only at hbatches hle hge
  refine ⟨hkind, hfound, hfailure, ?_, ?_, ?_⟩
  · omega
  · omega
  · rw [hmore, Nat.succ_mul]
    omega

variable {settings : SweepSettings} {counted : List Session.Row}

/-- A batch that runs takes no more sessions than it may, and no fewer than remain if it may. -/
theorem Tracks.run_batch {deleted least : Nat} {watch : Watch}
    (h : Tracks kind counted deleted least watch) (around : Surroundings) (size : UInt32) :
    ∃ (count : Nat) (later : Watch),
      (Request.session (.deleteSweepable kind size)).run (Watch.handler around) watch =
          (some (.ok count), later) ∧
        count ≤ size.toNat ∧ min size.toNat least ≤ count ∧
        Tracks kind counted (deleted + count) (least - count) later := by
  obtain ⟨hcount, htracks⟩ := h.batch size
  have hleft := h.left
  refine ⟨(watch.world.sessions.deleteSweepable watch.world.clock.now kind size).1, _, rfl, ?_, ?_,
    htracks.proceed⟩
  · omega
  · omega

/-- Counting gives what may be deleted, and leaves a sweep as it is. -/
theorem Tracks.run_count {deleted least : Nat} {watch : Watch}
    (h : Tracks kind counted deleted least watch) (around : Surroundings) :
    ∃ later, (Request.session (.countSweepable kind)).run (Watch.handler around) watch =
        (some (.ok (watch.world.sessions.countSweepable watch.world.clock.now kind)), later) ∧
      Tracks kind counted deleted least later :=
  ⟨_, rfl, (h.spared (spared_of_sessions_eq h.distinct rfl (Int.le_refl _))).proceed⟩

/-- A pause, where there is one, leaves a sweep as it is. -/
theorem Tracks.run_pause {α : Type} {deleted least : Nat} {watch : Watch}
    (h : Tracks kind counted deleted least watch) (around : Surroundings) (duration : Duration)
    (next : Request α) :
    ∃ later,
      (if (!duration.isZero) = true then
          (Request.outside (.pause duration) : Request Unit) >>= fun _ => next
        else next).run (Watch.handler around) watch = next.run (Watch.handler around) later ∧
      Tracks kind counted deleted least later := by
  split
  · have hspared : Spared kind watch.world
        { watch.world with clock := watch.world.clock.advance (World.pauseTaken duration) } :=
      spared_of_sessions_eq h.distinct rfl (watch.world.clock.now_le_advance _)
    exact ⟨_, rfl, (h.spared hspared).proceed⟩
  · exact ⟨watch, rfl, h⟩

/-- As long as there are as many sessions as remain to be deleted, the batches delete them. -/
theorem run_deleteBatches (around : Surroundings) (hsize : 0 < settings.batchSize.toNat)
    {limit remaining : Nat} (hpos : 0 < remaining) (hlimit : remaining ≤ limit)
    {report : KindReport} {watch : Watch}
    (h : Tracks kind counted report.deleted remaining watch) :
    ∃ result later,
      (deleteBatches settings kind limit remaining report).run (Watch.handler around) watch =
          (some result, later) ∧
        Deletes settings.batchSize.toNat remaining report result ∧
        Tracks kind counted result.deleted 0 later := by
  -- over the number of batches that may still be deleted
  induction limit generalizing remaining report watch with
  | zero => omega
  | succ limit ih =>
    obtain ⟨count, after, hcall, hmost, hleast, htracks⟩ := h.run_batch around settings.batchSize
    rw [deleteBatches, Program.run_bind', hcall]
    dsimp only
    rw [if_neg (by omega : ¬ count = 0)]
    by_cases hlast : remaining ≤ settings.batchSize.toNat
    · have hnone : remaining - count = 0 := by omega
      rw [hnone] at htracks
      rw [if_pos hnone]
      exact ⟨_, _, rfl, .last report hpos (by omega) hmost, htracks⟩
    · obtain rfl : count = settings.batchSize.toNat := by omega
      rw [if_neg (by omega : ¬ remaining - settings.batchSize.toNat = 0)]
      let next : KindReport := { report with
        deleted := report.deleted + settings.batchSize.toNat, batches := report.batches + 1 }
      have hnext : Tracks kind counted next.deleted (remaining - settings.batchSize.toNat) after :=
        htracks
      obtain ⟨resumed, hpause, hresumed⟩ := hnext.run_pause around settings.pause
        (deleteBatches settings kind limit (remaining - settings.batchSize.toNat) next)
      obtain ⟨result, later, hrun, hdeletes, hlater⟩ := ih (by omega) (by omega) hresumed
      exact ⟨result, later, hpause.trans hrun, hdeletes.full hsize (Nat.lt_of_not_le hlast), hlater⟩

/-- Where nothing else dies and no fewer sessions are deleted than were counted, just these are gone.
-/
theorem Tracks.exact {deleted least : Nat} {watch : Watch}
    (h : Tracks kind counted deleted least watch) (hle : counted.length ≤ deleted)
    (hnothing : NothingDies kind watch.course) :
    deleted = counted.length ∧ ((removals watch.course).map Removal.row).Perm counted ∧
      ∀ row ∈ counted, row ∉ watch.world.sessions.rows := by
  have hperm := h.conserved hnothing
  have hlength := hperm.length_eq
  rw [List.length_append, List.length_map, h.length] at hlength
  have hnone : watch.world.victims kind = [] := List.length_eq_zero_iff.1 (by omega)
  rw [hnone, List.append_nil] at hperm
  refine ⟨by omega, hperm, fun row hrow hmem => ?_⟩
  have hvictim := World.mem_victims.2 ⟨hmem, h.dead row hrow⟩
  rw [hnone] at hvictim
  cases hvictim

/-- A sweep of a kind, between whose calls others may do anything but delete, finds the sessions that
may be deleted when it counts, does not fail, and deletes in as many batches as hold them, at least
as many sessions as it found and no more than the batches hold. Only these go, each when it may be
deleted. If no further session comes to be one that may be deleted, it is just the counted ones that
are gone. -/
theorem sweep_exact (around : Surroundings) (settings : SweepSettings) (kind : PrincipalKind)
    (world : World) (ahead : List (List Happening)) (hdistinct : world.sessions.Distinct)
    (hsize : 0 < settings.batchSize.toNat) :
    ∃ report watch,
      (sweepKind settings kind).run (Watch.handler around) { world, ahead } = (some report, watch) ∧
        report.kind = kind ∧ report.failure = none ∧
        report.found = world.sessions.countSweepable world.clock.now kind ∧
        report.batches = batchesFor settings.batchSize.toNat report.found ∧
        report.found ≤ report.deleted ∧
        report.deleted ≤ report.batches * settings.batchSize.toNat ∧
        (removals watch.course).length = report.deleted ∧
        (∀ removal ∈ removals watch.course, removal.row.isVictim kind removal.time = true) ∧
        (NothingDies kind watch.course →
          report.deleted = report.found ∧
            ((removals watch.course).map Removal.row).Perm (world.victims kind) ∧
            ∀ row ∈ world.victims kind, row ∉ watch.world.sessions.rows) := by
  obtain ⟨watch, hcount, htracks⟩ := (Tracks.start hdistinct ahead).run_count around
  rw [sweepKind, Program.run_bind', hcount]
  dsimp only
  generalize hfound : world.sessions.countSweepable world.clock.now kind = found
  have hlength : (world.victims kind).length = found := (world.length_victims kind).trans hfound
  by_cases hnone : found = 0
  -- nothing was counted, and nothing is deleted
  · rw [if_pos hnone]
    subst hnone
    refine ⟨_, watch, rfl, rfl, rfl, rfl, ?_, Nat.le_refl _, Nat.zero_le _, htracks.length,
      htracks.victims, ?_⟩
    · show 0 = (0 + settings.batchSize.toNat - 1) / settings.batchSize.toNat
      rw [Nat.div_eq_of_lt (by omega)]
    · intro hnothing
      obtain ⟨-, hperm, hgone⟩ := htracks.exact (by omega) hnothing
      exact ⟨rfl, hperm, hgone⟩
  · rw [if_neg hnone]
    rw [hlength] at htracks
    have hstart : Tracks kind (world.victims kind) ({ kind, found } : KindReport).deleted found
        watch := htracks
    obtain ⟨report, later, hrun, hdeletes, hlater⟩ :=
      run_deleteBatches around hsize (Nat.pos_of_ne_zero hnone) (Nat.le_refl found) hstart
    obtain ⟨hkind, hfoundEq, hfailure, hbatches, hle, hge⟩ := hdeletes
    simp only [Nat.zero_add] at hfoundEq hbatches hle hge
    refine ⟨report, later, hrun, hkind, hfailure, hfoundEq, ?_, ?_, ?_, hlater.length,
      hlater.victims, ?_⟩
    · rw [hbatches, hfoundEq]
    · rw [hfoundEq]
      exact hle
    · rw [hbatches]
      exact hge
    · intro hnothing
      obtain ⟨hdeleted, hperm, hgone⟩ :=
        hlater.exact (Nat.le_trans (Nat.le_of_eq hlength) hle) hnothing
      exact ⟨hdeleted.trans (hlength.trans hfoundEq.symm), hperm, hgone⟩

/-- A world with three sessions that have expired and one that is live. -/
def plainWorld : World :=
  let row (id : Session.SessionId) (token : String) (expiry : Int) : Session.Row :=
    ⟨id, 1, .staff, token, none, none, ⟨0⟩, ⟨expiry⟩, none⟩
  { clock := ⟨⟨10⟩, ⟨0⟩⟩
    sessions := ⟨[row 1 "a" 5, row 2 "b" 1000000000000, row 3 "c" 5, row 4 "d" 5], 4⟩ }

/-- Between the calls of a sweep time passes, a session is stored, and the rows come to stand the
other way round. -/
def plainAhead : List (List Happening) :=
  [[.wait (.ofSeconds 1)],
    [.ask (.create ⟨2, .staff, "e", none, none, .ofSeconds 60⟩) (by rintro _ _ ⟨⟩),
      .shuffle List.reverse List.reverse_perm]]

/-- Three expired sessions are deleted in batches of two, though meanwhile another one is stored. -/
theorem sweep_exact_amid :
    plainWorld.sessions.Distinct ∧ ∃ report watch,
      (sweepKind { batchSize := 2 } .staff).run (Watch.handler .plain)
          { world := plainWorld, ahead := plainAhead } = (some report, watch) ∧
        NothingDies .staff watch.course ∧ report.found = 3 ∧ report.batches = 2 ∧
        report.deleted = 3 ∧
        ((removals watch.course).map Removal.row).Perm (plainWorld.victims .staff) := by
  have hdistinct : plainWorld.sessions.Distinct := by
    simp [Session.Table.Distinct, plainWorld]
  have hnothing : NothingDies .staff ((sweepKind { batchSize := 2 } .staff).run
      (Watch.handler .plain) { world := plainWorld, ahead := plainAhead }).2.course := by
    decide +kernel
  obtain ⟨report, watch, hrun, -, -, hfound, hbatches, -, -, -, -, hexact⟩ :=
    sweep_exact .plain { batchSize := 2 } .staff plainWorld plainAhead hdistinct (by decide)
  rw [hrun] at hnothing
  obtain ⟨hdeleted, hperm, -⟩ := hexact hnothing
  have hthree : report.found = 3 := hfound.trans (by decide +kernel)
  rw [hthree] at hbatches hdeleted
  exact ⟨hdistinct, report, watch, hrun, hnothing, hthree, hbatches, hdeleted, hperm⟩

end Sweep

end Gatehouse
