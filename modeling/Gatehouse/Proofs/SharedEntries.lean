import Gatehouse.Proofs.Coherence
import Gatehouse.Proofs.LockHolders

/-!
# Who shares the entries

The cache of contexts and the locks of jobs keep what they hold among the same entries, and now and
then all entries past their lifetime are dropped from among them. Every principal and every job has
a key of its own, and what is done for one owner depends on the live entry of its key alone. Main
statement: nothing else is between them (`undisturbed`). Whatever is done for an owner gives what it
gives where cache and locks have entries to themselves, and what it gives without any of what is
done for the others.
-/

namespace Gatehouse.Sharing

/-- Whose an entry is. -/
inductive Owner where
  /-- A principal, whose context is cached. -/
  | principal (kind : PrincipalKind) (id : PrincipalId)
  /-- A job, which has a lock. -/
  | job (name : String)
  deriving DecidableEq

/-- The key of an owner's entry. -/
def Owner.key : Owner → String
  | principal kind id => ContextCache.keyFor kind id
  | job name => Lock.keyFor name

/-- Every owner has a key of its own. -/
theorem Owner.key_inj {owner other : Owner} : owner.key = other.key ↔ owner = other := by
  cases owner <;> cases other <;>
    simp [key, ContextCache.keyFor_inj, Lock.keyFor_inj, Lock.keyFor_ne,
      (Lock.keyFor_ne _ _ _).symm]

/-- What is done with the entries. -/
inductive Use where
  /-- The cached context of a principal is read. -/
  | lookUp (kind : PrincipalKind) (id : PrincipalId)
  /-- A context is cached under a principal. -/
  | set (kind : PrincipalKind) (id : PrincipalId) (context : Context) (ttl : Duration)
  /-- A context is cached under its own principal. -/
  | prime (ttl : Duration) (context : Context)
  /-- The cached context of a principal is dropped. -/
  | invalidate (kind : PrincipalKind) (id : PrincipalId)
  /-- The context of a principal is read, or else loaded and cached. -/
  | resolve (ttl : Duration) (kind : PrincipalKind) (id : PrincipalId)
  /-- The lock of a job is asked for. -/
  | acquire (job : String) (ttl : Duration)
  /-- The lock of a job is released. -/
  | release (job : String)
  /-- All entries past their lifetime are dropped. -/
  | purge

namespace Use

/-- What a use gives. -/
def Result : Use → Type
  | lookUp _ _ => Option Context
  | set _ _ _ _ => Except StorageError Unit
  | prime _ _ => Unit
  | invalidate _ _ => Except StorageError Unit
  | resolve _ _ _ => Except AuthError Context
  | acquire _ _ => Except StorageError (Option String)
  | release _ => Except StorageError Unit
  | purge => Except StorageError Nat

/-- What a use asks of the stores. -/
def request : (use : Use) → Request use.Result
  | lookUp kind id => ContextCache.get kind id
  | set kind id context ttl => ContextCache.set kind id context ttl
  | prime ttl context => ContextCache.prime ttl context
  | invalidate kind id => ContextCache.invalidate kind id
  | resolve ttl kind id => (ContextCache.resolve ttl kind id).request
  | acquire job ttl => Lock.acquire job ttl
  | release job => Lock.release (Lock.keyFor job)
  | purge => Request.keyValue .purge

/-- Whose entry a use works on. -/
def owner? : Use → Option Owner
  | lookUp kind id => some (.principal kind id)
  | set kind id _ _ => some (.principal kind id)
  | prime _ context => some (.principal context.kind context.principalId)
  | invalidate kind id => some (.principal kind id)
  | resolve _ kind id => some (.principal kind id)
  | acquire job _ => some (.job job)
  | release job => some (.job job)
  | purge => none

/-- Makes use of the entries in a world. A use without a result broke off. -/
def on (around : Surroundings) (use : Use) (world : World) : Option use.Result × World :=
  use.request.run (World.handler around) world

end Use

/-- What happens where entries are shared. -/
inductive Move where
  /-- Somebody makes use of the entries. -/
  | make (use : Use)
  /-- Time passes. -/
  | wait (duration : Duration)
  /-- The directory becomes another. -/
  | amend (directory : Directory.Table)

namespace Move

/-- Whose entry a move works on. -/
def owner? : Move → Option Owner
  | make use => use.owner?
  | _ => none

/-- The world after a move. -/
def on (around : Surroundings) (move : Move) (world : World) : World :=
  match move with
  | make use => (use.on around world).2
  | wait duration => { world with clock := world.clock.advance duration }
  | amend directory => { world with directory }

end Move

/-- The world after moves. -/
def after (around : Surroundings) (moves : List Move) (world : World) : World :=
  moves.foldl (fun world move => move.on around world) world

/-- A world in which the cache has its entries, and one in which the locks have theirs. -/
structure Apart where
  /-- Where the cache has its entries. -/
  cache : World
  /-- Where the locks have their entries. -/
  locks : World

namespace Apart

/-- Where an owner's entry is. -/
def of (apart : Apart) : Owner → World
  | .principal _ _ => apart.cache
  | .job _ => apart.locks

/-- Two worlds after a move: what works on an entry happens in the world where that is, and all else
happens in both. -/
def next (around : Surroundings) (apart : Apart) (move : Move) : Apart :=
  match move.owner? with
  | some (.principal _ _) => { apart with cache := move.on around apart.cache }
  | some (.job _) => { apart with locks := move.on around apart.locks }
  | none => ⟨move.on around apart.cache, move.on around apart.locks⟩

/-- Two worlds after moves. -/
def after (around : Surroundings) (moves : List Move) (apart : Apart) : Apart :=
  moves.foldl (fun apart move => apart.next around move) apart

end Apart

/-- Moves, and the same moves without some of the uses that do not work on an owner's entry. -/
inductive Without (owner : Owner) : List Move → List Move → Prop where
  /-- Without moves there are none to leave out. -/
  | nil : Without owner [] []
  /-- A move may be kept. -/
  | keep (move : Move) {moves fewer : List Move} (h : Without owner moves fewer) :
      Without owner (move :: moves) (move :: fewer)
  /-- A use that does not work on the owner's entry may be left out. -/
  | leave (use : Use) (hother : use.owner? ≠ some owner) {moves fewer : List Move}
      (h : Without owner moves fewer) : Without owner (.make use :: moves) fewer

/-! ## What a key can tell -/

/-- Two worlds are alike as far as a key can tell: they have the same clock, the same directory, and
the same live entry of the key. -/
structure Alike (key : String) (world other : World) : Prop where
  /-- The clocks are the same. -/
  clock : world.clock = other.clock
  /-- The directories are the same. -/
  directory : world.directory = other.directory
  /-- The live entries of the key are the same. -/
  live : world.keyValue.live? world.clock.instant key =
    other.keyValue.live? other.clock.instant key
  /-- No key has two entries in the first world. -/
  distinct : world.keyValue.Distinct
  /-- No key has two entries in the second world. -/
  distinct_other : other.keyValue.Distinct

/-- A call that goes to one key, or reads the directory. -/
def KeepsTo (key : String) : RequestCall → Prop
  | .store (.keyValue call) => call.key? = some key
  | .store (.directory call) => call.reads = true
  | _ => False

/-- A call that does not go to one key, and may read the directory. -/
def Passes (key : String) : RequestCall → Prop
  | .store (.keyValue call) => call.key? ≠ some key
  | .store (.directory call) => call.reads = true
  | _ => False

variable {key : String} {world other third : World}

namespace Alike

/-- A world is like itself. -/
theorem refl (h : world.keyValue.Distinct) : Alike key world world :=
  ⟨rfl, rfl, rfl, h, h⟩

/-- Worlds that are alike are so in either order. -/
theorem symm (h : Alike key world other) : Alike key other world :=
  ⟨h.clock.symm, h.directory.symm, h.live.symm, h.distinct_other, h.distinct⟩

/-- Worlds that are like the same world are alike. -/
theorem trans (h : Alike key world other) (h' : Alike key other third) : Alike key world third :=
  ⟨h.clock.trans h'.clock, h.directory.trans h'.directory, h.live.trans h'.live, h.distinct,
    h'.distinct_other⟩

/-- Time passes alike. -/
theorem wait (h : Alike key world other) (around : Surroundings) (duration : Duration) :
    Alike key (Move.on around (.wait duration) world) (Move.on around (.wait duration) other) := by
  obtain ⟨hclock, hdirectory, hlive, hdistinct, hdistinct'⟩ := h
  have hle (world : World) : world.clock.instant.nanos ≤
      (world.clock.advance duration).instant.nanos := Nat.le_add_right _ _
  refine ⟨?_, hdirectory, ?_, hdistinct, hdistinct'⟩
  · simp [Move.on, hclock]
  · simp only [Move.on, KeyValue.Table.live?_of_le (hle _)]
    rw [hlive, hclock]

/-- The directory becomes another alike. -/
theorem amend (h : Alike key world other) (around : Surroundings) (directory : Directory.Table) :
    Alike key (Move.on around (.amend directory) world)
      (Move.on around (.amend directory) other) :=
  ⟨h.clock, rfl, h.live, h.distinct, h.distinct_other⟩

end Alike

/-- A call that goes to a key is answered alike in worlds that are alike as far as the key can tell,
and leaves them alike. -/
theorem Alike.handler (h : Alike key world other) (around : Surroundings) {call : RequestCall}
    (hcall : KeepsTo key call) :
    (World.handler around call world).1 = (World.handler around call other).1 ∧
      Alike key (World.handler around call world).2 (World.handler around call other).2 := by
  obtain ⟨hclock, hdirectory, hlive, hdistinct, hdistinct'⟩ := h
  rcases call with (call | call | call) | call
  · rw [← hclock] at hlive
    have hrel := KeyValue.Table.rel_answer hcall hlive
    simp only [World.handler, World.answerStore, ← hclock]
    rcases hanswer : world.keyValue.answer world.clock.instant call with _ | ⟨value, table⟩ <;>
      rcases hanswer' : other.keyValue.answer world.clock.instant call with _ | ⟨value', table'⟩ <;>
      rw [hanswer, hanswer'] at hrel <;> cases hrel
    · exact ⟨rfl, hclock, hdirectory, by rwa [← hclock], hdistinct, hdistinct'⟩
    · rename_i hsame
      obtain ⟨rfl, hsame⟩ : value = value' ∧ _ := hsame
      exact ⟨rfl, rfl, hdirectory, hsame, hdistinct.answer hanswer, hdistinct'.answer hanswer'⟩
  · cases hcall
  · have hkept (world : World) :
        (World.handler around (.store (.directory call)) world).2.directory = world.directory :=
      World.directory_handler (by rintro _ ⟨⟩; exact hcall)
    have hreply : (World.handler around (.store (.directory call)) world).1 =
        (World.handler around (.store (.directory call)) other).1 := by
      show some (world.directory.answer call).1 = some (other.directory.answer call).1
      rw [hdirectory]
    exact ⟨hreply, hclock, (hkept world).trans (hdirectory.trans (hkept other).symm), hlive,
      hdistinct, hdistinct'⟩
  · cases hcall

/-- A call that does not go to a key leaves a world alike as far as the key can tell. -/
theorem alike_handler (hdistinct : world.keyValue.Distinct) (around : Surroundings)
    {call : RequestCall} (hcall : Passes key call) :
    Alike key world (World.handler around call world).2 := by
  rcases call with (call | call | call) | call
  · simp only [World.handler, World.answerStore]
    cases hanswer : world.keyValue.answer world.clock.instant call with
    | none => exact .refl hdistinct
    | some reply =>
      exact ⟨rfl, rfl, (hdistinct.live?_answer_of_ne hcall hanswer).symm, hdistinct,
        hdistinct.answer hanswer⟩
  · cases hcall
  · have hdirectory :
        (World.handler around (.store (.directory call)) world).2.directory = world.directory :=
      World.directory_handler (by rintro _ ⟨⟩; exact hcall)
    exact ⟨rfl, hdirectory.symm, rfl, hdistinct, hdistinct⟩
  · cases hcall

variable {α : Type} {program : Request α} {post : α → Prop}

/-- A program that keeps to a key gives the same in worlds that are alike as far as the key can
tell, and leaves them alike. -/
theorem Alike.run (h : Alike key world other) (around : Surroundings)
    (hprogram : program.Within (KeepsTo key) (Truthful world.directory) post) :
    (program.run (World.handler around) world).1 = (program.run (World.handler around) other).1 ∧
      Alike key (program.run (World.handler around) world).2
        (program.run (World.handler around) other).2 := by
  -- over the calls: each is answered alike, so the program goes on in the same way
  induction program generalizing world other with
  | done value => exact ⟨rfl, h⟩
  | ask call next ih =>
    obtain ⟨hcall, hnext⟩ := hprogram
    obtain ⟨hreply, halike⟩ := h.handler around hcall
    have hdirectory : (World.handler around call world).2.directory = world.directory :=
      World.directory_handler (by rintro _ rfl; exact hcall)
    have htruthful := World.truthful_handler around call world
    rw [Program.run, Program.run]
    generalize World.handler around call world = answered at hreply halike hdirectory htruthful ⊢
    generalize World.handler around call other = answered' at hreply halike ⊢
    rcases answered with ⟨_ | reply, world'⟩ <;> rcases answered' with ⟨_ | reply', other'⟩
    · exact ⟨rfl, halike⟩
    · cases hreply
    · cases hreply
    · cases hreply
      refine ih reply halike ?_
      rw [hdirectory]
      exact hnext reply (htruthful reply rfl)

/-- A program that passes a key leaves a world alike as far as the key can tell. -/
theorem alike_run (hdistinct : world.keyValue.Distinct) (around : Surroundings)
    (hprogram : program.Within (Passes key) (Truthful world.directory) post) :
    Alike key world (program.run (World.handler around) world).2 := by
  have hkeep (call : RequestCall) (state : World) (h : Alike key world state)
      (hcall : Passes key call) : Alike key world (World.handler around call state).2 ∧
        ∀ reply ∈ (World.handler around call state).1, Truthful world.directory call reply := by
    refine ⟨h.trans (alike_handler h.distinct_other around hcall), ?_⟩
    rw [h.directory]
    exact World.truthful_handler around call state
  exact (hprogram.run hkeep (.refl hdistinct)).1

/-! ## Uses -/

/-- A use works on the entry of its owner only. -/
theorem Use.keepsTo {use : Use} {owner : Owner} (h : use.owner? = some owner)
    (directory : Directory.Table) :
    use.request.Within (KeepsTo owner.key) (Truthful directory) (fun _ => True) := by
  cases use with
  | lookUp kind id =>
    cases h
    have hget : Program.Within (I := requests) (KeepsTo (ContextCache.keyFor kind id))
        (Truthful directory)
        (fun found => ∀ context, found = some context →
          Cached (Truthful directory) kind id context)
        (ContextCache.get kind id) := ContextCache.get_within rfl rfl
    exact hget.mono (fun _ _ => trivial)
  | set kind id context ttl =>
    cases h
    exact Program.within_call (I := requests) rfl (fun _ _ => trivial)
  | prime ttl context =>
    cases h
    exact ContextCache.prime_within rfl
  | invalidate kind id =>
    cases h
    exact Program.within_call (I := requests) rfl (fun _ _ => trivial)
  | resolve ttl kind id =>
    cases h
    -- a context that the directory gives is that of the principal it was asked for
    have hkeep (context : Context) (hloaded : Loaded (Truthful directory) kind id context) :
        KeepsTo (ContextCache.keyFor kind id) (.store (.keyValue (.set
          (ContextCache.keyFor context.kind context.principalId) context.write ttl))) := by
      obtain ⟨rfl, rfl⟩ := Context.isFor_iff.1
        (Directory.Table.isFor_of_context? (loaded_iff.1 hloaded))
      rfl
    have hresolve : Action.Within (KeepsTo (ContextCache.keyFor kind id)) (Truthful directory)
        (Resolved (Truthful directory) kind id) (ContextCache.resolve ttl kind id) :=
      ContextCache.resolve_within rfl rfl (fun _ hreads => hreads) hkeep
    exact Program.Within.mono hresolve (fun _ _ => trivial)
  | acquire job ttl =>
    cases h
    refine Program.Within.andThen (Program.within_call (I := requests) rfl
      (fun _ _ => trivial)) ?_
    rintro (error | _ | _) <;> trivial
  | release job =>
    cases h
    exact Program.within_call (I := requests) rfl (fun _ _ => trivial)
  | purge => cases h

/-- A use passes the keys of all owners but its own. -/
theorem Use.passes {use : Use} {owner : Owner} (h : use.owner? ≠ some owner)
    (directory : Directory.Table) :
    use.request.Within (Passes owner.key) (Truthful directory) (fun _ => True) := by
  cases hother : use.owner? with
  | none =>
    cases use with
    | purge => exact Program.within_call (I := requests) (by rintro ⟨⟩) (fun _ _ => trivial)
    | _ => cases hother
  | some other =>
    -- whatever goes to another key does not go to this one
    refine (use.keepsTo hother directory).allow ?_
    rintro ((call | call | call) | call) hcall
    · show call.key? ≠ some owner.key
      intro hkey
      have hsame : other.key = owner.key := Option.some.inj (hcall.symm.trans hkey)
      exact h (hother.trans (congrArg some (Owner.key_inj.1 hsame)))
    · exact hcall
    · exact hcall
    · exact hcall

/-! ## Moves -/

variable {owner : Owner} {move : Move} {moves fewer : List Move}

/-- A use that does not work on an owner's entry leaves a world alike as far as the owner can tell.
-/
theorem alike_make (hdistinct : world.keyValue.Distinct) (around : Surroundings) {use : Use}
    (h : use.owner? ≠ some owner) : Alike owner.key world (use.on around world).2 :=
  alike_run hdistinct around (use.passes h world.directory)

/-- A move keeps worlds alike as far as an owner can tell. -/
theorem Alike.on (h : Alike owner.key world other) (around : Surroundings) (move : Move) :
    Alike owner.key (move.on around world) (move.on around other) := by
  cases move with
  | make use =>
    by_cases howner : use.owner? = some owner
    · exact (h.run around (use.keepsTo howner world.directory)).2
    · exact ((alike_make h.distinct around howner).symm.trans h).trans
        (alike_make h.distinct_other around howner)
  | wait duration => exact h.wait around duration
  | amend directory => exact h.amend around directory

/-- A move that works on the entry of another owner leaves a world alike as far as an owner can
tell. -/
theorem alike_on (hdistinct : world.keyValue.Distinct) (around : Surroundings) {other : Owner}
    (hother : move.owner? = some other) (hne : other ≠ owner) :
    Alike owner.key world (move.on around world) := by
  cases move with
  | make use =>
    refine alike_make hdistinct around ?_
    intro howner
    exact hne (Option.some.inj (hother.symm.trans howner))
  | wait duration => cases hother
  | amend directory => cases hother

/-- A move keeps a world and the one with an owner's entry alike as far as the owner can tell. -/
theorem Alike.next {apart : Apart} (h : Alike owner.key world (apart.of owner))
    (around : Surroundings) (move : Move) :
    Alike owner.key (move.on around world) ((apart.next around move).of owner) := by
  rw [Apart.next]
  cases hmove : move.owner? with
  | none => cases owner <;> exact h.on around move
  | some other =>
    -- the owner's world moves along exactly if the move works on an entry in it
    cases other <;> cases owner <;> first
      | exact h.on around move
      | exact (alike_on h.distinct around hmove (by rintro ⟨⟩)).symm.trans h

/-- Moves keep a world and the one with an owner's entry alike as far as the owner can tell. -/
theorem Alike.apart {apart : Apart} (h : Alike owner.key world (apart.of owner))
    (around : Surroundings) (moves : List Move) :
    Alike owner.key (after around moves world) ((apart.after around moves).of owner) := by
  induction moves generalizing world apart with
  | nil => exact h
  | cons move moves ih => exact ih (h.next around move)

/-- Leaving out uses that do not work on an owner's entry leaves worlds alike as far as the owner
can tell. -/
theorem Alike.without (h : Alike owner.key world other) (around : Surroundings)
    (hfewer : Without owner moves fewer) :
    Alike owner.key (after around moves world) (after around fewer other) := by
  induction hfewer generalizing world other with
  | nil => exact h
  | keep move _ ih => exact ih (h.on around move)
  | leave use hother _ ih => exact ih ((alike_make h.distinct around hother).symm.trans h)

/-- Cache and locks do not disturb one another among the same entries, and no owner disturbs
another. After any moves in a world that is fresh at first, what is done for an owner gives what it
gives where cache and locks have entries to themselves, and what it gives when any of the uses
before it that do not work on the owner's entry are left out. -/
theorem undisturbed (around : Surroundings) (clock : Clock) (directory : Directory.Table)
    (moves : List Move) (use : Use) (owner : Owner) (howner : use.owner? = some owner) :
    let fresh := World.fresh clock directory
    let result := (use.on around (after around moves fresh)).1
    result = (use.on around ((Apart.after around moves ⟨fresh, fresh⟩).of owner)).1 ∧
      ∀ fewer, Without owner moves fewer → result = (use.on around (after around fewer fresh)).1 := by
  intro fresh result
  have hfresh : Alike owner.key fresh fresh := .refl .nil
  have hsame {other : World} (h : Alike owner.key (after around moves fresh) other) :
      result = (use.on around other).1 := (h.run around (use.keepsTo howner _)).1
  constructor
  · have hstart : Alike owner.key fresh (Apart.of ⟨fresh, fresh⟩ owner) := by
      cases owner <;> exact hfresh
    exact hsame (hstart.apart around moves)
  · intro fewer hfewer
    exact hsame (hfresh.without around hfewer)

/-- A lock whose job is called like the key of a cached context is held while the context is cached
and dropped, entries past their lifetime are dropped, and another lock is released. -/
theorem undisturbed_namesake :
    let job := "auth_ctx:staff:1"
    let use : Use := .acquire job (.ofSeconds 60)
    let moves : List Move :=
      [.make use, .make (.set .staff 1 ⟨1, .staff, "root", none, .empty⟩ (.ofSeconds 30)),
        .wait (.ofSeconds 45), .make .purge, .make (.invalidate .staff 1), .make (.release "other")]
    let fresh := World.fresh ⟨⟨0⟩, ⟨0⟩⟩ {}
    use.owner? = some (.job job) ∧
      (use.on .plain (after .plain moves fresh)).1 = some (.ok none) ∧
      (use.on .plain ((Apart.after .plain moves ⟨fresh, fresh⟩).of (.job job))).1 =
        some (.ok none) := by
  intro job use moves fresh
  obtain ⟨hapart, hfewer⟩ := undisturbed .plain ⟨⟨0⟩, ⟨0⟩⟩ {} moves use (.job job) rfl
  have hwithout : Without (.job job) moves [.make use, .wait (.ofSeconds 45)] :=
    .keep _ (.leave _ (by rintro ⟨⟩) (.keep _ (.leave _ (by rintro ⟨⟩)
      (.leave _ (by rintro ⟨⟩) (.leave _ (by decide) .nil)))))
  have hheld : (use.on .plain (after .plain [.make use, .wait (.ofSeconds 45)] fresh)).1 =
      some (.ok none) := by
    have hlive : ((after .plain [.make (.acquire "auth_ctx:staff:1" (.ofSeconds 60)),
        .wait (.ofSeconds 45)] (World.fresh ⟨⟨0⟩, ⟨0⟩⟩ {})).keyValue.get ⟨45000000000⟩
          (Lock.keyFor "auth_ctx:staff:1")).isSome = true := by
      decide +kernel
    exact congrArg Prod.fst ((Lock.run_acquire .plain _ job _).trans (if_pos hlive))
  have hresult := (hfewer _ hwithout).trans hheld
  exact ⟨rfl, hresult, hapart.symm.trans hresult⟩

end Gatehouse.Sharing
