import Gatehouse.Command.Invocation
import Gatehouse.Proofs.Numerals
import Gatehouse.Proofs.UsableTokens

/-!
# What options are set to

Whatever the arguments and the environment are, every value of an option was read from some text as
the option's kind says, so a number lies in the range of its kind (`spells_readAll`). Main
statements: which settings a sweep can be ordered with, and with which serving starts
(`sweepsWith_iff`, `servesWith_iff`).
-/

namespace Gatehouse.Command

/-- An option may have a value: if it takes one, the value was read from some text. -/
def Switch.Admits (switch : Switch) (value : Value) : Prop :=
  ∀ kind, switch.effect = .value kind → ∃ text, kind.read text = .ok value

namespace Progress

/-- All values are of options that may have them, and so is the option that was taken up last. -/
structure Spelled (switches : List Switch) (progress : Progress) : Prop where
  /-- Every value is one that an option of its name may have. -/
  found : ∀ found ∈ progress.found, ∃ switch ∈ switches,
    switch.name = found.name ∧ switch.Admits found.value
  /-- The option that was taken up last is one of the options. -/
  pending : ∀ taken, progress.pending = some taken → taken.1 ∈ switches

/-- What reading gives, if it does not fail, is spelled. -/
def Spells (switches : List Switch) (outcome : Except Fault Progress) : Prop :=
  ∀ progress, outcome = .ok progress → progress.Spelled switches

variable {switches : List Switch} {progress : Progress} {switch : Switch}

/-- At first nothing is set. -/
theorem spelled_empty (switches : List Switch) : Spelled switches {} :=
  ⟨fun _ hmem => absurd hmem List.not_mem_nil, nofun⟩

/-- What is spelled stays so. -/
theorem Spelled.spells (h : progress.Spelled switches) : Spells switches (.ok progress) := by
  rintro _ ⟨⟩
  exact h

/-- A failure gives nothing. -/
theorem spells_error (fault : Fault) : Spells switches (.error fault) := nofun

/-- What is read in two steps is spelled if both steps keep it so. -/
theorem Spells.bind {first : Except Fault Progress} {next : Progress → Except Fault Progress}
    (h : Spells switches first)
    (hnext : ∀ progress, progress.Spelled switches → Spells switches (next progress)) :
    Spells switches (first >>= next) := by
  cases first with
  | error fault => exact spells_error fault
  | ok progress => exact hnext progress (h progress rfl)

/-- Setting a value that an option may have. -/
theorem Spelled.put (h : progress.Spelled switches) (hmem : switch ∈ switches) (source : Source)
    {value : Value} (hvalue : switch.Admits value) :
    (progress.put switch source value).Spelled switches := by
  refine ⟨fun found hfound => ?_, h.pending⟩
  rcases List.mem_append.1 hfound with hbefore | hnew
  · exact h.found found hbefore
  · rw [List.mem_singleton.1 hnew]
    exact ⟨switch, hmem, rfl, hvalue⟩

/-- A value is set as it is read from its text. -/
theorem Spelled.read (h : progress.Spelled switches) (hmem : switch ∈ switches) (source : Source)
    (text : String) : Spells switches (progress.read switch source text) := by
  rw [Progress.read]
  split
  · rename_i kind heffect
    rcases hread : kind.read text with (_ | detail) | value
    · exact spells_error _
    · exact spells_error _
    · refine (h.put hmem source fun other hother => ?_).spells
      rw [heffect, Effect.value.injEq] at hother
      exact ⟨text, hother ▸ hread⟩
  · rename_i hnone
    exact (h.put hmem source fun kind heffect => absurd heffect (hnone kind)).spells

/-- An option that was given is taken in. -/
theorem Spelled.give (h : progress.Spelled switches) (hmem : switch ∈ switches) (text : String) :
    Spells switches (progress.give switch text) := by
  rw [Progress.give]
  split
  · exact spells_error _
  · exact h.read hmem .arguments text

/-- Nothing is left to be taken in. -/
theorem Spelled.settled (h : progress.Spelled switches) :
    Spelled switches { progress with pending := none } :=
  ⟨h.found, nofun⟩

/-- The option that was taken up last is taken in. -/
theorem Spelled.settle (h : progress.Spelled switches) : Spells switches progress.settle := by
  rw [Progress.settle]
  split
  · exact h.settled.spells
  · exact spells_error _
  · rename_i switch text htaken
    exact h.settled.give (h.pending _ htaken) text

/-- An option is taken up. -/
theorem Spelled.takeUp (h : progress.Spelled switches) (hmem : switch ∈ switches)
    (attached : Option String) : Spells switches (progress.takeUp switch attached) := by
  unfold Progress.takeUp
  split
  · rename_i text _
    exact h.settle.bind fun settled hsettled => hsettled.give hmem text
  · refine h.settle.bind fun settled hsettled => Spelled.spells ⟨hsettled.found, ?_⟩
    rintro _ ⟨⟩
    exact hmem
  · exact spells_error _
  · exact h.settle.bind fun settled hsettled => hsettled.give hmem ""
  · cases progress.settle <;> exact spells_error _
  · cases progress.settle <;> exact spells_error _

end Progress

namespace Place

open Progress (Spells Spelled)

variable {switches : List Switch} {progress : Progress} {place : Place}

/-- An option that is given by its name is taken up. -/
theorem spells_takeName (hplace : place.switches ⊆ switches) (h : progress.Spelled switches)
    (body : List Char) : Spells switches (place.takeName progress body) := by
  rcases hhalves : Text.halves '=' body with ⟨name, attached⟩
  rw [takeName, hhalves]
  dsimp only
  split
  · exact Progress.spells_error _
  · rename_i hfound
    exact h.takeUp (hplace (List.mem_of_find?_eq_some hfound)) _

/-- Options that are given by their letters are taken up. -/
theorem spells_takeLetters (hplace : place.switches ⊆ switches) (h : progress.Spelled switches)
    (letters : List Char) : Spells switches (place.takeLetters progress letters) := by
  induction letters generalizing progress with
  | nil => exact h.spells
  | cons letter rest ih =>
    rw [takeLetters]
    split
    · exact Progress.spells_error _
    rename_i switch hfound
    have hmem := hplace (List.mem_of_find?_eq_some hfound)
    split
    · exact h.takeUp hmem _
    · exact h.takeUp hmem _
    · exact h.takeUp hmem _
    · exact (h.takeUp hmem none).bind fun taken htaken => ih htaken

/-- An operand is taken. -/
theorem spells_takeOperand (h : progress.Spelled switches) (argument : String) :
    Spells switches (place.takeOperand progress argument) := by
  rw [takeOperand]
  split
  · exact h.settle.bind fun settled hsettled =>
      Spelled.spells ⟨hsettled.found, hsettled.pending⟩
  split
  · exact Progress.spells_error _
  split <;> exact Progress.spells_error _

/-- An argument is taken. -/
theorem spells_take (hplace : place.switches ⊆ switches) (h : progress.Spelled switches)
    (argument : String) : Spells switches (place.take progress argument) := by
  rw [take]
  split
  · exact spells_takeOperand h argument
  split
  · exact Spelled.spells ⟨h.found, h.pending⟩
  · exact spells_takeName hplace h _
  · exact spells_takeLetters hplace h _
  · rename_i switch hpending _ _ _
    refine Spelled.spells ⟨h.found, ?_⟩
    rintro _ ⟨⟩
    exact h.pending (switch, none) hpending
  · exact spells_takeOperand h argument

/-- All arguments up to a command are taken. -/
theorem spelled_readArguments (hplace : place.switches ⊆ switches) {arguments : List String}
    (h : progress.Spelled switches) {next : Progress} {rest : Option (String × List String)}
    (hread : place.readArguments progress arguments = .ok (next, rest)) :
    next.Spelled switches := by
  induction arguments generalizing progress with
  | nil =>
    cases hread
    exact h
  | cons argument arguments ih =>
    rw [readArguments] at hread
    split at hread
    · cases hread
      exact h
    · rcases htaken : place.take progress argument with fault | taken
      · rw [htaken] at hread
        cases hread
      · rw [htaken] at hread
        exact ih (spells_take hplace h argument taken htaken) hread

/-- The environment stands in for options. -/
theorem spells_askEnvironment (environment : Environment) {asked : List Switch}
    (hasked : asked ⊆ switches) (h : progress.Spelled switches) :
    Spells switches (askEnvironment environment asked progress) := by
  induction asked generalizing progress with
  | nil => exact h.spells
  | cons switch rest ih =>
    obtain ⟨hmem, hrest⟩ := List.cons_subset.1 hasked
    rw [askEnvironment]
    split
    · split
      · exact ih hrest h
      · exact (h.read hmem _ _).bind fun next hnext => ih hrest hnext
    · exact ih hrest h

/-- The environment is asked for some options and then for the others. -/
theorem askEnvironment_append (environment : Environment) (first second : List Switch)
    (progress : Progress) :
    askEnvironment environment (first ++ second) progress =
      askEnvironment environment first progress >>= askEnvironment environment second := by
  induction first generalizing progress with
  | nil => rfl
  | cons switch rest ih =>
    rw [List.cons_append, askEnvironment, askEnvironment]
    split
    · split
      · exact ih progress
      · rw [bind_assoc]
        exact bind_congr fun next => ih next
    · exact ih progress

/-- An option that is not set takes the value that the environment has for it. -/
theorem askEnvironment_cons {environment : Environment} {switch : Switch} {rest : List Switch}
    {kind : ValueKind} {text : String} {value : Value}
    (hstand : switch.stand.bind environment = some text)
    (hunset : progress.value? switch.name = none) (heffect : switch.effect = .value kind)
    (hread : kind.read text = .ok value) :
    askEnvironment environment (switch :: rest) progress =
      askEnvironment environment rest (progress.put switch .environment value) := by
  rw [askEnvironment, hstand]
  dsimp only
  rw [hunset, Progress.read, heffect]
  dsimp only
  rw [hread]
  rfl

/-- The standard values stand in for options. -/
theorem spells_askStandards {asked : List Switch} (hasked : asked ⊆ switches)
    (h : progress.Spelled switches) : Spells switches (askStandards asked progress) := by
  induction asked generalizing progress with
  | nil => exact h.spells
  | cons switch rest ih =>
    obtain ⟨hmem, hrest⟩ := List.cons_subset.1 hasked
    rw [askStandards]
    split
    · split
      · exact ih hrest h
      · exact (h.read hmem _ _).bind fun next hnext => ih hrest hnext
    · exact ih hrest h

/-- Reading is finished. -/
theorem spells_finish (hplace : place.switches ⊆ switches) (environment : Environment)
    (h : progress.Spelled switches) : Spells switches (place.finish environment progress) :=
  h.settle.bind fun _ hsettled =>
    (spells_askEnvironment environment hplace hsettled).bind fun _ hasked =>
      spells_askStandards hplace hasked

/-- All arguments of a place are read. -/
theorem spells_readAll (hplace : place.switches ⊆ switches) (environment : Environment)
    (arguments : List String) : Spells switches (place.readAll environment arguments) := by
  rw [readAll]
  rcases hread : place.readArguments {} arguments with fault | ⟨taken, rest⟩
  · exact Progress.spells_error _
  have htaken := spelled_readArguments hplace (Progress.spelled_empty switches) hread
  refine (spells_finish hplace environment htaken).bind fun finished hfinished => ?_
  split
  · exact hfinished.spells
  · exact Progress.spells_error _

end Place

/-! ## Numbers -/

namespace ValueKind

variable {text : String} {value : Value} {number : Nat}

/-- A whole number of 64 bits is in range. -/
theorem read_long (h : long.read text = .ok value) :
    ∃ number ≤ largestCount, value = .number number := by
  rw [read] at h
  rcases hread : Text.natural 0xFFFFFFFFFFFFFFFF text with fault | number
  · rw [hread] at h
    cases h
  · rw [hread] at h
    cases h
    exact ⟨number, (Text.natural_eq_ok_iff.1 hread).2, rfl⟩

/-- A whole number of 64 bits is read from its decimal form. -/
theorem read_long_toString (h : number ≤ largestCount) :
    long.read (toString number) = .ok (.number number) := by
  have hread : Text.natural 0xFFFFFFFFFFFFFFFF (toString number) = .ok number :=
    Text.natural_toString h
  rw [read, hread]

/-- A whole number of 32 bits is read from its decimal form. -/
theorem read_short_toString (h : number ≤ largestShort) :
    short.read (toString number) = .ok (.number number) := by
  have hrange : 0 ≤ (number : Int) ∧ (number : Int) ≤ largestShort :=
    ⟨Int.natCast_nonneg number, Int.ofNat_le.2 h⟩
  rw [read, readShort, Text.signed_toString _ (Nat.le_trans h (by decide))]
  dsimp only
  rw [if_pos hrange]
  rfl

end ValueKind

/-! ## Reading an invocation -/

/-- The order is read from the options behind the command, which are set as options may be. -/
theorem Invocation.read_order {environment : Environment} {arguments : List String}
    {invocation : Invocation} (h : Invocation.read environment arguments = .ok invocation) :
    ∃ name place progress, places.lookup name = some place ∧
      Progress.Spelled place.switches progress ∧ invocation.order = progress.order name := by
  rw [Invocation.read] at h
  rcases hfront : front.readArguments {} arguments with fault | ⟨before, _ | ⟨name, rest⟩⟩
  · rw [hfront] at h
    cases h
  · rw [hfront] at h
    cases h
  rw [hfront] at h
  rcases hplace : places.lookup name with _ | place
  · simp only [bind, Except.bind, hplace] at h
    cases h
  rcases hread : place.readAll environment rest with fault | progress
  · simp only [bind, Except.bind, hplace, hread] at h
    cases h
  rcases hbefore : front.finish environment before with fault | before'
  · simp only [bind, Except.bind, hplace, hread, hbefore] at h
    cases h
  simp only [bind, Except.bind, hplace, hread, hbefore] at h
  cases h
  exact ⟨name, place, progress, hplace,
    place.spells_readAll (fun _ hmem => hmem) environment rest progress hread, rfl⟩

/-- A command without arguments is read from the environment. -/
theorem Invocation.read_of_environment {environment : Environment} (name : String) {place : Place}
    {before asked behind : Progress}
    (hcommand : front.readArguments {} [name] = .ok ({}, some (name, [])))
    (hplace : places.lookup name = some place)
    (hasked : Place.askEnvironment environment place.switches {} = .ok asked)
    (hbehind : Place.askStandards place.switches asked = .ok behind)
    (hmissing : place.missing behind = []) (hbefore : front.finish environment {} = .ok before) :
    ∃ invocation, Invocation.read environment [name] = .ok invocation ∧
      invocation.order = behind.order name := by
  have hfinish : place.finish environment {} = .ok behind := by
    rw [← hbehind]
    change (Place.askEnvironment environment place.switches {} >>= _) = _
    rw [hasked]
    rfl
  have hread : place.readAll environment [] = .ok behind := by
    change (place.finish environment {} >>= _) = _
    rw [hfinish]
    simp only [bind, Except.bind, hmissing]
    rfl
  let all := Progress.merge before behind
  refine ⟨{ databaseUrl := all.text? "database-url"
            connectTimeout := all.number "db-connect-timeout-secs"
            statementTimeout := all.number "db-statement-timeout-secs"
            order := behind.order name }, ?_, rfl⟩
  rw [Invocation.read, hcommand]
  simp only [bind, Except.bind, hplace, hread, hbefore]
  rfl

/-! ## The options of a sweep -/

namespace Progress

variable {switches : List Switch} {progress : Progress} {name : String}

/-- Setting another option does not change an option. -/
theorem value?_put_of_ne {switch : Switch} (h : switch.name ≠ name) (source : Source)
    (value : Value) : (progress.put switch source value).value? name = progress.value? name := by
  simp [value?, put, List.find?_append, h]

/-- Where all options of a name take a whole number of 64 bits, the number is in range. -/
theorem Spelled.number_le (h : progress.Spelled switches)
    (hlong : ∀ switch ∈ switches, switch.name = name → switch.effect = .value .long) :
    progress.number name ≤ largestCount := by
  rw [number]
  rcases hvalue : progress.value? name with _ | ⟨other, source, value⟩
  · exact Nat.zero_le _
  obtain ⟨switch, hmem, hname, hadmits⟩ := h.found _ (List.mem_of_find?_eq_some hvalue)
  have hother : other = name := by simpa using List.find?_some hvalue
  obtain ⟨text, hread⟩ := hadmits .long (hlong switch hmem (hname.trans hother))
  obtain ⟨number, hle, rfl⟩ := ValueKind.read_long hread
  exact hle

end Progress

/-- The standard job is swept, and the lengths of time are whole numbers of 64 bits. -/
structure InRange (settings : SweepSettings) : Prop where
  /-- The job is the standard one. -/
  job_eq : settings.job = defaultJob
  /-- The pause is a number of milliseconds. -/
  pause_eq : ∃ millis ≤ largestCount, settings.pause = .ofMillis millis
  /-- The lifetime of the lock is a number of seconds. -/
  lockTtl_eq : ∃ seconds ≤ largestCount, settings.lockTtl = .ofSeconds seconds

/-- The sweep settings among options are in range. -/
theorem inRange_sweepSettings {switches : List Switch} {progress : Progress}
    (h : progress.Spelled switches)
    (hpause : ∀ switch ∈ switches, switch.name = "pause-ms" → switch.effect = .value .long)
    (hlock : ∀ switch ∈ switches, switch.name = "lock-ttl-secs" → switch.effect = .value .long) :
    InRange progress.sweepSettings :=
  ⟨rfl, ⟨_, h.number_le hpause, rfl⟩, ⟨_, h.number_le hlock, rfl⟩⟩

/-- Settings in range are made of numbers in range. -/
theorem InRange.exists_numbers {settings : SweepSettings} (h : InRange settings) :
    ∃ millis ≤ largestCount, ∃ seconds ≤ largestCount, settings =
      { batchSize := settings.batchSize.toNat.toUInt32, pause := .ofMillis millis
        lockTtl := .ofSeconds seconds } := by
  obtain ⟨millis, hmillis, hpause⟩ := h.pause_eq
  obtain ⟨seconds, hseconds, hlock⟩ := h.lockTtl_eq
  refine ⟨millis, hmillis, seconds, hseconds, ?_⟩
  rw [← hpause, ← hlock, Nat.toUInt32, UInt32.ofNat_toNat, ← h.job_eq]

/-- The environment with the numbers of sweep settings, and with a secret for those who need one. -/
def sweepEnvironment (batchSize seconds millis : Nat) : Environment := fun name =>
  if name = "SALON_AUTH_SWEEP_BATCH_SIZE" then some (toString batchSize)
  else if name = "SALON_AUTH_SWEEP_LOCK_TTL_SECS" then some (toString seconds)
  else if name = "SALON_AUTH_SWEEP_PAUSE_MS" then some (toString millis)
  else if name = "SALON_AUTH_SECRET" then some "0123456789abcdef0123456789abcdef"
  else none

/-- The options of a sweep as the environment sets them. -/
def sweepFound (batchSize seconds millis : Nat) : List Found :=
  [ ⟨"batch-size", .environment, .number batchSize⟩,
    ⟨"lock-ttl-secs", .environment, .number seconds⟩,
    ⟨"pause-ms", .environment, .number millis⟩ ]

/-- The secret as the environment sets it. -/
def secretFound : Found :=
  ⟨"secret", .environment, .text "0123456789abcdef0123456789abcdef"⟩

/-- The options of serving as they stand without being set. -/
def servingFound : List Found :=
  [ ⟨"bind", .standard, .text "0.0.0.0:8080"⟩, ⟨"access-ttl-hours", .standard, .number 24⟩,
    ⟨"refresh-ttl-days", .standard, .number 30⟩, ⟨"context-ttl-secs", .standard, .number 600⟩,
    ⟨"sweep-interval-secs", .standard, .number 3600⟩ ]

/-- The options that concern the database as they stand without being set. -/
def databaseFound : List Found :=
  [ ⟨"db-connect-timeout-secs", .standard, .number 5⟩,
    ⟨"db-statement-timeout-secs", .standard, .number 10⟩ ]

/-- The environment sets the options of a sweep. -/
theorem askEnvironment_sweep {batchSize seconds millis : Nat} (hbatch : batchSize ≤ largestShort)
    (hseconds : seconds ≤ largestCount) (hmillis : millis ≤ largestCount) {progress : Progress}
    (hunset : ∀ switch ∈ sweepSwitches, progress.value? switch.name = none) :
    Place.askEnvironment (sweepEnvironment batchSize seconds millis) sweepSwitches progress =
      .ok { progress with found := progress.found ++ sweepFound batchSize seconds millis } := by
  simp only [sweepSwitches, List.forall_mem_cons] at hunset
  rw [sweepSwitches,
    Place.askEnvironment_cons rfl hunset.1 rfl (ValueKind.read_short_toString hbatch),
    Place.askEnvironment_cons rfl ?_ rfl (ValueKind.read_long_toString hseconds),
    Place.askEnvironment_cons rfl ?_ rfl (ValueKind.read_long_toString hmillis),
    Place.askEnvironment]
  · simp [Progress.put, sweepFound, counted]
  · rw [Progress.value?_put_of_ne (by decide), Progress.value?_put_of_ne (by decide)]
    exact hunset.2.2.1
  · rw [Progress.value?_put_of_ne (by decide)]
    exact hunset.2.1

/-- The size of a batch is a whole number of 32 bits. -/
theorem toNat_le_largestShort (size : UInt32) : size.toNat ≤ largestShort :=
  Nat.le_of_lt_succ size.toNat_lt

variable {settings : SweepSettings}

/-- A sweep can be ordered with any settings in range. -/
theorem InRange.exists_sweep (h : InRange settings) :
    ∃ environment invocation, Invocation.read environment ["sweep"] = .ok invocation ∧
      invocation.order = .sweep settings := by
  obtain ⟨millis, hmillis, seconds, hseconds, hsettings⟩ := h.exists_numbers
  let environment := sweepEnvironment settings.batchSize.toNat seconds millis
  let found := sweepFound settings.batchSize.toNat seconds millis
  have hasked : Place.askEnvironment environment (behind sweepSwitches [] 0).switches {} =
      .ok { found } := by
    rw [behind, Place.askEnvironment_append,
      askEnvironment_sweep (toNat_le_largestShort _) hseconds hmillis (by decide)]
    rfl
  have hbehind : Place.askStandards (behind sweepSwitches [] 0).switches { found } =
      .ok { found := found ++ databaseFound } := rfl
  have hbefore : front.finish environment {} = .ok { found := databaseFound } := rfl
  obtain ⟨invocation, hread, horder⟩ :=
    Invocation.read_of_environment "sweep" rfl rfl hasked hbehind rfl hbefore
  refine ⟨environment, invocation, hread, ?_⟩
  rw [hsettings]
  exact horder

/-- Settings with a long secret are accepted if a sweep deletes rows and its lock lasts. -/
theorem check_of_positive (hsize : settings.batchSize ≠ 0) (hlock : 0 < settings.lockTtl.nanos) :
    Settings.check { secret := utf8 "0123456789abcdef0123456789abcdef", sweep := settings } =
      .ok () := by
  have hsecret : shortestSecret ≤ (utf8 "0123456789abcdef0123456789abcdef").length := by decide
  refine Settings.check_eq_ok_iff.2 ⟨hsecret, ?_, hsize⟩
  simp only [Settings.durations, List.forall_mem_cons]
  exact ⟨by decide, by decide, by decide, by decide, hlock, by simp⟩

/-- Serving can be ordered with any sweep settings in range, and starts if a sweep deletes rows and
its lock lasts. -/
theorem InRange.exists_serve (h : InRange settings) (hsize : settings.batchSize ≠ 0)
    (hlock : 0 < settings.lockTtl.nanos) :
    ∃ environment invocation serving,
      Invocation.read environment ["serve"] = .ok invocation ∧
        invocation.order = .serve serving ∧ serving.settings.check = .ok () ∧
        serving.settings.sweep = settings := by
  obtain ⟨millis, hmillis, seconds, hseconds, hsettings⟩ := h.exists_numbers
  let environment := sweepEnvironment settings.batchSize.toNat seconds millis
  let found := secretFound :: sweepFound settings.batchSize.toNat seconds millis
  have hasked : Place.askEnvironment environment (behind serveSwitches [] 0).switches {} =
      .ok { found } := by
    -- the options of a sweep stand between those that have to do with serving
    have hfirst : Place.askEnvironment environment (serveSwitches.take 7) {} =
        .ok { found := [secretFound] } := rfl
    have hsweep : Place.askEnvironment environment sweepSwitches { found := [secretFound] } =
        .ok { found } :=
      askEnvironment_sweep (toNat_le_largestShort _) hseconds hmillis (by decide)
    have hserve : (behind serveSwitches [] 0).switches = serveSwitches.take 7 ++
        (sweepSwitches ++ (behind serveSwitches [] 0).switches.drop 10) := rfl
    rw [hserve, Place.askEnvironment_append, hfirst]
    change Place.askEnvironment environment (sweepSwitches ++ _) { found := [secretFound] } = _
    rw [Place.askEnvironment_append, hsweep]
    rfl
  have hbehind : Place.askStandards (behind serveSwitches [] 0).switches { found } =
      .ok { found := found ++ servingFound ++ databaseFound } := rfl
  have hbefore : front.finish environment {} = .ok { found := databaseFound } := rfl
  obtain ⟨invocation, hread, horder⟩ :=
    Invocation.read_of_environment "serve" rfl rfl hasked hbehind rfl hbefore
  refine ⟨environment, invocation, _, hread, horder, ?_, hsettings.symm⟩
  have hcheck := check_of_positive hsize hlock
  rw [hsettings] at hcheck
  exact hcheck

/-! ## Which settings are accepted -/

/-- A sweep can be ordered with settings. -/
def SweepsWith (settings : SweepSettings) : Prop :=
  ∃ environment arguments invocation,
    Invocation.read environment arguments = .ok invocation ∧ invocation.order = .sweep settings

/-- Serving can be ordered and started with settings for its sweeps. -/
def ServesWith (settings : SweepSettings) : Prop :=
  ∃ environment arguments invocation serving,
    Invocation.read environment arguments = .ok invocation ∧
      invocation.order = .serve serving ∧ serving.settings.check = .ok () ∧
      serving.settings.sweep = settings

/-- The order of a sweep is for the command of this name and has the settings among the options. -/
theorem Progress.order_eq_sweep {progress : Progress} {name : String}
    (h : progress.order name = .sweep settings) :
    name = "sweep" ∧ progress.sweepSettings = settings := by
  unfold Progress.order at h
  split at h
  case h_2 => exact ⟨rfl, Order.sweep.inj h⟩
  all_goals cases h

/-- The order of serving is for the command of this name and has the settings among the options. -/
theorem Progress.order_eq_serve {progress : Progress} {name : String} {serving : Serving}
    (h : progress.order name = .serve serving) :
    name = "serve" ∧ progress.settings = serving.settings := by
  unfold Progress.order at h
  split at h
  case h_1 => exact ⟨rfl, congrArg Serving.settings (Order.serve.inj h)⟩
  all_goals cases h

/-- A sweep can be ordered with exactly the settings in range. -/
theorem sweepsWith_iff : SweepsWith settings ↔ InRange settings := by
  constructor
  · rintro ⟨environment, arguments, invocation, hread, hsweep⟩
    obtain ⟨name, place, progress, hplace, hspelled, horder⟩ := Invocation.read_order hread
    obtain ⟨rfl, rfl⟩ := Progress.order_eq_sweep (horder.symm.trans hsweep)
    obtain rfl : behind sweepSwitches [] 0 = place := Option.some.inj hplace
    exact inRange_sweepSettings hspelled (by decide) (by decide)
  · intro h
    obtain ⟨environment, invocation, hread, horder⟩ := h.exists_sweep
    exact ⟨environment, _, invocation, hread, horder⟩

/-- Serving can be started with exactly those settings in range by which a sweep deletes rows and
its lock lasts. -/
theorem servesWith_iff : ServesWith settings ↔
    InRange settings ∧ settings.batchSize ≠ 0 ∧ 0 < settings.lockTtl.nanos := by
  constructor
  · rintro ⟨environment, arguments, invocation, serving, hread, hserve, hcheck, rfl⟩
    obtain ⟨name, place, progress, hplace, hspelled, horder⟩ := Invocation.read_order hread
    obtain ⟨rfl, hsettings⟩ := Progress.order_eq_serve (horder.symm.trans hserve)
    obtain rfl : behind serveSwitches [] 0 = place := Option.some.inj hplace
    obtain ⟨-, hdurations, hsize⟩ := Settings.check_eq_ok_iff.1 hcheck
    refine ⟨?_, hsize, hdurations ("sweep lock TTL", _) (by simp [Settings.durations])⟩
    rw [← hsettings]
    exact inRange_sweepSettings hspelled (by decide) (by decide)
  · rintro ⟨h, hsize, hlock⟩
    obtain ⟨environment, invocation, serving, hread, horder, hcheck, hsweep⟩ :=
      h.exists_serve hsize hlock
    exact ⟨environment, _, invocation, serving, hread, horder, hcheck, hsweep⟩

end Gatehouse.Command
