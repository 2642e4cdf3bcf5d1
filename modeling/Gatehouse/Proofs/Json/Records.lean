import Gatehouse.Proofs.Json.Numbers

/-!
# Lists, names and records read back

Lists and objects are read element by element, each behind its comma. Main statements: a written
list reads back (`list_reads`), a known name reads back as what it names (`variant_reads`), and an
object reads back as the record that its members fill, in whatever order they are written
(`record_reads`).
-/

namespace Gatehouse.Json.Reader

variable {α β : Type}

/-! ## Lists -/

/-- Written values after the first, each behind its comma. -/
def behindCommas (written : List Bytes) : Bytes :=
  written.flatMap (fun value => 44 :: value)

/-- The first of several written values stands alone, the others behind commas. -/
theorem separated_cons (value : Bytes) (rest : List Bytes) :
    Write.separated (value :: rest) = value ++ behindCommas rest := by
  induction rest generalizing value with
  | nil => simp [Write.separated, behindCommas]
  | cons next rest ih => simp [Write.separated, behindCommas, ih]

/-- What stands behind a value among others is delimited. -/
theorem delimited_behindCommas (written : List Bytes) {rest : Bytes} (hrest : Delimited rest) :
    Delimited (behindCommas written ++ rest) := by
  cases written with
  | nil => exact hrest
  | cons value written => exact delimited_cons _ (Or.inl rfl)

/-- The written form of an element starts with a byte that is neither blank nor a closing mark. -/
def Starts (written : Bytes) : Prop :=
  ∃ byte rest, written = byte :: rest ∧ isBlank byte = false ∧ byte ≠ 93

/-- An element behind a comma is announced, and the comma is passed. -/
theorem moreElements_comma {written : Bytes} (h : Starts written) (rest : Bytes) :
    moreElements false (44 :: written ++ rest) = .ok true (written ++ rest) := by
  obtain ⟨byte, tail, rfl, hblank, hclose⟩ := h
  have hcomma : space (44 :: byte :: (tail ++ rest)) =
      .ok (some 44) (44 :: byte :: (tail ++ rest)) := rfl
  have hadvance : advance (44 :: byte :: (tail ++ rest)) = .ok () (byte :: (tail ++ rest)) := rfl
  change moreElements false (44 :: byte :: (tail ++ rest)) = _
  rw [moreElements, bind_ok hcomma]
  change (advance >>= _ : Reader Bool) (44 :: byte :: (tail ++ rest)) = _
  rw [bind_ok hadvance, bind_ok (space_cons hblank (tail ++ rest))]
  refine congrFun (g := (pure true : Reader Bool)) ?_ (byte :: (tail ++ rest))
  split
  · rename_i heq
    exact absurd (Option.some.inj heq) hclose
  · rfl
  · rename_i heq
    cases heq

/-- The first element is announced, and nothing is passed. -/
theorem moreElements_first {written : Bytes} (h : Starts written) (rest : Bytes) :
    moreElements true (written ++ rest) = .ok true (written ++ rest) := by
  obtain ⟨byte, tail, rfl, hblank, hclose⟩ := h
  rw [List.cons_append, moreElements, bind_ok (space_cons hblank (tail ++ rest))]
  refine congrFun (g := (pure true : Reader Bool)) ?_ (byte :: (tail ++ rest))
  split
  · rename_i heq
    cases heq
  · rename_i heq
    exact absurd (Option.some.inj heq) hclose
  · rfl

/-- One element is read, and then those behind it. -/
theorem elements_step {reader : Reader α} {fuel : Nat} {input written rest : Bytes}
    {read : List α} {element : α} (place : Nat)
    (hmore : moreElements (place == 0) input = .ok true (written ++ rest))
    (helement : reader (written ++ rest) = .ok element rest) :
    elements reader (fuel + 1) place read input =
      elements reader fuel (place + 1) (element :: read) rest := by
  have hnext : elements reader (fuel + 1) place read input =
      (moreElements (place == 0) >>= fun more =>
        if more then do
          let element ← inside (.index place) reader
          elements reader fuel (place + 1) (element :: read)
        else pure read.reverse) input := rfl
  rw [hnext, bind_ok hmore, if_pos rfl]
  exact bind_ok (inside_ok helement)

/-- The elements behind the first are read up to the closing mark. -/
theorem elements_behindCommas {reader : Reader α} {write : α → Bytes} {values : List α}
    {fuel : Nat} (place : Nat) (read : List α) (rest : Bytes)
    (hreads : ∀ value ∈ values, Reads reader (write value) value)
    (hstarts : ∀ value ∈ values, Starts (write value)) (hfuel : values.length < fuel) :
    elements reader fuel (place + 1) read (behindCommas (values.map write) ++ 93 :: rest) =
      .ok (read.reverse ++ values) (93 :: rest) := by
  -- over the values, with those that were read before in reverse
  induction values generalizing fuel place read with
  | nil =>
    cases fuel with
    | zero => simp at hfuel
    | succ fuel =>
      rw [List.append_nil]
      rfl
  | cons value values ih =>
    cases fuel with
    | zero => simp at hfuel
    | succ fuel =>
      have hdelimited : Delimited (behindCommas (values.map write) ++ 93 :: rest) :=
        delimited_behindCommas _ (delimited_cons rest (Or.inr (Or.inl rfl)))
      have hmore := moreElements_comma (hstarts value (by simp))
        (behindCommas (values.map write) ++ 93 :: rest)
      rw [List.map_cons, behindCommas, List.flatMap_cons, List.append_assoc, ← behindCommas]
      rw [elements_step (place + 1) hmore (hreads value (by simp) _ hdelimited),
        ih (place + 1) (value :: read) (fun v hv => hreads v (List.mem_cons_of_mem _ hv))
          (fun v hv => hstarts v (List.mem_cons_of_mem _ hv)) (by simpa using hfuel)]
      simp

/-- Written values are at least as many bytes as they are values. -/
theorem length_le_length_behindCommas (written : List Bytes) :
    written.length ≤ (behindCommas written).length := by
  induction written with
  | nil => simp
  | cons value written ih =>
    simp only [behindCommas, List.flatMap_cons, List.length_append, List.length_cons] at ih ⊢
    omega

/-- The elements of a written list are read up to the closing mark. -/
theorem elements_separated {reader : Reader α} {write : α → Bytes} {values : List α} (fuel : Nat)
    (rest : Bytes) (hreads : ∀ value ∈ values, Reads reader (write value) value)
    (hstarts : ∀ value ∈ values, Starts (write value)) (hfuel : values.length < fuel) :
    elements reader fuel 0 [] (Write.separated (values.map write) ++ 93 :: rest) =
      .ok values (93 :: rest) := by
  cases fuel with
  | zero => simp at hfuel
  | succ fuel =>
    cases values with
    | nil => rfl
    | cons value values =>
      have hdelimited : Delimited (behindCommas (values.map write) ++ 93 :: rest) :=
        delimited_behindCommas _ (delimited_cons rest (Or.inr (Or.inl rfl)))
      have hmore := moreElements_first (hstarts value (by simp))
        (behindCommas (values.map write) ++ 93 :: rest)
      rw [List.map_cons, separated_cons, List.append_assoc,
        elements_step 0 hmore (hreads value (by simp) _ hdelimited),
        elements_behindCommas 0 [value] rest (fun v hv => hreads v (List.mem_cons_of_mem _ hv))
          (fun v hv => hstarts v (List.mem_cons_of_mem _ hv)) (by simpa using hfuel)]
      rfl

/-- A written list reads back. -/
theorem list_reads {reader : Reader α} {write : α → Bytes} {values : List α}
    (hreads : ∀ value ∈ values, Reads reader (write value) value)
    (hstarts : ∀ value ∈ values, Starts (write value)) :
    Reads (list reader) (Write.list (values.map write)) values := by
  intro rest _
  have hlength : values.length ≤ (Write.separated (values.map write)).length + 1 := by
    cases values with
    | nil => simp
    | cons value values =>
      have := length_le_length_behindCommas (values.map write)
      rw [List.map_cons, separated_cons, List.length_append, List.length_cons]
      rw [List.length_map] at this
      omega
  have helements := elements_separated
    ((Write.separated (values.map write) ++ 93 :: rest).length + 1) rest hreads hstarts
    (by rw [List.length_append, List.length_cons]; omega)
  have hclose : endList (93 :: rest) = .ok () rest := rfl
  have hinput : Write.list (values.map write) ++ rest =
      91 :: (Write.separated (values.map write) ++ 93 :: rest) := by
    simp [Write.list]
  rw [hinput]
  exact value_cons rfl (enclosed_ok helements hclose)

/-! ## Names, and values that may be missing -/

/-- A known name reads back as what it names. -/
theorem variant_reads {known : List (String × α)} {nameOf : α → String} {name : String} {value : α}
    (h : known.lookup name = some value) :
    Reads (variant known nameOf) (Write.string name) value := by
  intro rest hrest
  have hname : knownName known (Write.string name ++ rest) = .ok value rest := by
    apply settle_ok
    rw [bind_ok (string_reads "variant identifier" name rest hrest), h]
    rfl
  rw [string_append] at hname ⊢
  rw [variant, bind_ok (space_cons rfl _)]
  exact hname

/-- A value that is there reads back, if it does not start as the word for a missing one does. -/
theorem optional_reads_some {reader : Reader α} {byte : UInt8} {written : Bytes} {value : α}
    (h : Reads reader (byte :: written) value) (hblank : isBlank byte = false)
    (hnull : byte ≠ 110) : Reads (optional reader) (byte :: written) (some value) := by
  intro rest hrest
  rw [List.cons_append, optional, bind_ok (space_cons hblank _)]
  refine (congrFun (g := some <$> reader) ?_ (byte :: (written ++ rest))).trans
    (bind_ok (h rest hrest))
  split
  · rename_i heq
    exact absurd (Option.some.inj heq) hnull
  · rfl

/-- A value that is missing reads back. -/
theorem optional_reads_none (reader : Reader α) : Reads (optional reader) Write.null none := by
  intro rest _
  rfl

/-! ## Records -/

/-- The members written of a record lead from one record to another: each is known and new, and its
value is read into the record; at the end no member is missing that must be there. -/
inductive Fills (known : List (Member α)) : List String → α → List (String × Bytes) → α → Prop
  /-- Nothing is left, and nothing is missing. -/
  | nil {met : List String} {record : α}
      (hmissing : known.find? (fun m => !m.mayLack && !met.contains m.key) = none) :
      Fills known met record [] record
  /-- One member is read into the record, and the others follow. -/
  | cons {met : List String} {record next final : α} {key : String} {m : Member α}
      {written : Bytes} {fields : List (String × Bytes)}
      (hknown : known.find? (fun m => m.key == key) = some m) (hmet : met.contains key = false)
      (hread : Reads (m.read record) written next)
      (hrest : Fills known (key :: met) next fields final) :
      Fills known met record ((key, written) :: fields) final

/-- A member as it is written: its key, a colon and its value. -/
def field (member : String × Bytes) : Bytes :=
  Write.string member.1 ++ 58 :: member.2

/-- A member is read behind its announcement, and then those behind it. -/
theorem members_step {known : List (Member α)} {fuel : Nat} {first : Bool} {met : List String}
    {record next : α} {key : String} {m : Member α} {input written rest : Bytes}
    (hmore : moreMembers first input = .ok true (field (key, written) ++ rest))
    (hknown : known.find? (fun m => m.key == key) = some m) (hmet : met.contains key = false)
    (hread : Reads (m.read record) written next) (hrest : Delimited rest) :
    members known (fuel + 1) first met record input =
      members known fuel false (key :: met) next rest := by
  have hinput : field (key, written) ++ rest =
      34 :: ((utf8 key).flatMap Write.stringByte ++ 34 :: (58 :: (written ++ rest))) := by
    simp [field, Write.string]
  have hcolon : colon (58 :: (written ++ rest)) = .ok () (written ++ rest) := rfl
  rw [hinput] at hmore
  have hadvance : advance (34 :: ((utf8 key).flatMap Write.stringByte ++
      34 :: (58 :: (written ++ rest)))) =
      .ok () ((utf8 key).flatMap Write.stringByte ++ 34 :: (58 :: (written ++ rest))) := rfl
  rw [members, bind_ok hmore, if_pos rfl, bind_ok hadvance, bind_ok (stringBody_written key _),
    hknown]
  simp only [hmet, Bool.false_eq_true, if_false]
  rw [bind_ok hcolon, bind_ok (inside_ok (hread rest hrest))]

/-- Members behind the first are read up to the closing mark. -/
theorem members_behindCommas {known : List (Member α)} {met : List String} {record final : α}
    {fields : List (String × Bytes)} {fuel : Nat} (rest : Bytes)
    (h : Fills known met record fields final) (hfuel : fields.length < fuel) :
    members known fuel false met record (behindCommas (fields.map field) ++ 125 :: rest) =
      .ok final (125 :: rest) := by
  -- over the members as they fill the record
  induction h generalizing fuel with
  | nil hmissing =>
    cases fuel with
    | zero => simp at hfuel
    | succ fuel =>
      have hmore : moreMembers false (125 :: rest) = .ok false (125 :: rest) := rfl
      change members known (fuel + 1) false _ _ (125 :: rest) = _
      rw [members, bind_ok hmore, if_neg Bool.false_ne_true, hmissing]
      rfl
  | @cons met record next final key m written fields hknown hmet hread hfills ih =>
    cases fuel with
    | zero => simp at hfuel
    | succ fuel =>
      have hdelimited : Delimited (behindCommas (fields.map field) ++ 125 :: rest) :=
        delimited_behindCommas _ (delimited_cons rest (Or.inr (Or.inr rfl)))
      have hmore : moreMembers false (44 :: field (key, written) ++
          (behindCommas (fields.map field) ++ 125 :: rest)) =
          .ok true (field (key, written) ++ (behindCommas (fields.map field) ++ 125 :: rest)) := rfl
      rw [List.map_cons, behindCommas, List.flatMap_cons, List.append_assoc, ← behindCommas,
        members_step hmore hknown hmet hread hdelimited]
      exact ih (by simpa using hfuel)

/-- An object reads back as the record that its members fill. -/
theorem record_reads {known : List (Member α)} {blank final : α} {key : String} {written : Bytes}
    {fields : List (String × Bytes)} (name : String)
    (h : Fills known [] blank ((key, written) :: fields) final) :
    Reads (record name known blank) (Write.object ((key, written) :: fields)) final := by
  intro rest _
  cases h with
  | cons hknown hmet hread hfills =>
    have hdelimited : Delimited (behindCommas (fields.map field) ++ 125 :: rest) :=
      delimited_behindCommas _ (delimited_cons rest (Or.inr (Or.inr rfl)))
    have hinput : Write.object ((key, written) :: fields) ++ rest =
        123 :: (field (key, written) ++ (behindCommas (fields.map field) ++ 125 :: rest)) := by
      change 123 :: (Write.separated (field (key, written) :: fields.map field) ++ [125]) ++
        rest = _
      rw [separated_cons]
      simp
    have hmore : moreMembers true (field (key, written) ++
        (behindCommas (fields.map field) ++ 125 :: rest)) =
        .ok true (field (key, written) ++ (behindCommas (fields.map field) ++ 125 :: rest)) := rfl
    have hlength := length_le_length_behindCommas (fields.map field)
    have hmembers : ∀ fuel, fields.length < fuel → members known (fuel + 1) true [] blank
        (field (key, written) ++ (behindCommas (fields.map field) ++ 125 :: rest)) =
        .ok final (125 :: rest) := fun fuel hfuel => by
      rw [members_step hmore hknown hmet hread hdelimited]
      exact members_behindCommas rest hfills hfuel
    have hclose : endObject (125 :: rest) = .ok () rest := rfl
    rw [hinput]
    refine value_cons rfl (enclosed_ok (hmembers _ ?_) hclose)
    rw [List.length_map] at hlength
    rw [List.tail_cons, List.length_append, List.length_append, List.length_cons]
    omega

end Gatehouse.Json.Reader
