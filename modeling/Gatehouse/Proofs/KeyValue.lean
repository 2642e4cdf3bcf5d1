import Gatehouse.KeyValue

/-!
# What calls to the shared entries change

An entry that is there after a call was there before it, or was set by it (`mem_answer`). So what
holds of all entries of a kind is kept by every call that sets no such entry. What a call for one
key gives, and what it leaves there, depends on the live entry of that key alone (`rel_answer`), and
calls that are not for a key leave its live entry as it is (`live?_answer_of_ne`).
-/

namespace Gatehouse

namespace Instant

/-- The clock can show the end of a lifetime that starts now: the whole seconds of the sum are a
signed 64-bit number. -/
def Reaches (now : Instant) (ttl : Duration) : Prop :=
  (now.nanos + ttl.nanos) / Duration.nanosPerSecond < 0x8000000000000000

/-- Whether the clock can show the end of a lifetime is decided by adding. -/
instance (now : Instant) (ttl : Duration) : Decidable (now.Reaches ttl) :=
  inferInstanceAs (Decidable (_ < _))

variable {now deadline : Instant} {ttl : Duration}

/-- A lifetime has an end as far as the clock goes. -/
theorem isSome_plus?_iff : (now.plus? ttl).isSome ↔ now.Reaches ttl := by
  rw [plus?, Reaches]
  simp only [Option.isSome_ite]

/-- A lifetime has no end if the clock cannot show it. -/
theorem plus?_eq_none_iff : now.plus? ttl = none ↔ ¬ now.Reaches ttl := by
  rw [← isSome_plus?_iff, Option.not_isSome_iff_eq_none]

/-- A lifetime that the clock can show ends when it has passed. -/
theorem nanos_of_plus? (h : now.plus? ttl = some deadline) :
    deadline.nanos = now.nanos + ttl.nanos := by
  rw [plus?] at h
  obtain ⟨-, h⟩ := Option.ite_none_right_eq_some.1 h
  cases h
  rfl

end Instant

namespace KeyValue

/-- The call may set a key to a value. -/
def Call.Sets (key : String) (value : Bytes) : Call → Prop
  | set other written _ => other = key ∧ written = value
  | setIfAbsent other written _ => other = key ∧ written = value
  | _ => False

/-- The key that a call is for. -/
def Call.key? : Call → Option String
  | get key => some key
  | set key _ _ => some key
  | setIfAbsent key _ _ => some key
  | delete key => some key
  | purge => none

/-- An entry within its lifetime was within it before. -/
theorem Entry.isLiveAt_of_le {entry : Entry} {now later : Instant} (hle : now.nanos ≤ later.nanos)
    (h : entry.isLiveAt later = true) : entry.isLiveAt now = true := by
  simp only [isLiveAt, decide_eq_true_eq] at h ⊢
  omega

namespace Table

variable {table : Table} {key : String} {entry : Entry} {now : Instant}

/-- Dropping a key leaves the entries of the other keys. -/
theorem mem_erase :
    entry ∈ (table.erase key).entries ↔ entry ∈ table.entries ∧ entry.key ≠ key := by
  simp [erase]

/-- Putting an entry leaves the entries of the other keys. -/
theorem mem_put {new : Entry} :
    entry ∈ (table.put new).entries ↔
      entry = new ∨ (entry ∈ table.entries ∧ entry.key ≠ new.key) := by
  rw [put, List.mem_cons, mem_erase]

/-- Dropping a key leaves the entry of every other key. -/
theorem lookup?_erase_of_ne {other : String} (h : key ≠ other) :
    (table.erase other).lookup? key = table.lookup? key := by
  rw [lookup?, erase, List.find?_filter, lookup?]
  refine congrArg (fun test => table.entries.find? test) ?_
  funext entry
  by_cases hkey : entry.key = key
  · simp [hkey, h]
  · simp [hkey]

/-- A key that is dropped has no entry. -/
theorem lookup?_erase_self : (table.erase key).lookup? key = none := by
  refine List.find?_eq_none.2 fun entry hmem => ?_
  simpa using (mem_erase.1 hmem).2

/-- An entry that is put is the one of its key. -/
theorem lookup?_put_self (new : Entry) : (table.put new).lookup? new.key = some new := by
  rw [put, lookup?, List.find?_cons, beq_self_eq_true]

/-- Putting an entry leaves the entry of every other key. -/
theorem lookup?_put_of_ne {new : Entry} (h : key ≠ new.key) :
    (table.put new).lookup? key = table.lookup? key := by
  rw [put, lookup?, List.find?_cons, beq_false_of_ne h.symm]
  exact lookup?_erase_of_ne h

/-- A key has a live value if its entry is live. -/
theorem isSome_get {found : Entry} (h : table.lookup? key = some found)
    (hlive : found.isLiveAt now = true) : (table.get now key).isSome := by
  rw [get, h, Option.filter_some, if_pos hlive]
  rfl

/-- A live value is that of a live entry. -/
theorem exists_mem_of_get {value : Bytes} (h : table.get now key = some value) :
    ∃ entry ∈ table.entries,
      entry.key = key ∧ entry.value = value ∧ entry.isLiveAt now = true := by
  obtain ⟨entry, hentry, rfl⟩ := Option.map_eq_some_iff.1 h
  obtain ⟨hfound, hlive⟩ := Option.filter_eq_some_iff.1 hentry
  exact ⟨entry, List.mem_of_find?_eq_some hfound, by simpa using List.find?_some hfound, rfl, hlive⟩

/-- An entry after setting a key was there before, or is the one that was set and lives until the
end of its lifetime. -/
theorem mem_set_until {value : Bytes} {ttl : Duration} {after : Table}
    (h : table.set now key value ttl = some after) (hmem : entry ∈ after.entries) :
    entry ∈ table.entries ∨
      (key = entry.key ∧ value = entry.value ∧ now.plus? ttl = some entry.deadline) := by
  obtain ⟨deadline, hdeadline, rfl⟩ := Option.map_eq_some_iff.1 h
  rcases mem_put.1 hmem with rfl | ⟨hold, -⟩
  · exact .inr ⟨rfl, rfl, hdeadline⟩
  · exact .inl hold

/-- An entry after setting a key was there before or is the one that was set. -/
theorem mem_set {value : Bytes} {ttl : Duration} {after : Table}
    (h : table.set now key value ttl = some after) (hmem : entry ∈ after.entries) :
    entry ∈ table.entries ∨ (key = entry.key ∧ value = entry.value) :=
  (mem_set_until h hmem).imp_right (fun ⟨hkey, hvalue, _⟩ => ⟨hkey, hvalue⟩)

/-- An entry after a call was there before the call, or was set by it. -/
theorem mem_answer {call : Call} {reply : call.Value × Table}
    (h : table.answer now call = some reply) (hmem : entry ∈ reply.2.entries) :
    entry ∈ table.entries ∨ call.Sets entry.key entry.value := by
  cases call with
  | get key =>
    cases h
    exact .inl hmem
  | set key value ttl =>
    obtain ⟨after, hset, rfl⟩ := Option.map_eq_some_iff.1 h
    exact mem_set hset hmem
  | setIfAbsent key value ttl =>
    rw [answer, setIfAbsent] at h
    split at h
    · cases h
      exact .inl hmem
    · obtain ⟨after, hset, rfl⟩ := Option.map_eq_some_iff.1 h
      exact mem_set hset hmem
  | delete key =>
    cases h
    exact .inl (mem_erase.1 hmem).1
  | purge =>
    cases h
    exact .inl (List.mem_filter.1 hmem).1

/-! ## One entry a key -/

/-- No key has two entries. -/
def Distinct (table : Table) : Prop :=
  table.entries.Pairwise (fun first second => first.key ≠ second.key)

/-- Dropping a key leaves keys distinct. -/
theorem Distinct.erase (h : table.Distinct) (key : String) : (table.erase key).Distinct :=
  List.Pairwise.filter _ h

/-- Putting an entry in the place of the one with its key leaves keys distinct. -/
theorem Distinct.put (h : table.Distinct) (new : Entry) : (table.put new).Distinct :=
  List.pairwise_cons.2 ⟨fun _ hmem => (mem_erase.1 hmem).2.symm, h.erase new.key⟩

/-- Setting a key leaves keys distinct. -/
theorem Distinct.set {value : Bytes} {ttl : Duration} {after : Table} (h : table.Distinct)
    (hset : table.set now key value ttl = some after) : after.Distinct := by
  obtain ⟨deadline, -, rfl⟩ := Option.map_eq_some_iff.1 hset
  exact h.put _

/-- Every call leaves keys distinct. -/
theorem Distinct.answer {call : Call} {reply : call.Value × Table} (h : table.Distinct)
    (hanswer : table.answer now call = some reply) : reply.2.Distinct := by
  cases call with
  | get key =>
    cases hanswer
    exact h
  | set key value ttl =>
    obtain ⟨after, hset, rfl⟩ := Option.map_eq_some_iff.1 hanswer
    exact h.set hset
  | setIfAbsent key value ttl =>
    rw [Table.answer, setIfAbsent] at hanswer
    split at hanswer
    · cases hanswer
      exact h
    · obtain ⟨after, hset, rfl⟩ := Option.map_eq_some_iff.1 hanswer
      exact h.set hset
  | delete key =>
    cases hanswer
    exact h.erase key
  | purge =>
    cases hanswer
    exact List.Pairwise.filter _ h

/-! ## The live entry of a key -/

/-- The entry of a key, if it is live. -/
def live? (table : Table) (now : Instant) (key : String) : Option Entry :=
  (table.lookup? key).filter (fun entry => entry.isLiveAt now)

/-- The live value of a key is that of its live entry. -/
theorem get_eq_map_live? : table.get now key = (table.live? now key).map Entry.value := rfl

/-- What is live later is what is live now and lasts that long. -/
theorem live?_of_le {later : Instant} (hle : now.nanos ≤ later.nanos) :
    table.live? later key =
      (table.live? now key).filter (fun entry => entry.isLiveAt later) := by
  rw [live?, live?, Option.filter_filter]
  refine congrArg (fun test => (table.lookup? key).filter test) ?_
  funext entry
  rw [eq_comm, Bool.and_eq_right_iff_imp]
  exact Entry.isLiveAt_of_le hle

/-- A key that is dropped has no live entry. -/
theorem live?_erase_self : (table.erase key).live? now key = none := by
  rw [live?, lookup?_erase_self, Option.filter_none]

/-- Dropping a key leaves the live entry of every other key. -/
theorem live?_erase_of_ne {other : String} (h : key ≠ other) :
    (table.erase other).live? now key = table.live? now key := by
  rw [live?, live?, lookup?_erase_of_ne h]

/-- An entry that is put is the live one of its key, if it is live. -/
theorem live?_put_self (new : Entry) :
    (table.put new).live? now new.key =
      (some new).filter (fun entry => entry.isLiveAt now) := by
  rw [live?, lookup?_put_self]

/-- Putting an entry leaves the live entry of every other key. -/
theorem live?_put_of_ne {new : Entry} (h : key ≠ new.key) :
    (table.put new).live? now key = table.live? now key := by
  rw [live?, live?, lookup?_put_of_ne h]

/-- Where no key has two entries, the entry of a key is the one with the key. -/
theorem Distinct.lookup?_eq_some_iff (h : table.Distinct) :
    table.lookup? key = some entry ↔ entry ∈ table.entries ∧ entry.key = key := by
  constructor
  · intro hfound
    exact ⟨List.mem_of_find?_eq_some hfound, by simpa using List.find?_some hfound⟩
  rcases table with ⟨entries⟩
  rintro ⟨hmem, hkey⟩
  simp only [Distinct, lookup?] at h hmem ⊢
  -- over the entries: no earlier entry has the key, so the search passes them
  induction entries with
  | nil => cases hmem
  | cons head rest ih =>
    rw [List.pairwise_cons] at h
    rcases List.mem_cons.1 hmem with rfl | hrest
    · rw [List.find?_cons, beq_iff_eq.2 hkey]
    · have hhead : (head.key == key) = false :=
        beq_false_of_ne fun heq => h.1 entry hrest (heq.trans hkey.symm)
      rw [List.find?_cons, hhead]
      exact ih h.2 hrest

/-- Where no key has two entries, the live entry of a key is the one with the key that is live. -/
theorem Distinct.live?_eq_some_iff (h : table.Distinct) :
    table.live? now key = some entry ↔
      entry ∈ table.entries ∧ entry.key = key ∧ entry.isLiveAt now = true := by
  rw [live?, Option.filter_eq_some_iff, h.lookup?_eq_some_iff, and_assoc]

/-- Dropping all entries past their lifetime leaves the live ones. -/
theorem Distinct.live?_purge (h : table.Distinct) :
    (table.purge now).2.live? now key = table.live? now key := by
  have hpurged : (table.purge now).2.Distinct := List.Pairwise.filter _ h
  refine Option.ext fun entry => ?_
  rw [hpurged.live?_eq_some_iff, h.live?_eq_some_iff]
  constructor
  · rintro ⟨hmem, hkey, hlive⟩
    exact ⟨(List.mem_filter.1 hmem).1, hkey, hlive⟩
  · rintro ⟨hmem, hkey, hlive⟩
    exact ⟨List.mem_filter.2 ⟨hmem, hlive⟩, hkey, hlive⟩

/-- What setting a key leaves there does not depend on what was there. -/
theorem rel_set {first second : Table} {value : Bytes} {ttl : Duration} :
    Option.Rel (fun after after' => after.live? now key = after'.live? now key)
      (first.set now key value ttl) (second.set now key value ttl) := by
  rw [set, set]
  cases now.plus? ttl with
  | none => exact .none
  | some deadline =>
    refine .some ?_
    rw [live?_put_self ⟨key, value, deadline⟩, live?_put_self ⟨key, value, deadline⟩]

/-- What a call for a key gives, and what it leaves there, depends on the live entry of the key
alone. -/
theorem rel_answer {first second : Table} {call : Call} (hkey : call.key? = some key)
    (h : first.live? now key = second.live? now key) :
    Option.Rel (fun reply reply' =>
        reply.1 = reply'.1 ∧ reply.2.live? now key = reply'.2.live? now key)
      (first.answer now call) (second.answer now call) := by
  have hget : first.get now key = second.get now key := by
    rw [get_eq_map_live?, get_eq_map_live?, h]
  have hset {α : Type} (reply : α) (value : Bytes) (ttl : Duration) :
      Option.Rel (fun reply reply' : α × Table =>
          reply.1 = reply'.1 ∧ reply.2.live? now key = reply'.2.live? now key)
        ((first.set now key value ttl).map (fun table => (reply, table)))
        ((second.set now key value ttl).map (fun table => (reply, table))) := by
    have hrel : Option.Rel (fun after after' => after.live? now key = after'.live? now key)
        (first.set now key value ttl) (second.set now key value ttl) := rel_set
    generalize first.set now key value ttl = after at hrel ⊢
    generalize second.set now key value ttl = after' at hrel ⊢
    cases hrel with
    | none => exact .none
    | some hlive => exact .some ⟨rfl, hlive⟩
  cases call with
  | get key =>
    cases hkey
    exact .some ⟨hget, h⟩
  | set key value ttl =>
    cases hkey
    exact hset () value ttl
  | setIfAbsent key value ttl =>
    cases hkey
    rw [answer, answer, setIfAbsent, setIfAbsent, hget]
    split
    · exact .some ⟨rfl, h⟩
    · exact hset true value ttl
  | delete key =>
    cases hkey
    exact .some ⟨rfl, live?_erase_self.trans live?_erase_self.symm⟩
  | purge => cases hkey

/-- Setting a key leaves the live entry of every other key. -/
theorem live?_set_of_ne {other : String} {value : Bytes} {ttl : Duration} {after : Table}
    (h : key ≠ other) (hset : table.set now other value ttl = some after) :
    after.live? now key = table.live? now key := by
  obtain ⟨deadline, -, rfl⟩ := Option.map_eq_some_iff.1 hset
  exact live?_put_of_ne h

/-- Calls that are not for a key leave its live entry. -/
theorem Distinct.live?_answer_of_ne {call : Call} {reply : call.Value × Table}
    (h : table.Distinct) (hkey : call.key? ≠ some key)
    (hanswer : table.answer now call = some reply) :
    reply.2.live? now key = table.live? now key := by
  cases call with
  | get other =>
    cases hanswer
    rfl
  | set other value ttl =>
    obtain ⟨after, hset, rfl⟩ := Option.map_eq_some_iff.1 hanswer
    exact live?_set_of_ne (fun heq => hkey (congrArg some heq.symm)) hset
  | setIfAbsent other value ttl =>
    rw [Table.answer, setIfAbsent] at hanswer
    split at hanswer
    · cases hanswer
      rfl
    · obtain ⟨after, hset, rfl⟩ := Option.map_eq_some_iff.1 hanswer
      exact live?_set_of_ne (fun heq => hkey (congrArg some heq.symm)) hset
  | delete other =>
    cases hanswer
    exact live?_erase_of_ne (fun heq => hkey (congrArg some heq.symm))
  | purge =>
    cases hanswer
    exact h.live?_purge

end Table

end KeyValue

end Gatehouse
