import Gatehouse.Proofs.KeyValue
import Gatehouse.Proofs.Sql.Meaning
import Mathlib.Data.List.Nodup

/-!
# Shared entries in a database and in memory

A database and memory hold the same shared entries, in whatever order. Then a call gives the same in
both and leaves them so (`SameEntries.yields`), if the end of a lifetime can be told in both.
-/

namespace Gatehouse

/-- A lifetime is a whole number of microseconds that a database makes an interval of, and a clock
can show its end. -/
def Clock.Represents (clock : Clock) (ttl : Duration) : Prop :=
  (clock.instant.plus? ttl).isSome ∧
    ∃ span, Sql.interval? (Sql.secondsOf ttl) = some span ∧ ttl.nanos = 1000 * span

/-- The interval that a database makes of such a lifetime is as long. -/
theorem Clock.Represents.nanos_eq {clock : Clock} {ttl : Duration} {span : Nat}
    (h : clock.Represents ttl) (hspan : Sql.interval? (Sql.secondsOf ttl) = some span) :
    ttl.nanos = 1000 * span := by
  obtain ⟨span', hspan', hnanos⟩ := h.2
  obtain rfl := Option.some.inj (hspan.symm.trans hspan')
  exact hnanos

/-- The lifetime that a call gives a shared entry can be represented in a database and in memory. -/
def KeyValue.Call.RepresentedBy (clock : Clock) : Call → Prop
  | set _ _ ttl => clock.Represents ttl
  | setIfAbsent _ _ ttl => clock.Represents ttl
  | _ => True

namespace KeyValue.Table

variable {table : Table}

/-- Where no key has two entries, the live entries with a key are the live entry of the key. -/
theorem Distinct.filter_live (h : table.Distinct) (key : String) (now : Instant) :
    table.entries.filter (fun entry => entry.key == key && entry.isLiveAt now) =
      (table.live? now key).toList := by
  have hfound : table.entries.filter (fun entry => entry.key == key) =
      (table.lookup? key).toList := by
    refine filter_eq_toList_find? (h.imp fun hne hboth => hne ?_)
    exact (beq_iff_eq.1 hboth.1).trans (beq_iff_eq.1 hboth.2).symm
  rw [live?, Option.toList_filter, ← hfound, List.filter_filter]
  simp only [Bool.and_comm]

/-- Memory answers a call whose lifetime can be represented. -/
theorem exists_answer (table : Table) {clock : Clock} {call : Call}
    (hcall : call.RepresentedBy clock) :
    ∃ value later, table.answer clock.instant call = some (value, later) := by
  have hset (key : String) (value : Bytes) {ttl : Duration} (httl : clock.Represents ttl) :
      ∃ later, table.set clock.instant key value ttl = some later := by
    obtain ⟨deadline, hdeadline⟩ := Option.isSome_iff_exists.1 httl.1
    exact ⟨_, by rw [set, hdeadline, Option.map_some]⟩
  cases call with
  | get key => exact ⟨_, _, rfl⟩
  | set key value ttl =>
    obtain ⟨later, hlater⟩ := hset key value hcall
    exact ⟨(), later, by rw [answer, hlater]; rfl⟩
  | setIfAbsent key value ttl =>
    rw [answer, setIfAbsent]
    split
    · exact ⟨false, table, rfl⟩
    · obtain ⟨later, hlater⟩ := hset key value hcall
      exact ⟨true, later, by rw [hlater]; rfl⟩
  | delete key => exact ⟨_, _, rfl⟩
  | purge => exact ⟨_, _, rfl⟩

end KeyValue.Table

namespace Sql

open KeyValue (Entry)

variable {clock : Clock} {key : String} {tables after : Tables} {table : KeyValue.Table}

/-- An entry as memory has it, with the clock that stood at zero at a time. -/
def EntryRecord.entry (record : EntryRecord) (started : Timestamp) : Entry :=
  ⟨record.key, record.value, ⟨(1000 * record.expiresAt - started.nanos).toNat⟩⟩

/-- The entries within their lifetime in a database are those in memory. -/
theorem EntryRecord.isLiveAt_entry (record : EntryRecord) (hnow : clock.now.IsWhole) :
    (record.entry clock.started).isLiveAt clock.instant =
      decide (storedMicros clock.now < record.expiresAt) := by
  have htime := congrArg Timestamp.nanos (timeOf_storedMicros hnow)
  simp only [timeOf, Clock.now, Timestamp.plus] at htime
  rw [Entry.isLiveAt, entry, Clock.instant, decide_eq_decide]
  simp only [Clock.now, Timestamp.plus]
  omega

/-- A database and memory hold the same shared entries. -/
structure SameEntries (started : Timestamp) (records : List EntryRecord)
    (table : KeyValue.Table) : Prop where
  /-- They hold the same entries. -/
  entries : (records.map (fun record => record.entry started)).Perm table.entries
  /-- No key has two entries. -/
  distinct : table.Distinct

/-- The keys of the entries in a database are distinct. -/
theorem SameEntries.keys {started : Timestamp} {records : List EntryRecord}
    (h : SameEntries started records table) : (records.map EntryRecord.key).Nodup := by
  have hkeys := (h.entries.map Entry.key).nodup_iff.2 (List.pairwise_map.2 h.distinct)
  simpa [List.map_map, Function.comp_def, EntryRecord.entry] using hkeys

/-- A condition selects the same entries in a database and in memory. -/
theorem SameEntries.select {started : Timestamp} {records : List EntryRecord}
    (h : SameEntries started records table) (test : EntryRecord → Bool) (test' : Entry → Bool)
    (htest : ∀ record : EntryRecord, test record = test' (record.entry started)) :
    ((records.filter test).map (fun record => record.entry started)).Perm
      (table.entries.filter test') := by
  have hselected := h.entries.filter test'
  rw [List.filter_map] at hselected
  have hsame : test' ∘ (fun record => record.entry started) = test :=
    funext fun record => (htest record).symm
  rwa [hsame] at hselected

/-- Where keys are distinct, the entry of a key is the only one. -/
theorem filter_key {records : List EntryRecord} (h : (records.map EntryRecord.key).Nodup)
    {record : EntryRecord} (hmem : record ∈ records) :
    records.filter (fun entry => entry.key == record.key) = [record] := by
  have hnodup : (records.filter (fun entry => entry.key == record.key)).Nodup := h.of_map.filter _
  apply List.perm_singleton.1
  apply (List.perm_ext_iff_of_nodup hnodup (List.nodup_singleton record)).2
  intro entry
  rw [List.mem_filter, beq_iff_eq, List.mem_singleton]
  constructor
  · rintro ⟨hentry, hkey⟩
    exact List.inj_on_of_nodup_map h hentry hmem hkey
  · rintro rfl
    exact ⟨hmem, rfl⟩

/-- An entry that is set takes the place of the one with its key, if that meets the condition. -/
theorem upsert_perm {records : List EntryRecord} (h : (records.map EntryRecord.key).Nodup)
    (new : EntryRecord) {condition : EntryRecord → Bool}
    (hcondition : ∀ record ∈ records, record.key = new.key → condition record = true) :
    (upsert new condition records).Perm
      (new :: records.filter (fun record => !record.key == new.key)) := by
  by_cases hany : records.any (fun record => record.key == new.key) = true
  · rw [upsert, if_pos hany]
    obtain ⟨record, hmem, hkey⟩ := List.any_eq_true.1 hany
    rw [beq_iff_eq] at hkey
    have hone : records.filter (fun record => record.key == new.key) = [record] := by
      rw [← hkey]
      exact filter_key h hmem
    -- the entry with the key is replaced, and the others stay
    refine ((List.filter_append_perm (fun record => record.key == new.key) records).symm.map
      _).trans ?_
    rw [hone, List.map_append]
    have hothers : (records.filter (fun record => !record.key == new.key)).map (fun record =>
        if record.key == new.key && condition record then new else record) =
        records.filter (fun record => !record.key == new.key) := by
      conv_rhs => rw [← List.map_id (records.filter _)]
      apply List.map_congr_left
      intro other hother
      have hne : (other.key == new.key) = false := by simpa using (List.mem_filter.1 hother).2
      simp [hne]
    rw [hothers]
    simp [hkey, hcondition record hmem hkey]
  · rw [upsert, if_neg hany]
    rw [Bool.not_eq_true, List.any_eq_false] at hany
    rw [List.filter_eq_self.2 (by simpa using hany)]

/-- An entry is set, if the one with its key meets the condition. -/
theorem upserted_eq_one {records : List EntryRecord} (h : (records.map EntryRecord.key).Nodup)
    (new : EntryRecord) {condition : EntryRecord → Bool}
    (hcondition : ∀ record ∈ records, record.key = new.key → condition record = true) :
    upserted new condition records = 1 := by
  by_cases hany : records.any (fun record => record.key == new.key) = true
  · rw [upserted, if_pos hany]
    obtain ⟨record, hmem, hkey⟩ := List.any_eq_true.1 hany
    have hcount : records.countP (fun record => record.key == new.key && condition record) =
        records.countP (fun record => record.key == new.key) := by
      apply List.countP_congr
      intro other hother
      simpa using hcondition other hother
    rw [hcount, List.countP_eq_length_filter, ← beq_iff_eq.1 hkey, filter_key h hmem]
    rfl
  · rw [upserted, if_neg hany]

/-- An entry that is set leaves the entries as they are, if the one with its key does not meet the
condition. -/
theorem upsert_self {records : List EntryRecord} (h : (records.map EntryRecord.key).Nodup)
    (new : EntryRecord) (condition : EntryRecord → Bool) {record : EntryRecord}
    (hmem : record ∈ records) (hkey : record.key = new.key)
    (hcondition : condition record = false) :
    upsert new condition records = records ∧ upserted new condition records = 0 := by
  have hany : records.any (fun record => record.key == new.key) = true :=
    List.any_eq_true.2 ⟨record, hmem, beq_iff_eq.2 hkey⟩
  have hnone (other : EntryRecord) (hother : other ∈ records) :
      (other.key == new.key && condition other) = false := by
    by_cases hsame : other.key = new.key
    · rw [List.inj_on_of_nodup_map h hother hmem (hsame.trans hkey.symm), hcondition,
        Bool.and_false]
    · rw [beq_false_of_ne hsame, Bool.false_and]
  rw [upsert, upserted, if_pos hany, if_pos hany]
  constructor
  · conv_rhs => rw [← List.map_id records]
    apply List.map_congr_left
    intro other hother
    rw [hnone other hother]
    rfl
  · rw [List.countP_eq_zero]
    intro other hother
    rw [hnone other hother]
    exact Bool.false_ne_true

/-- Setting a key comes to the same in a database and in memory, if the entry that has the key may
be replaced. -/
theorem SameEntries.set (h : SameEntries clock.started tables.entries table)
    (hnow : clock.now.IsWhole) (key : String) (value : Bytes) {ttl : Duration} {span : Nat}
    (httl : clock.Represents ttl) (hspan : interval? (secondsOf ttl) = some span)
    (condition : EntryRecord → Bool)
    (hcondition : ∀ record ∈ tables.entries, record.key = key → condition record = true) :
    ∃ later, table.set clock.instant key value ttl = some later ∧
      SameEntries clock.started
        (upsert ⟨key, value, storedMicros clock.now + span⟩ condition tables.entries) later ∧
      upserted ⟨key, value, storedMicros clock.now + span⟩ condition tables.entries = 1 := by
  obtain ⟨deadline, hdeadline⟩ := Option.isSome_iff_exists.1 httl.1
  have hset : table.set clock.instant key value ttl = some (table.put ⟨key, value, deadline⟩) := by
    rw [KeyValue.Table.set, hdeadline]
    rfl
  refine ⟨_, hset, ⟨?_, h.distinct.set hset⟩, upserted_eq_one h.keys _ hcondition⟩
  have hnew : EntryRecord.entry ⟨key, value, storedMicros clock.now + span⟩ clock.started =
      ⟨key, value, deadline⟩ := by
    have htime := congrArg Timestamp.nanos (timeOf_storedMicros hnow)
    have hend := Instant.nanos_of_plus? hdeadline
    have hlength := httl.nanos_eq hspan
    simp only [timeOf, Clock.now, Timestamp.plus, Clock.instant] at htime hend
    have hnanos : (1000 * (storedMicros clock.now + span) - clock.started.nanos).toNat =
        deadline.nanos := by
      simp only [Clock.now, Timestamp.plus]
      omega
    rw [EntryRecord.entry, hnanos]
  refine ((upsert_perm h.keys _ hcondition).map _).trans ?_
  rw [List.map_cons, hnew, KeyValue.Table.put]
  exact (h.select _ (fun entry => entry.key != key) fun record => rfl).cons _

/-- The entries of a key within their lifetime in a database are the live one in memory. -/
theorem SameEntries.current (h : SameEntries clock.started tables.entries table)
    (hnow : clock.now.IsWhole) (key : String) :
    (tables.entries.filter
        (fun entry => entry.key == key && storedMicros clock.now < entry.expiresAt) = [] ∧
      table.live? clock.instant key = none) ∨
    ∃ record : EntryRecord,
      tables.entries.filter
        (fun entry => entry.key == key && storedMicros clock.now < entry.expiresAt) = [record] ∧
      table.live? clock.instant key = some (record.entry clock.started) := by
  have hlive := h.select
    (fun entry => entry.key == key && storedMicros clock.now < entry.expiresAt)
    (fun entry => entry.key == key && entry.isLiveAt clock.instant)
    fun record => by rw [record.isLiveAt_entry hnow]; rfl
  rw [h.distinct.filter_live] at hlive
  cases hentry : table.live? clock.instant key with
  | none =>
    rw [hentry] at hlive
    exact .inl ⟨List.map_eq_nil_iff.1 (List.perm_nil.1 hlive), rfl⟩
  | some entry =>
    rw [hentry] at hlive
    obtain ⟨record, hone, rfl⟩ := List.map_eq_singleton_iff.1 (List.perm_singleton.1 hlive)
    exact .inr ⟨record, hone, rfl⟩

/-- Looking up a key comes to the same in a database and in memory. -/
theorem SameEntries.get (h : SameEntries clock.started tables.entries table)
    (hnow : clock.now.IsWhole) {reply : Except StorageError (Option Bytes)}
    (hyields : Yields (storedMicros clock.now) (answerKeyValue (.get key)).run tables reply after) :
    reply = .ok (table.get clock.instant key) ∧ after = tables := by
  cases hyields with
  | ask hexecutes hnext =>
    cases hexecutes with
    | get hfound =>
      rw [KeyValue.Table.get_eq_map_live?]
      rcases h.current hnow key with ⟨hnil, hlive⟩ | ⟨record, hone, hlive⟩
      · rw [hnil, List.perm_nil] at hfound
        subst hfound
        cases hnext
        rw [hlive]
        exact ⟨rfl, rfl⟩
      · rw [hone, List.perm_singleton] at hfound
        subst hfound
        cases hnext
        rw [hlive]
        exact ⟨rfl, rfl⟩

/-- Setting a key unless it has a live value comes to the same in a database and in memory. -/
theorem SameEntries.setAbsent (h : SameEntries clock.started tables.entries table)
    (hnow : clock.now.IsWhole) {value : Bytes} {ttl : Duration} (httl : clock.Represents ttl)
    {reply : Except StorageError Bool}
    (hyields : Yields (storedMicros clock.now)
      (answerKeyValue (.setIfAbsent key value ttl)).run tables reply after) :
    ∃ did later, table.setIfAbsent clock.instant key value ttl = some (did, later) ∧
      reply = .ok did ∧ SameEntries clock.started after.entries later ∧
      after.sessions = tables.sessions := by
  cases hyields with
  | ask hexecutes hnext =>
    cases hexecutes with
    | @setAbsent _ _ _ span hspan =>
      cases hnext
      rw [KeyValue.Table.setIfAbsent, KeyValue.Table.get_eq_map_live?]
      rcases h.current hnow key with ⟨hnil, hlive⟩ | ⟨record, hone, hlive⟩
      · -- the entry that has the key is past its lifetime
        have hpast (record : EntryRecord) (hmem : record ∈ tables.entries)
            (hkey : record.key = key) :
            decide (record.expiresAt ≤ storedMicros clock.now) = true := by
          simpa [hkey] using List.filter_eq_nil_iff.1 hnil record hmem
        obtain ⟨later, hset, hlater, hone⟩ := h.set hnow key value httl hspan
          (fun record => record.expiresAt ≤ storedMicros clock.now) hpast
        refine ⟨true, later, ?_, ?_, hlater, rfl⟩
        · rw [hlive, hset]
          rfl
        · rw [hone]
          rfl
      · -- the entry that has the key is within its lifetime
        have hfound : record ∈ [record] := List.mem_cons_self
        rw [← hone, List.mem_filter, Bool.and_eq_true, beq_iff_eq, decide_eq_true_eq] at hfound
        obtain ⟨hmem, hkey, hcurrent⟩ := hfound
        obtain ⟨hsame, hnone⟩ := upsert_self h.keys ⟨key, value, storedMicros clock.now + span⟩
          (fun record => record.expiresAt ≤ storedMicros clock.now) hmem hkey
          (decide_eq_false (by omega))
        refine ⟨false, table, ?_, ?_, ?_, rfl⟩
        · rw [hlive]
          rfl
        · rw [hnone]
          rfl
        · dsimp only
          rw [hsame]
          exact h

/-- Dropping the entries past their lifetime comes to the same in a database and in memory. -/
theorem SameEntries.purge (h : SameEntries clock.started tables.entries table)
    (hnow : clock.now.IsWhole) {reply : Except StorageError Nat}
    (hyields : Yields (storedMicros clock.now) (answerKeyValue .purge).run tables reply after) :
    reply = .ok (table.purge clock.instant).1 ∧
      SameEntries clock.started after.entries (table.purge clock.instant).2 ∧
      after.sessions = tables.sessions := by
  cases hyields with
  | ask hexecutes hnext =>
    cases hexecutes with
    | purge =>
      cases hnext
      have hkept := h.select (fun record => !(record.expiresAt ≤ storedMicros clock.now))
        (fun entry => entry.isLiveAt clock.instant)
        fun record => by rw [record.isLiveAt_entry hnow, ← decide_not, decide_eq_decide]; omega
      have hcount := List.length_eq_countP_add_countP (l := tables.entries)
        (fun record => record.expiresAt ≤ storedMicros clock.now)
      have hall := h.entries.length_eq
      have hleft := hkept.length_eq
      rw [List.length_map] at hall hleft
      rw [← List.countP_eq_length_filter] at hleft
      simp only [decide_not, Bool.decide_eq_true] at hcount
      refine ⟨congrArg Except.ok ?_, ⟨hkept, List.Pairwise.filter _ h.distinct⟩, rfl⟩
      show tables.entries.countP _ = table.entries.length - (table.entries.filter _).length
      omega

/-- A call to the shared entries gives the same in a database and in memory, and leaves the same in
both. -/
theorem SameEntries.yields (h : SameEntries clock.started tables.entries table)
    (hnow : clock.now.IsWhole) {call : KeyValue.Call} (hcall : call.RepresentedBy clock)
    {reply : Except StorageError call.Value}
    (hyields : Yields (storedMicros clock.now) (answerKeyValue call).run tables reply after) :
    ∃ value later, table.answer clock.instant call = some (value, later) ∧ reply = .ok value ∧
      SameEntries clock.started after.entries later ∧ after.sessions = tables.sessions := by
  cases call with
  | get key =>
    obtain ⟨rfl, rfl⟩ := h.get hnow hyields
    exact ⟨_, table, rfl, rfl, h, rfl⟩
  | set key value ttl =>
    cases hyields with
    | ask hexecutes hnext =>
      cases hexecutes with
      | set hspan =>
        cases hnext
        obtain ⟨later, hset, hlater, -⟩ :=
          h.set hnow key value hcall hspan (fun _ => true) (fun _ _ _ => rfl)
        refine ⟨(), later, ?_, rfl, hlater, rfl⟩
        rw [KeyValue.Table.answer, hset]
        rfl
  | setIfAbsent key value ttl => exact h.setAbsent hnow hcall hyields
  | delete key =>
    cases hyields with
    | ask hexecutes hnext =>
      cases hexecutes with
      | delete =>
        cases hnext
        refine ⟨(), _, rfl, rfl, ⟨?_, h.distinct.erase key⟩, rfl⟩
        exact h.select _ (fun entry => entry.key != key) fun record => rfl
  | purge =>
    obtain ⟨rfl, hlater, hsessions⟩ := h.purge hnow hyields
    exact ⟨_, _, rfl, rfl, hlater, hsessions⟩

/-- A database answers every call to the shared entries whose lifetime can be represented. -/
theorem SameEntries.exists_answer (h : SameEntries clock.started tables.entries table)
    (hnow : clock.now.IsWhole) {call : KeyValue.Call} (hcall : call.RepresentedBy clock) :
    ∃ (reply : Except StorageError call.Value) (after : Tables),
      Yields (storedMicros clock.now) (answerKeyValue call).run tables reply after := by
  cases call with
  | get key =>
    rcases h.current hnow key with ⟨hnil, -⟩ | ⟨record, hone, -⟩
    · exact ⟨_, _, .ask (.get (by rw [hnil])) .done⟩
    · exact ⟨_, _, .ask (.get (by rw [hone])) .done⟩
  | set key value ttl =>
    obtain ⟨-, span, hspan, -⟩ := hcall
    exact ⟨_, _, .ask (.set hspan) .done⟩
  | setIfAbsent key value ttl =>
    obtain ⟨-, span, hspan, -⟩ := hcall
    exact ⟨_, _, .ask (.setAbsent hspan) .done⟩
  | delete key => exact ⟨_, _, .ask .delete .done⟩
  | purge => exact ⟨_, _, .ask .purge .done⟩

end Sql

end Gatehouse
