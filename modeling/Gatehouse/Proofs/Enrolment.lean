import Gatehouse.Proofs.Directory
import Mathlib.Data.List.Dedup
import Mathlib.Data.List.Induction
import Mathlib.Data.List.Nodup
import Mathlib.Data.List.Perm.Subperm
import Mathlib.Data.Option.Basic

/-!
# How a directory is filled

Staff who are added and customers who sign in, one after another, in a directory that is empty at
first. Ids come from one counter, so they are the numbers from one on, each given once, as long as
there are ids left (`ids_perm`, `nodup_ids`). Main statement (`customers_identified`): every uid at
the provider is one customer with one id, and the row of the customer is what the sign-ins with the
uid amount to.
-/

namespace Gatehouse.Directory

/-- Somebody comes into a directory. -/
inductive Enrolment where
  /-- A member of staff is added. -/
  | staff (username email passwordHash : String) (role : Role)
  /-- The customer of an identity is added or brought up to date. -/
  | customer (identity : Identity)
  deriving DecidableEq

namespace Enrolment

/-- The directory when somebody has come into it. -/
def on (table : Table) : Enrolment → Table
  | staff username email passwordHash role =>
    (table.addStaff username email passwordHash role).2
  | customer identity => (table.upsertCustomer identity).2

/-- The identity of a customer. -/
def identity? : Enrolment → Option Identity
  | staff _ _ _ _ => none
  | customer identity => some identity

end Enrolment

/-- The directory after enrolments, empty at first. -/
def enrolled (enrolments : List Enrolment) : Table := enrolments.foldl Enrolment.on {}

/-- The identities with a uid among enrolments, in their order. -/
def identitiesOf (uid : String) (enrolments : List Enrolment) : List Identity :=
  (enrolments.filterMap Enrolment.identity?).filter (fun identity => identity.providerUid == uid)

/-- The uids that are seen in enrolments. -/
def seen (enrolments : List Enrolment) : List String :=
  (enrolments.filterMap Enrolment.identity?).map Identity.providerUid

/-- How many ids enrolments take: one for each member of staff, and one for each different uid. -/
def idsTaken (enrolments : List Enrolment) : Nat :=
  enrolments.countP (fun enrolment => enrolment.identity?.isNone) + (seen enrolments).dedup.length

/-- The number of ids, which have 64 bits. -/
def idCount : Nat := 0x10000000000000000

/-- A customer is what the identities of a uid amount to: the name is that of the latest, and the
mail address that of the latest that has one. -/
structure Customer.Sums (customer : Customer) (uid : String) (identities : List Identity) :
    Prop where
  /-- The customer has the uid. -/
  uid_eq : customer.providerUid = some uid
  /-- The name is that of the latest identity. -/
  name_eq : identities.getLast?.map Identity.name = some customer.name
  /-- The mail address is the latest that is given. -/
  email_eq : customer.email = (identities.filterMap Identity.email).getLast?

variable {table : Table} {enrolments earlier : List Enrolment} {enrolment : Enrolment}
  {identity : Identity} {uid : String}

/-! ## What is counted -/

/-- One more enrolment is made in the directory after the others. -/
theorem enrolled_concat : enrolled (enrolments ++ [enrolment]) =
    enrolment.on (enrolled enrolments) := by
  simp [enrolled]

/-- A member of staff has no identity. -/
theorem identitiesOf_staff {username email passwordHash : String} {role : Role} :
    identitiesOf uid (enrolments ++ [.staff username email passwordHash role]) =
      identitiesOf uid enrolments := by
  simp [identitiesOf, Enrolment.identity?]

/-- The identity of a customer is the last one with its uid. -/
theorem identitiesOf_customer_self :
    identitiesOf identity.providerUid (enrolments ++ [.customer identity]) =
      identitiesOf identity.providerUid enrolments ++ [identity] := by
  simp [identitiesOf, Enrolment.identity?]

/-- The identity of a customer has no other uid. -/
theorem identitiesOf_customer_of_ne (h : identity.providerUid ≠ uid) :
    identitiesOf uid (enrolments ++ [.customer identity]) = identitiesOf uid enrolments := by
  simp [identitiesOf, Enrolment.identity?, h]

/-- The uid of a customer is seen after the others. -/
theorem seen_customer : seen (enrolments ++ [.customer identity]) =
    seen enrolments ++ [identity.providerUid] := by
  simp [seen, Enrolment.identity?]

/-- A uid that is not seen has no identities. -/
theorem identitiesOf_of_notMem_seen (h : uid ∉ seen enrolments) :
    identitiesOf uid enrolments = [] := by
  refine List.filter_eq_nil_iff.2 fun identity hmem heq => h ?_
  rw [← beq_iff_eq.1 heq]
  exact List.mem_map_of_mem hmem

/-- Earlier enrolments take no more ids. -/
theorem idsTaken_mono (h : earlier <+: enrolments) : idsTaken earlier ≤ idsTaken enrolments := by
  have hseen : (seen earlier).dedup ⊆ (seen enrolments).dedup := by
    intro uid huid
    rw [List.mem_dedup] at huid ⊢
    exact ((h.sublist.filterMap _).map _).subset huid
  have hlength := (List.subperm_of_subset (List.nodup_dedup _) hseen).length_le
  exact Nat.add_le_add h.sublist.countP_le hlength

/-! ## Ids -/

/-- As long as there are ids left, different numbers are different ids. -/
theorem eq_of_ofNat_eq {first second : Nat} (hfirst : 1 ≤ first ∧ first ≤ idCount)
    (hsecond : 1 ≤ second ∧ second ≤ idCount) (h : Int64.ofNat first = Int64.ofNat second) :
    first = second := by
  have hbits := congrArg (fun id => id.toBitVec.toNat) h
  simp only [Int64.toBitVec_ofNat', BitVec.toNat_ofNat] at hbits
  rw [idCount] at hfirst hsecond
  omega

namespace Table

/-- The ids of the staff and of the customers. -/
def ids (table : Table) : List PrincipalId :=
  table.staff.map Staff.id ++ table.customers.map Customer.id

/-- How many staff and customers there are. -/
def size (table : Table) : Nat := table.staff.length + table.customers.length

/-- The ids of a directory are the numbers from one on, each given once. -/
structure Numbered (table : Table) : Prop where
  /-- The id that was given last is the number of ids. -/
  lastId_eq : table.lastId = Int64.ofNat table.size
  /-- The ids are the numbers up to it. -/
  ids_perm : table.ids.Perm ((List.range' 1 table.size).map Int64.ofNat)

/-- A directory with one more id, which is the next, stays numbered. -/
theorem Numbered.grown {after : Table} (h : table.Numbered)
    (hlast : after.lastId = table.lastId + 1) (hsize : after.size = table.size + 1)
    (hids : after.ids.Perm (table.ids ++ [table.lastId + 1])) : after.Numbered := by
  have hnext : table.lastId + 1 = Int64.ofNat (table.size + 1) := by
    rw [h.lastId_eq, Int64.ofNat_add]
    rfl
  refine ⟨by rw [hlast, hsize, hnext], hids.trans ?_⟩
  rw [hsize, List.range'_1_concat, List.map_append, List.map_singleton, Nat.add_comm 1, ← hnext]
  exact h.ids_perm.append_right _

/-- As long as there are ids left, no id is given twice. -/
theorem Numbered.nodup_ids (h : table.Numbered) (hleft : table.size ≤ idCount) :
    table.ids.Nodup := by
  refine h.ids_perm.nodup_iff.2 (List.Nodup.map_on ?_ List.nodup_range')
  intro first hfirst second hsecond
  rw [List.mem_range'_1] at hfirst hsecond
  exact eq_of_ofNat_eq ⟨hfirst.1, by omega⟩ ⟨hsecond.1, by omega⟩

/-! ## Customers -/

/-- A customer that is brought up to date with an identity. -/
def updated (known : Customer) (identity : Identity) : Customer :=
  { known with name := identity.name, email := identity.email.or known.email }

/-- An identity whose uid is known brings the customer with the uid up to date; any other one adds a
customer with the next id. -/
theorem upsertCustomer_cases (table : Table) (identity : Identity) :
    (∃ known ∈ table.customers, known.providerUid = some identity.providerUid ∧
        table.upsertCustomer identity = (updated known identity, { table with
          customers := table.customers.map
            (fun c => if c.id == known.id then updated known identity else c) })) ∨
      (∀ c ∈ table.customers, c.providerUid ≠ some identity.providerUid) ∧
        table.upsertCustomer identity =
          (⟨table.lastId + 1, some identity.providerUid, identity.name, identity.email⟩,
            { table with
              customers := table.customers ++
                [⟨table.lastId + 1, some identity.providerUid, identity.name, identity.email⟩]
              lastId := table.lastId + 1 }) := by
  rw [upsertCustomer]
  split
  · rename_i known hknown
    refine .inl ⟨known, List.mem_of_find?_eq_some hknown, ?_, rfl⟩
    simpa using List.find?_some hknown
  · rename_i hnone
    refine .inr ⟨fun c hc huid => ?_, rfl⟩
    exact List.find?_eq_none.1 hnone c hc (by simp [huid])

/-- Bringing a customer up to date leaves the ids of all customers. -/
theorem map_id_updated (customers : List Customer) (known : Customer) (identity : Identity) :
    (customers.map (fun c => if c.id == known.id then updated known identity else c)).map
      Customer.id = customers.map Customer.id := by
  rw [List.map_map]
  refine List.map_congr_left fun c _ => ?_
  rw [Function.comp]
  split
  · rename_i heq
    exact (beq_iff_eq.1 heq).symm
  · rfl

/-- Where no two customers share an id, a customer is found under the customer's own. -/
theorem customer?_of_nodup {customer : Customer} (h : (table.customers.map Customer.id).Nodup)
    (hmem : customer ∈ table.customers) : table.customer? customer.id = some customer :=
  find?_of_nodup h hmem

/-- The id of the customer with a uid. -/
def idOf (table : Table) (uid : String) : PrincipalId :=
  ((table.customers.find? (fun c => c.providerUid == some uid)).map Customer.id).getD 0

/-- Where no two customers share a uid, the id that goes with a uid is that of its customer. -/
theorem idOf_eq {customer : Customer} (h : (table.customers.map Customer.providerUid).Nodup)
    (hmem : customer ∈ table.customers) (huid : customer.providerUid = some uid) :
    table.idOf uid = customer.id := by
  rw [idOf, ← huid, find?_of_nodup h hmem]
  rfl

/-- Whoever comes into a numbered directory leaves it numbered. -/
theorem Numbered.on (h : table.Numbered) (enrolment : Enrolment) :
    (enrolment.on table).Numbered := by
  cases enrolment with
  | staff username email passwordHash role =>
    refine h.grown rfl ?_ ?_
    · simp only [size, Enrolment.on, addStaff, List.length_append, List.length_singleton]
      omega
    · simp only [ids, Enrolment.on, addStaff, List.map_append, List.map_singleton,
        List.append_assoc]
      exact List.perm_append_comm.append_left _
  | customer identity =>
    rcases table.upsertCustomer_cases identity with ⟨known, -, -, heq⟩ | ⟨-, heq⟩
    · have hids : (Enrolment.on table (.customer identity)).ids = table.ids := by
        simp only [ids, Enrolment.on, heq, map_id_updated]
      have hsize : (Enrolment.on table (.customer identity)).size = table.size := by
        simp only [size, Enrolment.on, heq, List.length_map]
      refine ⟨?_, ?_⟩
      · rw [hsize, ← h.lastId_eq, Enrolment.on, heq]
      · rw [hids, hsize]
        exact h.ids_perm
    · refine h.grown ?_ ?_ ?_
      · rw [Enrolment.on, heq]
      · simp only [size, Enrolment.on, heq, List.length_append, List.length_singleton]
        omega
      · simp only [ids, Enrolment.on, heq, List.map_append, List.map_singleton,
          List.append_assoc]
        exact .refl _

/-- Who is a customer stays one, with the same id and the same uid. -/
theorem exists_customer_on {customer : Customer} (hmem : customer ∈ table.customers)
    (hids : (table.customers.map Customer.id).Nodup) (enrolment : Enrolment) :
    ∃ later ∈ (enrolment.on table).customers,
      later.id = customer.id ∧ later.providerUid = customer.providerUid := by
  cases enrolment with
  | staff => exact ⟨customer, hmem, rfl, rfl⟩
  | customer identity =>
    rcases table.upsertCustomer_cases identity with ⟨known, hknown, -, heq⟩ | ⟨-, heq⟩
    · rw [Enrolment.on, heq]
      refine ⟨_, List.mem_map_of_mem hmem, ?_⟩
      split
      · rename_i hid
        have hself := List.inj_on_of_nodup_map hids hmem hknown (beq_iff_eq.1 hid)
        subst hself
        exact ⟨rfl, rfl⟩
      · exact ⟨rfl, rfl⟩
    · rw [Enrolment.on, heq]
      exact ⟨customer, List.mem_append_left _ hmem, rfl, rfl⟩

end Table

/-! ## What a customer amounts to -/

/-- The customer of an identity that is the first with its uid. -/
theorem Customer.sums_singleton (id : PrincipalId) (identity : Identity) :
    Customer.Sums ⟨id, some identity.providerUid, identity.name, identity.email⟩
      identity.providerUid [identity] := by
  refine ⟨rfl, rfl, ?_⟩
  rcases hemail : identity.email with _ | email <;> simp [hemail]

/-- A customer who is brought up to date amounts to one identity more. -/
theorem Customer.Sums.updated {customer : Customer} {identities : List Identity}
    (h : customer.Sums uid identities) (identity : Identity) :
    (Table.updated customer identity).Sums uid (identities ++ [identity]) := by
  refine ⟨h.uid_eq, ?_, ?_⟩
  · rw [List.getLast?_concat]
    rfl
  · rw [List.filterMap_append, List.getLast?_append, ← h.email_eq, Table.updated]
    rcases hemail : identity.email with _ | email <;> simp [hemail]

/-- What enrolments leave behind in a directory. -/
structure Kept (enrolments : List Enrolment) (table : Table) : Prop where
  /-- The ids are the numbers from one on. -/
  numbered : table.Numbered
  /-- Everybody who was added to the staff is there. -/
  staff_length : table.staff.length =
    enrolments.countP (fun enrolment => enrolment.identity?.isNone)
  /-- No two customers share a uid. -/
  nodup_uids : (table.customers.map Customer.providerUid).Nodup
  /-- Every customer is what the identities with some uid amount to. -/
  sums : ∀ customer ∈ table.customers, ∃ uid ∈ seen enrolments,
    customer.Sums uid (identitiesOf uid enrolments)
  /-- Every uid that was seen has a customer. -/
  found : ∀ uid ∈ seen enrolments, ∃ customer ∈ table.customers, customer.providerUid = some uid

namespace Kept

/-- The customers have the uids that were seen, each once. -/
theorem uids_perm (h : Kept enrolments table) :
    (table.customers.map Customer.providerUid).Perm ((seen enrolments).dedup.map some) := by
  have hnodup : ((seen enrolments).dedup.map some).Nodup :=
    (List.nodup_dedup _).map (Option.some_injective _)
  refine (List.perm_ext_iff_of_nodup h.nodup_uids hnodup).2 fun uid? => ?_
  simp only [List.mem_map, List.mem_dedup]
  constructor
  · rintro ⟨customer, hmem, rfl⟩
    obtain ⟨uid, huid, hsums⟩ := h.sums customer hmem
    exact ⟨uid, huid, hsums.uid_eq.symm⟩
  · rintro ⟨uid, huid, rfl⟩
    exact h.found uid huid

/-- There are as many customers as uids. -/
theorem customers_length (h : Kept enrolments table) :
    table.customers.length = (seen enrolments).dedup.length := by
  simpa using h.uids_perm.length_eq

/-- There are as many rows as ids taken. -/
theorem size_eq (h : Kept enrolments table) : table.size = idsTaken enrolments := by
  rw [Table.size, h.staff_length, h.customers_length, idsTaken]

/-- As long as there are ids left, no customer shares an id with staff or another customer. -/
theorem nodup_ids (h : Kept enrolments table) (hleft : idsTaken enrolments ≤ idCount) :
    table.ids.Nodup :=
  h.numbered.nodup_ids (h.size_eq ▸ hleft)

/-- As long as there are ids left, no two customers share an id. -/
theorem nodup_customerIds (h : Kept enrolments table) (hleft : idsTaken enrolments ≤ idCount) :
    (table.customers.map Customer.id).Nodup :=
  (h.nodup_ids hleft).of_append_right

/-- A member of staff is added to a directory that enrolments left behind. -/
theorem staff (h : Kept enrolments table) (username email passwordHash : String) (role : Role) :
    Kept (enrolments ++ [.staff username email passwordHash role])
      (Enrolment.on table (.staff username email passwordHash role)) := by
  have hseen : seen (enrolments ++ [.staff username email passwordHash role]) =
      seen enrolments := by
    simp [seen, Enrolment.identity?]
  constructor
  case numbered => exact h.numbered.on _
  case staff_length =>
    simp [Enrolment.on, Table.addStaff, h.staff_length, Enrolment.identity?]
  case nodup_uids => exact h.nodup_uids
  case sums =>
    intro customer hmem
    obtain ⟨uid, huid, hsums⟩ := h.sums customer hmem
    refine ⟨uid, hseen ▸ huid, ?_⟩
    rw [identitiesOf_staff]
    exact hsums
  case found =>
    rw [hseen]
    exact h.found

/-- The row of an identity is what the identities with its uid amount to, this one included. -/
theorem sums_upsertCustomer (h : Kept enrolments table) (identity : Identity) :
    (table.upsertCustomer identity).1.Sums identity.providerUid
      (identitiesOf identity.providerUid enrolments ++ [identity]) := by
  rcases table.upsertCustomer_cases identity with ⟨known, hknown, huid, heq⟩ | ⟨hnone, heq⟩
  · obtain ⟨uid, -, hsums⟩ := h.sums known hknown
    have hsame : uid = identity.providerUid :=
      Option.some_injective _ (hsums.uid_eq.symm.trans huid)
    rw [heq, ← hsame]
    exact hsums.updated identity
  · have hnew : identity.providerUid ∉ seen enrolments := by
      intro hseen
      obtain ⟨customer, hmem, huid⟩ := h.found _ hseen
      exact hnone customer hmem huid
    rw [heq, identitiesOf_of_notMem_seen hnew]
    exact Customer.sums_singleton _ identity

/-- Once a customer signed in, the others are those who were there with other uids. -/
theorem mem_customers_upsertCustomer (h : Kept enrolments table) {customer : Customer}
    (hmem : customer ∈ (table.upsertCustomer identity).2.customers) :
    customer = (table.upsertCustomer identity).1 ∨
      customer ∈ table.customers ∧ customer.providerUid ≠ some identity.providerUid := by
  rcases table.upsertCustomer_cases identity with ⟨known, hknown, huid, heq⟩ | ⟨hnone, heq⟩
  · rw [heq] at hmem ⊢
    obtain ⟨before, hbefore, rfl⟩ := List.mem_map.1 hmem
    split
    · exact .inl rfl
    · rename_i hid
      refine .inr ⟨hbefore, fun hsame => hid (beq_iff_eq.2 ?_)⟩
      -- one customer has the uid, and that is the known one
      exact congrArg Customer.id
        (List.inj_on_of_nodup_map h.nodup_uids hbefore hknown (hsame.trans huid.symm))
  · rw [heq] at hmem ⊢
    rcases List.mem_append.1 hmem with hbefore | hnew
    · exact .inr ⟨hbefore, hnone customer hbefore⟩
    · exact .inl (List.mem_singleton.1 hnew)

/-- Once a customer signed in, no two customers share a uid. -/
theorem nodup_uids_upsertCustomer (h : Kept enrolments table)
    (hleft : idsTaken enrolments ≤ idCount) (identity : Identity) :
    ((table.upsertCustomer identity).2.customers.map Customer.providerUid).Nodup := by
  rcases table.upsertCustomer_cases identity with ⟨known, hknown, huid, heq⟩ | ⟨hnone, heq⟩
  · have hids := h.nodup_customerIds hleft
    have hsame : ∀ customer ∈ table.customers, (Customer.providerUid ∘ fun c =>
        if c.id == known.id then Table.updated known identity else c) customer =
          customer.providerUid := by
      intro customer hmem
      rw [Function.comp]
      split
      · rename_i hid
        -- one customer has the id, and that is the known one
        rw [List.inj_on_of_nodup_map hids hmem hknown (beq_iff_eq.1 hid)]
        rfl
      · rfl
    rw [heq, List.map_map, List.map_congr_left hsame]
    exact h.nodup_uids
  · rw [heq, List.map_append, List.map_singleton]
    refine List.nodup_append.2 ⟨h.nodup_uids, List.nodup_singleton _, ?_⟩
    intro uid? hold other? hnew
    obtain ⟨customer, hmem, rfl⟩ := List.mem_map.1 hold
    rw [List.mem_singleton.1 hnew]
    exact hnone customer hmem

/-- A customer signs in to a directory that enrolments left behind. -/
theorem customer (h : Kept enrolments table) (hleft : idsTaken enrolments ≤ idCount)
    (identity : Identity) :
    Kept (enrolments ++ [.customer identity]) (Enrolment.on table (.customer identity)) := by
  have hself : identity.providerUid ∈ seen (enrolments ++ [.customer identity]) :=
    seen_customer ▸ List.mem_append_right _ (List.mem_singleton_self _)
  have hsums := h.sums_upsertCustomer identity
  constructor
  case numbered => exact h.numbered.on _
  case staff_length =>
    rw [Enrolment.on, Table.upsertCustomer_eq]
    simp [h.staff_length, Enrolment.identity?]
  case nodup_uids => exact h.nodup_uids_upsertCustomer hleft identity
  case sums =>
    intro customer hmem
    rcases h.mem_customers_upsertCustomer hmem with rfl | ⟨hbefore, hne⟩
    · exact ⟨_, hself, identitiesOf_customer_self ▸ hsums⟩
    · obtain ⟨uid, huid, hother⟩ := h.sums customer hbefore
      refine ⟨uid, seen_customer ▸ List.mem_append_left _ huid, ?_⟩
      rw [identitiesOf_customer_of_ne fun heq => hne (by rw [hother.uid_eq, heq])]
      exact hother
  case found =>
    intro uid huid
    rw [seen_customer, List.mem_append, List.mem_singleton] at huid
    rcases huid with huid | rfl
    · obtain ⟨customer, hmem, heq⟩ := h.found uid huid
      obtain ⟨later, hlater, -, hsame⟩ :=
        Table.exists_customer_on hmem (h.nodup_customerIds hleft) (.customer identity)
      exact ⟨later, hlater, hsame.trans heq⟩
    · exact ⟨_, table.upsertCustomer_mem identity, hsums.uid_eq⟩

/-- Whoever comes into a directory that enrolments left behind is one enrolment more. -/
theorem on (h : Kept enrolments table) (hleft : idsTaken enrolments ≤ idCount)
    (enrolment : Enrolment) : Kept (enrolments ++ [enrolment]) (enrolment.on table) := by
  cases enrolment with
  | staff username email passwordHash role => exact h.staff username email passwordHash role
  | customer identity => exact h.customer hleft identity

end Kept

/-- The directory that is empty at first is kept as it is filled. -/
theorem kept_enrolled (hleft : idsTaken enrolments ≤ idCount) :
    Kept enrolments (enrolled enrolments) := by
  induction enrolments using List.reverseRecOn with
  | nil =>
    exact ⟨⟨rfl, .refl _⟩, rfl, List.nodup_nil, fun _ hmem => absurd hmem List.not_mem_nil,
      fun _ hmem => absurd hmem List.not_mem_nil⟩
  | append_singleton enrolments enrolment ih =>
    have hbefore := Nat.le_trans (idsTaken_mono (List.prefix_append enrolments [enrolment])) hleft
    rw [enrolled_concat]
    exact (ih hbefore).on hbefore enrolment

/-- Who was a customer after earlier enrolments stays one, with the same id and the same uid. -/
theorem exists_customer_of_prefix (hleft : idsTaken enrolments ≤ idCount)
    (h : earlier <+: enrolments) {customer : Customer}
    (hmem : customer ∈ (enrolled earlier).customers) :
    ∃ later ∈ (enrolled enrolments).customers,
      later.id = customer.id ∧ later.providerUid = customer.providerUid := by
  obtain ⟨rest, rfl⟩ := h
  induction rest using List.reverseRecOn with
  | nil => exact ⟨customer, by rwa [List.append_nil], rfl, rfl⟩
  | append_singleton rest enrolment ih =>
    rw [← List.append_assoc] at hleft ⊢
    have hbefore :=
      Nat.le_trans (idsTaken_mono (List.prefix_append (earlier ++ rest) [enrolment])) hleft
    have hids := (kept_enrolled hbefore).nodup_customerIds hbefore
    obtain ⟨between, hbetween, hid, huid⟩ := ih hbefore
    obtain ⟨later, hlater, hid', huid'⟩ := Table.exists_customer_on hbetween hids enrolment
    exact ⟨later, enrolled_concat ▸ hlater, hid'.trans hid, huid'.trans huid⟩

/-! ## Identities -/

/-- Uids have ids under which the customers of a directory are found as they ought to be. -/
structure Identified (idOf : String → PrincipalId) (enrolments : List Enrolment)
    (table : Table) : Prop where
  /-- There are as many customers as different uids. -/
  count : table.customers.length = (seen enrolments).dedup.length
  /-- Under the id of a uid is the customer that the identities with the uid amount to. -/
  row : ∀ uid ∈ seen enrolments, ∃ customer, table.customer? (idOf uid) = some customer ∧
    customer.Sums uid (identitiesOf uid enrolments)
  /-- Every customer has the id of a uid that was seen. -/
  id_eq : ∀ customer ∈ table.customers, ∃ uid ∈ seen enrolments,
    customer.providerUid = some uid ∧ customer.id = idOf uid
  /-- Everybody who was added to the staff is there. -/
  staff_length : table.staff.length =
    enrolments.countP (fun enrolment => enrolment.identity?.isNone)
  /-- No customer has the id of a member of staff. -/
  id_ne : ∀ customer ∈ table.customers, ∀ member ∈ table.staff, customer.id ≠ member.id

/-- In a directory that enrolments left behind, customers are identified by the ids they have
later on. -/
theorem Kept.identified (h : Kept earlier table) (hleft : idsTaken earlier ≤ idCount)
    {idOf : String → PrincipalId}
    (hid : ∀ customer ∈ table.customers, ∀ uid, customer.providerUid = some uid →
      idOf uid = customer.id) : Identified idOf earlier table := by
  constructor
  case count => exact h.customers_length
  case row =>
    intro uid huid
    obtain ⟨customer, hmem, heq⟩ := h.found uid huid
    obtain ⟨other, hother, hsums⟩ := h.sums customer hmem
    have hsame : other = uid := Option.some_injective _ (hsums.uid_eq.symm.trans heq)
    refine ⟨customer, ?_, hsame ▸ hsums⟩
    rw [hid customer hmem uid heq]
    exact Table.customer?_of_nodup (h.nodup_customerIds hleft) hmem
  case id_eq =>
    intro customer hmem
    obtain ⟨uid, huid, hsums⟩ := h.sums customer hmem
    exact ⟨uid, huid, hsums.uid_eq, (hid customer hmem uid hsums.uid_eq).symm⟩
  case staff_length => exact h.staff_length
  case id_ne =>
    intro customer hcustomer member hmember heq
    exact (List.nodup_append.1 (h.nodup_ids hleft)).2.2 _ (List.mem_map_of_mem hmember) _
      (List.mem_map_of_mem hcustomer) heq.symm

/-- Every uid at the provider is one customer with one id. As staff are added and customers sign in,
in a directory that is empty at first and as long as there are ids left: there are at every time as
many customers as uids that were seen; under the id of a uid is a customer with the name of the
latest identity and the latest mail address that was given; no two uids and no member of staff
share an id; and every sign-in gives the row that is under the id of its uid from then on. -/
theorem customers_identified (enrolments : List Enrolment)
    (hleft : idsTaken enrolments ≤ idCount) :
    ∃ idOf : String → PrincipalId,
      (∀ first ∈ seen enrolments, ∀ second ∈ seen enrolments,
        idOf first = idOf second → first = second) ∧
      (∀ earlier, earlier <+: enrolments → Identified idOf earlier (enrolled earlier)) ∧
      ∀ earlier identity, earlier ++ [.customer identity] <+: enrolments →
        (enrolled (earlier ++ [.customer identity])).customer? (idOf identity.providerUid) =
          some ((enrolled earlier).upsertCustomer identity).1 := by
  have hkept := kept_enrolled hleft
  have hids := hkept.nodup_customerIds hleft
  -- the ids are those in the last directory, and whoever is in an earlier one is in the last
  have hid : ∀ earlier, earlier <+: enrolments → ∀ customer ∈ (enrolled earlier).customers,
      ∀ uid, customer.providerUid = some uid → (enrolled enrolments).idOf uid = customer.id := by
    intro earlier hearlier customer hmem uid huid
    obtain ⟨later, hlater, hsame, hsame'⟩ := exists_customer_of_prefix hleft hearlier hmem
    rw [Table.idOf_eq hkept.nodup_uids hlater (hsame'.trans huid), hsame]
  refine ⟨(enrolled enrolments).idOf, ?_, ?_, ?_⟩
  · intro first hfirst second hsecond heq
    obtain ⟨customer, hmem, huid⟩ := hkept.found first hfirst
    obtain ⟨other, hother, huid'⟩ := hkept.found second hsecond
    rw [Table.idOf_eq hkept.nodup_uids hmem huid,
      Table.idOf_eq hkept.nodup_uids hother huid'] at heq
    have hsame := List.inj_on_of_nodup_map hids hmem hother heq
    exact Option.some_injective _ (huid.symm.trans ((congrArg _ hsame).trans huid'))
  · intro earlier hearlier
    have hless := Nat.le_trans (idsTaken_mono hearlier) hleft
    exact (kept_enrolled hless).identified hless (hid earlier hearlier)
  · intro earlier identity hearlier
    have hless := Nat.le_trans (idsTaken_mono hearlier) hleft
    have hbefore :=
      Nat.le_trans (idsTaken_mono (List.prefix_append earlier [.customer identity])) hless
    have hmem : ((enrolled earlier).upsertCustomer identity).1 ∈
        (enrolled (earlier ++ [.customer identity])).customers := by
      rw [enrolled_concat]
      exact (enrolled earlier).upsertCustomer_mem identity
    rw [hid _ hearlier _ hmem _ ((kept_enrolled hbefore).sums_upsertCustomer identity).uid_eq]
    exact Table.customer?_of_nodup ((kept_enrolled hless).nodup_customerIds hless) hmem

/-- Two customers and a member of staff; one customer signs in again, without a mail address. -/
def plainEnrolments : List Enrolment :=
  [.customer ⟨"u1", "Aki", some "aki@example.com"⟩, .staff "hana" "hana@example.com" "" .admin,
    .customer ⟨"u2", "Ren", none⟩, .customer ⟨"u1", "Akiko", none⟩]

/-- Plain enrolments take three ids, and the customer who signs in twice is one customer, with the
later name and the earlier mail address. -/
theorem customers_identified_plain :
    idsTaken plainEnrolments ≤ idCount ∧
      ∃ idOf : String → PrincipalId, idOf "u1" ≠ idOf "u2" ∧
        (enrolled plainEnrolments).customer? (idOf "u1") =
          some ⟨1, some "u1", "Akiko", some "aki@example.com"⟩ := by
  have hleft : idsTaken plainEnrolments ≤ idCount := by decide +kernel
  obtain ⟨idOf, hne, hrow, hgiven⟩ := customers_identified plainEnrolments hleft
  refine ⟨hleft, idOf, fun heq => ?_, ?_⟩
  · exact absurd (hne "u1" (by decide) "u2" (by decide) heq) (by decide)
  · exact hgiven (plainEnrolments.take 3) ⟨"u1", "Akiko", none⟩ List.prefix_rfl

end Gatehouse.Directory
