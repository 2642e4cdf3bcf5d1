import Gatehouse.Directory

/-!
# What writes to the directory change

How each call changes the rows, the grants and the contexts that the directory gives. A write that
names a member of staff touches nobody else. Main statements: what a member's row becomes
(`staff?_changeStaff`), which grants there are after a grant and after a withdrawal
(`grantStores_cases`, `mem_grants_revokeStores`), who is found under a name while the staff ascend
(`Ascending.staffNamed?_eq_some_iff`), as they do after every call (`Ascending.answer`), and that a
call changes no context but that of the principal it names (`context?_answer`,
`context?_upsertCustomer`).
-/

namespace Gatehouse.Directory

/-- The member of staff whom a call writes to. -/
def Call.target? : Call → Option PrincipalId
  | setPasswordHash id _ => some id
  | setRole id _ => some id
  | setActive id _ => some id
  | grantStores id _ => some id
  | revokeStores id _ => some id
  | _ => none

namespace Table

variable {table : Table} {id other : PrincipalId}

/-- The context that the directory gives for a principal. -/
def context? (table : Table) (kind : PrincipalKind) (id : PrincipalId) : Option Context :=
  match kind with
  | .staff =>
    ((table.staff? id).filter (fun member => member.isActive)).map (fun member =>
      ⟨member.id, .staff, member.username, some member.role,
        table.storeList member.id member.role⟩)
  | .customer =>
    (table.customer? id).map (fun customer =>
      ⟨customer.id, .customer, customer.name, none, .empty⟩)

/-! ## Rows -/

/-- A member of staff is found under the member's own id. -/
theorem staff?_id {staff : Staff} (h : table.staff? id = some staff) : staff.id = id := by
  simpa using List.find?_some h

/-- A context is given for the staff who are active. -/
theorem isSome_context?_staff :
    (table.context? .staff id).isSome ↔
      ∃ staff, table.staff? id = some staff ∧ staff.isActive = true := by
  rw [context?, Option.isSome_map, Option.isSome_iff_exists]
  simp only [Option.filter_eq_some_iff]

/-- A context is given for every customer. -/
theorem isSome_context?_customer :
    (table.context? .customer id).isSome ↔ (table.customer? id).isSome := by
  rw [context?, Option.isSome_map]

/-- A customer is found under the customer's own id. -/
theorem customer?_id {customer : Customer} (h : table.customer? id = some customer) :
    customer.id = id := by
  simpa using List.find?_some h

/-- A change of a member of staff changes the row of that member and of nobody else. -/
theorem staff?_changeStaff {change : Staff → Staff}
    (hchange : ∀ member, (change member).id = member.id) :
    (table.changeStaff id change).2.staff? other =
      (table.staff? other).map
        (fun member => if member.id = id then change member else member) := by
  rw [changeStaff]
  rcases hfound : table.staff? id with _ | staff
  · rcases hother : table.staff? other with _ | member
    · rfl
    -- a member who is found elsewhere is not the one that is missing
    · have hne : member.id ≠ id := by
        rintro rfl
        rw [staff?_id hother, hother] at hfound
        exact absurd hfound (by simp)
      simp [hne]
  -- a change keeps ids, so the search finds the same place in the changed list
  · have hkey : ((fun member : Staff => member.id == other) ∘
        fun member => if member.id = id then change member else member) =
        fun member => member.id == other := by
      funext member
      simp only [Function.comp]
      split
      · rw [hchange]
      · rfl
    simp only [staff?, List.find?_map, beq_iff_eq]
    rw [hkey]

/-- A change of a member of staff leaves the rows of everybody else as they were. -/
theorem staff?_changeStaff_of_ne {change : Staff → Staff}
    (hchange : ∀ member, (change member).id = member.id) (hother : other ≠ id) :
    (table.changeStaff id change).2.staff? other = table.staff? other := by
  rw [staff?_changeStaff hchange]
  rcases hfound : table.staff? other with _ | member
  · rfl
  · rw [Option.map_some, if_neg (by rwa [staff?_id hfound])]

/-- What a change of a member of staff leaves as it is in the member's row, it leaves as it is in
all rows. -/
theorem map_staff?_changeStaff {α : Type} {field : Staff → α} {change : Staff → Staff}
    (hchange : ∀ member, (change member).id = member.id)
    (hfield : ∀ member, field (change member) = field member) :
    ((table.changeStaff id change).2.staff? other).map field = (table.staff? other).map field := by
  rw [staff?_changeStaff hchange, Option.map_map]
  refine Option.map_congr ?_
  intro member _
  rw [Function.comp]
  split
  · exact hfield member
  · rfl

/-- A change of a member of staff who is there succeeds. -/
theorem changeStaff_of_found {staff : Staff} (h : table.staff? id = some staff)
    (change : Staff → Staff) :
    table.changeStaff id change = (.ok (), { table with
      staff := table.staff.map fun member =>
        if member.id == id then change member else member }) := by
  rw [changeStaff, h]

/-- A change of a member of staff leaves everything but the staff as it was. -/
theorem changeStaff_eq (table : Table) (id : PrincipalId) (change : Staff → Staff) :
    (table.changeStaff id change).2 =
      { table with staff := (table.changeStaff id change).2.staff } := by
  rw [changeStaff]
  rcases table.staff? id with _ | staff <;> rfl

/-! ## Grants -/

/-- Adding a grant once adds it and nothing else. -/
theorem mem_addGrant {grants : List Grant} {grant other : Grant} :
    other ∈ addGrant grants grant ↔ other ∈ grants ∨ other = grant := by
  rw [addGrant]
  split
  · rename_i hmem
    have hmem : grant ∈ grants := by simpa using hmem
    constructor
    · exact .inl
    · rintro (h | rfl)
      · exact h
      · exact hmem
  · simp

/-- Adding grants to one member adds those and nothing else. -/
theorem mem_foldl_addGrant {stores : List StoreId} {grants : List Grant} {grant : Grant} :
    grant ∈ stores.foldl (fun grants store => addGrant grants ⟨id, store⟩) grants ↔
      grant ∈ grants ∨ (grant.staff = id ∧ grant.store ∈ stores) := by
  -- over the stores, which are added one by one
  induction stores generalizing grants with
  | nil => simp
  | cons store stores ih =>
    rw [List.foldl_cons, ih, mem_addGrant, List.mem_cons]
    constructor
    · rintro ((h | rfl) | ⟨hid, hstore⟩)
      · exact .inl h
      · exact .inr ⟨rfl, .inl rfl⟩
      · exact .inr ⟨hid, .inr hstore⟩
    · rintro (h | ⟨hid, rfl | hstore⟩)
      · exact .inl (.inl h)
      · exact .inl (.inr (by rw [← hid]))
      · exact .inr ⟨hid, hstore⟩

/-- Adding grants to one member leaves the grants of everybody else as they were. -/
theorem filter_foldl_addGrant (hother : other ≠ id) (stores : List StoreId)
    (grants : List Grant) :
    (stores.foldl (fun grants store => addGrant grants ⟨id, store⟩) grants).filter
        (fun grant => grant.staff == other) =
      grants.filter (fun grant => grant.staff == other) := by
  induction stores generalizing grants with
  | nil => rfl
  | cons store stores ih =>
    rw [List.foldl_cons, ih, addGrant]
    split
    · rfl
    · simp [List.filter_append, hother.symm]

/-- Whether a store exists, open or not. -/
def HasStore (table : Table) (store : StoreId) : Prop := ∃ known ∈ table.stores, known.id = store

/-- A grant of stores succeeds if the member of staff and all the stores exist, and adds the grants;
otherwise it says what is missing and changes nothing. -/
theorem grantStores_cases (table : Table) (id : PrincipalId) (stores : List StoreId) :
    ((∃ staff, table.staff? id = some staff) ∧ (∀ store ∈ stores, table.HasStore store) ∧
        table.grantStores id stores = (.ok (),
          { table with grants :=
              stores.foldl (fun grants store => addGrant grants ⟨id, store⟩) table.grants })) ∨
      (¬ ((∃ staff, table.staff? id = some staff) ∧ ∀ store ∈ stores, table.HasStore store) ∧
        ∃ what, table.grantStores id stores = (.error (.notFound what), table)) := by
  rw [grantStores]
  rcases hfound : table.staff? id with _ | staff
  · exact .inr ⟨by rintro ⟨⟨staff, h⟩, -⟩; exact absurd h (by simp), _, rfl⟩
  dsimp only
  rcases hmissing : stores.find? (fun store => !table.stores.any (fun known => known.id == store))
    with _ | missing
  · refine .inl ⟨⟨staff, rfl⟩, ?_, rfl⟩
    intro store hstore
    have hknown := List.find?_eq_none.1 hmissing store hstore
    simpa [HasStore] using hknown
  · refine .inr ⟨?_, _, rfl⟩
    rintro ⟨-, hstores⟩
    -- the store that is missing is one of those to be granted
    have hunknown := List.find?_some hmissing
    have hknown := hstores missing (List.mem_of_find?_eq_some hmissing)
    simp only [Bool.not_eq_true', List.any_eq_false, beq_iff_eq] at hunknown
    obtain ⟨known, hmem, heq⟩ := hknown
    exact hunknown known hmem heq

/-- A grant of stores leaves everything but the grants as it was. -/
theorem grantStores_eq (table : Table) (id : PrincipalId) (stores : List StoreId) :
    (table.grantStores id stores).2 =
      { table with grants := (table.grantStores id stores).2.grants } := by
  rcases grantStores_cases table id stores with ⟨-, -, h⟩ | ⟨-, what, h⟩ <;> rw [h]

/-- A grant of stores leaves the grants of everybody else as they were. -/
theorem filter_grantStores (table : Table) (hother : other ≠ id) (stores : List StoreId) :
    (table.grantStores id stores).2.grants.filter (fun grant => grant.staff == other) =
      table.grants.filter (fun grant => grant.staff == other) := by
  rcases grantStores_cases table id stores with ⟨-, -, h⟩ | ⟨-, what, h⟩
  · rw [h]
    exact filter_foldl_addGrant hother stores table.grants
  · rw [h]

/-- The grants after a withdrawal are the others. -/
theorem mem_grants_revokeStores {stores : List StoreId} {grant : Grant} :
    grant ∈ (table.revokeStores id stores).grants ↔
      grant ∈ table.grants ∧ ¬ (grant.staff = id ∧ grant.store ∈ stores) := by
  rw [revokeStores, List.mem_filter, Bool.not_eq_true', ← Bool.not_eq_true, Bool.and_eq_true,
    beq_iff_eq, List.contains_iff_mem]

/-- A withdrawal leaves the grants of everybody else as they were. -/
theorem filter_revokeStores (table : Table) (hother : other ≠ id) (stores : List StoreId) :
    (table.revokeStores id stores).grants.filter (fun grant => grant.staff == other) =
      table.grants.filter (fun grant => grant.staff == other) := by
  rw [revokeStores, List.filter_filter]
  refine List.filter_congr ?_
  intro grant _
  rcases hgrant : grant.staff == other with _ | _
  · rfl
  · have hne : grant.staff ≠ id := by
      rw [beq_iff_eq.1 hgrant]
      exact hother
    simp [hne]

/-! ## Customers -/

/-- Adding a customer or bringing one up to date leaves staff, stores and grants as they were. -/
theorem upsertCustomer_eq (table : Table) (identity : Identity) :
    (table.upsertCustomer identity).2 =
      { table with
        customers := (table.upsertCustomer identity).2.customers
        lastId := (table.upsertCustomer identity).2.lastId } := by
  rw [upsertCustomer]
  split <;> rfl

/-- Bringing a customer up to date changes the row of that customer and of nobody else. -/
theorem customer?_map {customer : Customer} (hne : other ≠ customer.id) :
    (table.customers.map (fun c => if c.id == customer.id then customer else c)).find?
        (fun c => c.id == other) = table.customer? other := by
  have hkey : ((fun c : Customer => c.id == other) ∘
      fun c => if c.id == customer.id then customer else c) = fun c => c.id == other := by
    funext c
    simp only [Function.comp]
    split
    · rename_i heq
      rw [beq_iff_eq.1 heq]
    · rfl
  rw [List.find?_map, hkey, ← customer?]
  rcases hfound : table.customer? other with _ | c
  · rfl
  · have hc : (c.id == customer.id) = false := by
      rw [customer?_id hfound]
      exact beq_false_of_ne hne
    rw [Option.map_some, hc]
    rfl

/-- Adding a customer or bringing one up to date leaves all other customers as they were. -/
theorem customer?_upsertCustomer_of_ne {identity : Identity}
    (hother : other ≠ (table.upsertCustomer identity).1.id) :
    (table.upsertCustomer identity).2.customer? other = table.customer? other := by
  revert hother
  rw [upsertCustomer]
  split
  · rename_i known hknown
    exact fun hother => customer?_map hother
  · intro hother
    -- a new customer is put behind the others, so the search meets them first
    rw [customer?, List.find?_append, ← customer?, List.find?_cons, beq_false_of_ne hother.symm]
    exact Option.or_none

/-- Adding a customer or bringing one up to date removes nobody. -/
theorem isSome_customer?_upsertCustomer {identity : Identity} (h : (table.customer? id).isSome) :
    ((table.upsertCustomer identity).2.customer? id).isSome := by
  rw [customer?, List.find?_isSome] at h ⊢
  obtain ⟨customer, hmem, hid⟩ := h
  rw [upsertCustomer]
  split
  · rename_i known hknown
    refine ⟨_, List.mem_map_of_mem hmem, ?_⟩
    split
    · rename_i heq
      rw [beq_iff_eq] at heq hid ⊢
      exact heq ▸ hid
    · exact hid
  · exact ⟨customer, List.mem_append_left _ hmem, hid⟩

/-- The row of an identity is among the customers. -/
theorem upsertCustomer_mem (table : Table) (identity : Identity) :
    (table.upsertCustomer identity).1 ∈ (table.upsertCustomer identity).2.customers := by
  rw [upsertCustomer]
  split
  · rename_i known hknown
    exact List.mem_map.2 ⟨known, List.mem_of_find?_eq_some hknown, if_pos (beq_self_eq_true _)⟩
  · exact List.mem_append_right _ (List.mem_singleton_self _)

/-- A customer who was added or brought up to date is there. -/
theorem isSome_customer?_upsertCustomer_self (table : Table) (identity : Identity) :
    ((table.upsertCustomer identity).2.customer? (table.upsertCustomer identity).1.id).isSome := by
  rw [customer?, List.find?_isSome]
  exact ⟨_, table.upsertCustomer_mem identity, beq_self_eq_true _⟩

/-- No call removes a customer. -/
theorem isSome_customer?_answer (call : Call) (h : (table.customer? id).isSome) :
    ((table.answer call).2.customer? id).isSome := by
  have hchange (member : PrincipalId) (change : Staff → Staff) :
      ((table.changeStaff member change).2.customer? id).isSome := by
    rw [changeStaff_eq]
    exact h
  cases call with
  | setPasswordHash => exact hchange _ _
  | setRole => exact hchange _ _
  | setActive => exact hchange _ _
  | grantStores member stores =>
    rw [answer, grantStores_eq]
    exact h
  | upsertCustomer identity => exact isSome_customer?_upsertCustomer h
  | _ => exact h

/-! ## Names -/

/-- The staff are held in ascending order of ids. -/
def Ascending (table : Table) : Prop :=
  table.staff.Pairwise (fun first second => first.id < second.id)

/-- A member of staff has the least id among those with a name. -/
structure FirstNamed (table : Table) (username : String) (member : Staff) : Prop where
  /-- The member is one of the staff. -/
  mem : member ∈ table.staff
  /-- The member has the name. -/
  username_eq : member.username = username
  /-- Nobody with the name has a smaller id. -/
  least : ∀ other ∈ table.staff, other.username = username → member.id ≤ other.id

/-- Where ids ascend, a member of staff is found under the member's own id. -/
theorem Ascending.staff?_eq_some {member : Staff} (h : table.Ascending)
    (hmem : member ∈ table.staff) : table.staff? member.id = some member := by
  obtain ⟨before, behind, hsplit⟩ := List.append_of_mem hmem
  rw [Ascending, hsplit, List.pairwise_append] at h
  refine List.find?_eq_some_iff_append.2 ⟨beq_self_eq_true _, before, behind, hsplit, ?_⟩
  intro earlier hearlier
  have hlt := h.2.2 earlier hearlier member List.mem_cons_self
  simp [Int64.ne_of_lt hlt]

/-- Where ids ascend, the member of staff who is found under a name is the one with the least id
among those with the name. -/
theorem Ascending.staffNamed?_eq_some_iff {username : String} {member : Staff}
    (h : table.Ascending) :
    table.staffNamed? username = some member ↔ table.FirstNamed username member := by
  have hfound {found : Staff} (hfound : table.staffNamed? username = some found) :
      table.FirstNamed username found := by
    obtain ⟨hname, before, behind, hsplit, hbefore⟩ := List.find?_eq_some_iff_append.1 hfound
    refine ⟨List.mem_of_find?_eq_some hfound, by simpa using hname, ?_⟩
    intro other hmem hother
    rw [Ascending, hsplit, List.pairwise_append] at h
    rw [hsplit, List.mem_append, List.mem_cons] at hmem
    rcases hmem with hmem | rfl | hmem
    · simpa [hother] using hbefore other hmem
    · exact Int64.le_refl _
    · exact Int64.le_of_lt (List.rel_of_pairwise_cons h.2.1 hmem)
  refine ⟨hfound, fun hfirst => ?_⟩
  rcases hnamed : table.staffNamed? username with _ | found
  · have hnone := List.find?_eq_none.1 hnamed member hfirst.mem
    simp [hfirst.username_eq] at hnone
  -- both have the least id, and an id names one member only
  · have hother := hfound hnamed
    have hid : found.id = member.id := Int64.le_antisymm
      (hother.least member hfirst.mem hfirst.username_eq)
      (hfirst.least found hother.mem hother.username_eq)
    have heq := h.staff?_eq_some hother.mem
    rwa [hid, h.staff?_eq_some hfirst.mem, eq_comm] at heq

/-- No call changes what does not depend on hashes, roles and rights to sign in, such as the ids and
the names of the staff. -/
theorem staff_map_answer {α : Type} {field : Staff → α} (call : Call)
    (hhash : ∀ member passwordHash, field { member with passwordHash } = field member)
    (hrole : ∀ member role, field { member with role } = field member)
    (hactive : ∀ member isActive, field { member with isActive } = field member) :
    (table.answer call).2.staff.map field = table.staff.map field := by
  have hchange (id : PrincipalId) (change : Staff → Staff)
      (hfield : ∀ member, field (change member) = field member) :
      (table.changeStaff id change).2.staff.map field = table.staff.map field := by
    rw [changeStaff]
    rcases table.staff? id with _ | staff
    · rfl
    · rw [List.map_map]
      refine List.map_congr_left fun member _ => ?_
      rw [Function.comp]
      split
      · exact hfield member
      · rfl
  cases call with
  | setPasswordHash id hash => exact hchange id _ (fun member => hhash member hash)
  | setRole id role => exact hchange id _ (fun member => hrole member role)
  | setActive id active => exact hchange id _ (fun member => hactive member active)
  | grantStores id stores =>
    rw [answer, grantStores_eq]
  | upsertCustomer identity =>
    rw [answer, upsertCustomer_eq]
  | _ => rfl

/-- Where no two rows share a key, a row is found under its own. -/
theorem find?_of_nodup {α β : Type} [BEq β] [LawfulBEq β] {key : α → β} {rows : List α}
    {row : α} (h : (rows.map key).Nodup) (hmem : row ∈ rows) :
    rows.find? (fun other => key other == key row) = some row := by
  obtain ⟨before, behind, hsplit⟩ := List.append_of_mem hmem
  rw [hsplit, List.map_append, List.nodup_append] at h
  refine List.find?_eq_some_iff_append.2 ⟨beq_self_eq_true _, before, behind, hsplit, ?_⟩
  intro earlier hearlier
  have hne := h.2.2 _ (List.mem_map_of_mem hearlier) (key row)
    (List.mem_map_of_mem List.mem_cons_self)
  simp [hne]

/-- Where nobody shares a name, a member of staff is found under the member's own. -/
theorem staffNamed?_of_nodup {member : Staff} (h : (table.staff.map Staff.username).Nodup)
    (hmem : member ∈ table.staff) : table.staffNamed? member.username = some member :=
  find?_of_nodup h hmem

/-- No call changes a member's name. -/
theorem username_answer (call : Call) :
    ((table.answer call).2.staff? id).map Staff.username =
      (table.staff? id).map Staff.username := by
  cases call with
  | setPasswordHash => exact map_staff?_changeStaff (fun _ => rfl) (fun _ => rfl)
  | setRole => exact map_staff?_changeStaff (fun _ => rfl) (fun _ => rfl)
  | setActive => exact map_staff?_changeStaff (fun _ => rfl) (fun _ => rfl)
  | grantStores member stores =>
    rw [answer, grantStores_eq]
    rfl
  | upsertCustomer identity =>
    rw [answer, upsertCustomer_eq]
    rfl
  | _ => rfl

/-- Every call leaves the staff in ascending order. -/
theorem Ascending.answer (h : table.Ascending) (call : Call) :
    (table.answer call).2.Ascending := by
  have hids : (table.answer call).2.staff.map Staff.id = table.staff.map Staff.id :=
    staff_map_answer call (fun _ _ => rfl) (fun _ _ => rfl) (fun _ _ => rfl)
  have hpairs : (table.staff.map Staff.id).Pairwise (· < ·) := List.pairwise_map.2 h
  rw [← hids] at hpairs
  exact List.pairwise_map.1 hpairs

/-! ## Passwords -/

/-- A member of staff whose password is set has the hash that it was set to. -/
theorem passwordHash_setPasswordHash {member : Staff} (hfound : table.staff? id = some member)
    (hash : String) :
    ((table.answer (.setPasswordHash id hash)).2.staff? id).map Staff.passwordHash = some hash := by
  have hset : (table.answer (.setPasswordHash id hash)).2.staff? id = _ :=
    staff?_changeStaff (fun _ => rfl)
  rw [hset, hfound]
  simp [staff?_id hfound]

/-- Only setting a member's password changes the stored hash of it. -/
theorem passwordHash_answer {call : Call} (h : ∀ hash, call ≠ .setPasswordHash id hash) :
    ((table.answer call).2.staff? id).map Staff.passwordHash =
      (table.staff? id).map Staff.passwordHash := by
  cases call with
  | setPasswordHash member hash =>
    have hother : id ≠ member := by
      rintro rfl
      exact h hash rfl
    exact congrArg (Option.map Staff.passwordHash)
      (staff?_changeStaff_of_ne (fun _ => rfl) hother)
  | setRole => exact map_staff?_changeStaff (fun _ => rfl) (fun _ => rfl)
  | setActive => exact map_staff?_changeStaff (fun _ => rfl) (fun _ => rfl)
  | grantStores member stores =>
    rw [answer, grantStores_eq]
    rfl
  | upsertCustomer identity =>
    rw [answer, upsertCustomer_eq]
    rfl
  | _ => rfl

/-! ## Contexts -/

/-- The stores of a member of staff below the highest role are those that are granted. -/
theorem mem_storeList {role : Role} (h : role ≠ .superAdmin) {store : StoreId} :
    store ∈ table.storeList id role ↔ ⟨id, store⟩ ∈ table.grants := by
  have hlist : table.storeList id role =
      .ofList ((table.grants.filter (fun grant => grant.staff == id)).map Grant.store) := by
    cases role <;> first | rfl | exact absurd rfl h
  rw [hlist, StoreSet.mem_ofList]
  simp only [List.mem_map, List.mem_filter, beq_iff_eq]
  constructor
  · rintro ⟨⟨staff, known⟩, ⟨hmem, rfl⟩, rfl⟩
    exact hmem
  · exact fun hmem => ⟨_, ⟨hmem, rfl⟩, rfl⟩

/-- The stores of a member of staff depend on the stores and the member's grants only. -/
theorem storeList_congr {table' : Table} {role : Role} (hstores : table'.stores = table.stores)
    (hgrants : table'.grants.filter (fun grant => grant.staff == id) =
      table.grants.filter (fun grant => grant.staff == id)) :
    table'.storeList id role = table.storeList id role := by
  cases role <;> simp [storeList, hstores, hgrants]

/-- The context of a member of staff depends on the member's row, the stores and the member's grants
only. -/
theorem context?_staff_congr {table' : Table} (hstaff : table'.staff? id = table.staff? id)
    (hstores : table'.stores = table.stores)
    (hgrants : table'.grants.filter (fun grant => grant.staff == id) =
      table.grants.filter (fun grant => grant.staff == id)) :
    table'.context? .staff id = table.context? .staff id := by
  simp only [context?, hstaff]
  refine Option.map_congr ?_
  intro member hmember
  have hid : member.id = id := staff?_id (Option.filter_eq_some_iff.1 hmember).1
  rw [hid, storeList_congr hstores hgrants]

/-- The context of a customer depends on the customer's row only. -/
theorem context?_customer_congr {table' : Table}
    (hcustomer : table'.customer? id = table.customer? id) :
    table'.context? .customer id = table.context? .customer id := by
  simp only [context?, hcustomer]

/-- A context is that of the principal whose it is said to be. -/
theorem isFor_of_context? {kind : PrincipalKind} {context : Context}
    (h : table.context? kind id = some context) : context.isFor kind id = true := by
  cases kind with
  | staff =>
    obtain ⟨member, hmember, rfl⟩ := Option.map_eq_some_iff.1 h
    have hid := staff?_id (Option.filter_eq_some_iff.1 hmember).1
    simp [Context.isFor, hid]
  | customer =>
    obtain ⟨customer, hcustomer, rfl⟩ := Option.map_eq_some_iff.1 h
    simp [Context.isFor, customer?_id hcustomer]

/-- A write to a member of staff that fails changes nothing. -/
theorem answer_of_error {call : Call} {target : PrincipalId} (htarget : call.target? = some target)
    {error : StorageError} (h : (table.answer call).1 = .error error) :
    (table.answer call).2 = table := by
  have hchange (change : Staff → Staff)
      (herror : (table.changeStaff target change).1 = .error error) :
      (table.changeStaff target change).2 = table := by
    revert herror
    rw [changeStaff]
    rcases table.staff? target with _ | staff
    · exact fun _ => rfl
    · rintro ⟨⟩
  cases call with
  | setPasswordHash => cases htarget; exact hchange _ h
  | setRole => cases htarget; exact hchange _ h
  | setActive => cases htarget; exact hchange _ h
  | grantStores id stores =>
    rcases grantStores_cases table id stores with ⟨-, -, heq⟩ | ⟨-, what, heq⟩
    · rw [answer, heq] at h
      cases h
    · rw [answer, heq]
  | revokeStores => cases h
  | _ => cases htarget

/-- A write to a member of staff changes no other context. -/
theorem context?_answer {call : Call} {target : PrincipalId} (htarget : call.target? = some target)
    {kind : PrincipalKind} (hother : ¬ (kind = .staff ∧ id = target)) :
    (table.answer call).2.context? kind id = table.context? kind id := by
  -- the three changes of a row are treated alike
  have hchange (change : Staff → Staff) (hid : ∀ member, (change member).id = member.id) :
      (table.changeStaff target change).2.context? kind id = table.context? kind id := by
    rw [changeStaff_eq]
    cases kind with
    | staff =>
      refine context?_staff_congr ?_ rfl rfl
      exact staff?_changeStaff_of_ne hid (fun h => hother ⟨rfl, h⟩)
    | customer => exact context?_customer_congr rfl
  cases call with
  | setPasswordHash => cases htarget; exact hchange _ (fun _ => rfl)
  | setRole => cases htarget; exact hchange _ (fun _ => rfl)
  | setActive => cases htarget; exact hchange _ (fun _ => rfl)
  | grantStores staff stores =>
    cases htarget
    cases kind with
    | staff =>
      have hgrants := filter_grantStores table (fun h => hother ⟨rfl, h⟩) stores
      rw [answer, grantStores_eq]
      exact context?_staff_congr rfl rfl hgrants
    | customer =>
      rw [answer, grantStores_eq]
      exact context?_customer_congr rfl
  | revokeStores staff stores =>
    cases htarget
    cases kind with
    | staff =>
      have hgrants := filter_revokeStores table (fun h => hother ⟨rfl, h⟩) stores
      exact context?_staff_congr rfl rfl hgrants
    | customer => exact context?_customer_congr rfl
  | _ => cases htarget

/-- Adding a customer or bringing one up to date changes no other context. -/
theorem context?_upsertCustomer {identity : Identity} {kind : PrincipalKind}
    (hother : ¬ (kind = .customer ∧ id = (table.upsertCustomer identity).1.id)) :
    (table.upsertCustomer identity).2.context? kind id = table.context? kind id := by
  cases kind with
  | staff =>
    rw [upsertCustomer_eq]
    exact context?_staff_congr rfl rfl rfl
  | customer =>
    exact context?_customer_congr (customer?_upsertCustomer_of_ne (fun h => hother ⟨rfl, h⟩))

end Table

end Gatehouse.Directory
