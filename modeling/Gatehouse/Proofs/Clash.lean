import Gatehouse.Proofs.Verdict

/-!
# Changes that clash

Two requests to change the access of staff in one directory, one of which decides before the other
is written, and is written after it. Main statements: of two requests that are permitted, one is
still permitted after the other with the same result, or they clash (`permitted_cross`); so they
come out as they would one after the other, or clash (`Overlaps.cases`), and those that clash come
out as they would in neither order (`Clash.not_serves`).
-/

namespace Gatehouse

open Directory

/-! ## What a change makes of a directory -/

namespace StaffChange

/-- What a change makes of the row of the member of staff. -/
def onRow : StaffChange → Staff → Staff
  | role newRole, member => { member with role := newRole }
  | active isActive, member => { member with isActive }
  | grant _, member => member
  | revoke _, member => member

/-- What a change makes of the grants. -/
def onGrants (target : PrincipalId) : StaffChange → List Grant → List Grant
  | role _, grants => grants
  | active _, grants => grants
  | grant stores, grants =>
    stores.foldl (fun grants store => Table.addGrant grants ⟨target, store⟩) grants
  | revoke stores, grants =>
    grants.filter (fun grant => !(grant.staff == target && stores.contains grant.store))

/-- What a change makes of a directory. -/
def made (directory : Table) (target : PrincipalId) (change : StaffChange) : Table :=
  { directory with
    staff := directory.staff.map
      (fun member => if member.id == target then change.onRow member else member)
    grants := change.onGrants target directory.grants }

/-- The failure of a change that names a store which is not there. -/
def refusal? (directory : Table) : StaffChange → Option AuthError
  | grant stores =>
    (stores.find? (fun store => !directory.stores.any (fun known => known.id == store))).map
      (fun store => grantFailure (noStore store))
  | _ => none

/-- A change gives a grant. -/
def Gives (target : PrincipalId) (given : Grant) : StaffChange → Prop
  | grant stores => given.staff = target ∧ given.store ∈ stores
  | _ => False

/-- A change takes a grant away. -/
def Takes (target : PrincipalId) (taken : Grant) : StaffChange → Prop
  | revoke stores => taken.staff = target ∧ taken.store ∈ stores
  | _ => False

variable {directory : Table} {target other id : PrincipalId} {change change' : StaffChange}

/-- A change keeps the id of a member of staff. -/
@[simp]
theorem onRow_id (change : StaffChange) (member : Staff) :
    (change.onRow member).id = member.id := by
  cases change <;> rfl

/-- The grants after a change are those that were there or are given, and not taken away. -/
theorem mem_onGrants {grants : List Grant} {given : Grant} :
    given ∈ change.onGrants target grants ↔
      (given ∈ grants ∨ change.Gives target given) ∧ ¬ change.Takes target given := by
  cases change with
  | role => simp [onGrants, Gives, Takes]
  | active => simp [onGrants, Gives, Takes]
  | grant stores => simp [onGrants, Gives, Takes, Table.mem_foldl_addGrant]
  | revoke stores =>
    simp only [onGrants, Gives, Takes, List.mem_filter, Bool.not_eq_true', ← Bool.not_eq_true,
      Bool.and_eq_true, beq_iff_eq, List.contains_iff_mem, or_false]

/-- A change gives only to its target. -/
theorem Gives.staff_eq {given : Grant} (h : change.Gives target given) : given.staff = target := by
  cases change <;> first | exact h.1 | cases h

/-- A change takes only from its target. -/
theorem Takes.staff_eq {taken : Grant} (h : change.Takes target taken) : taken.staff = target := by
  cases change <;> first | exact h.1 | cases h

/-- A change leaves the grants of everybody else as they were. -/
theorem mem_grants_made_of_ne {given : Grant} (h : given.staff ≠ target) :
    given ∈ (change.made directory target).grants ↔ given ∈ directory.grants := by
  rw [made, mem_onGrants]
  constructor
  · rintro ⟨hold | hgiven, -⟩
    · exact hold
    · exact absurd hgiven.staff_eq h
  · exact fun hold => ⟨.inl hold, fun htaken => h htaken.staff_eq⟩

/-- The row of a member of staff after a change. -/
theorem staff?_made : (change.made directory target).staff? id =
    (directory.staff? id).map
      (fun member => if member.id = target then change.onRow member else member) := by
  -- a change keeps ids, so the search finds the same place in the changed list
  have hkey : ((fun member : Staff => member.id == id) ∘
      fun member => if member.id = target then change.onRow member else member) =
        fun member => member.id == id := by
    funext member
    simp only [Function.comp]
    split
    · rw [onRow_id]
    · rfl
  simp only [made, Table.staff?, List.find?_map, beq_iff_eq]
  rw [hkey]

/-- A change leaves the rows of everybody else as they were. -/
theorem staff?_made_of_ne (h : id ≠ target) :
    (change.made directory target).staff? id = directory.staff? id := by
  rw [staff?_made]
  rcases hfound : directory.staff? id with _ | member
  · rfl
  · rw [Option.map_some, if_neg (by rwa [Table.staff?_id hfound])]

/-- The row of the target after a change. -/
theorem staff?_made_self {member : Staff} (h : directory.staff? target = some member) :
    (change.made directory target).staff? target = some (change.onRow member) := by
  rw [staff?_made, h, Option.map_some, if_pos (Table.staff?_id h)]

/-- A change to a member of staff who is there is made, unless it names a store which is not. -/
theorem carry_of_found {member : Staff} (h : directory.staff? target = some member)
    (change : StaffChange) :
    change.carry directory target =
      (change.refusal? directory).elim (.ok (), change.made directory target)
        (fun error => (.error error, directory)) := by
  cases change with
  | role newRole =>
    have hwrite := Table.changeStaff_of_found h (fun member => { member with role := newRole })
    simp only [carry, call, Table.answer, hwrite]
    rfl
  | active isActive =>
    have hwrite := Table.changeStaff_of_found h (fun member => { member with isActive })
    simp only [carry, call, Table.answer, hwrite]
    rfl
  | grant stores =>
    have hmade : (grant stores).made directory target = { directory with
        grants := stores.foldl (fun grants store => Table.addGrant grants ⟨target, store⟩)
          directory.grants } := by
      simp [made, onRow, onGrants]
    rw [hmade]
    simp only [carry, call, Table.answer, Table.grantStores, h, refusal?]
    cases stores.find? (fun store => !directory.stores.any (fun known => known.id == store)) <;> rfl
  | revoke stores =>
    have hmade : (revoke stores).made directory target = directory.revokeStores target stores := by
      simp [made, onRow, onGrants, Table.revokeStores]
    rw [hmade]
    rfl

/-- A change differs from none by what it makes of a directory. -/
theorem changes_made (directory : Table) (target : PrincipalId) (change : StaffChange) :
    change.Changes target directory (change.made directory target) := by
  cases change with
  | role newRole => rfl
  | active isActive => rfl
  | grant stores =>
    refine ⟨(grant stores).onGrants target directory.grants, ?_, ?_⟩
    · simp [made, onRow]
    · intro given
      simp [mem_onGrants, Gives, Takes]
  | revoke stores =>
    refine ⟨(revoke stores).onGrants target directory.grants, ?_, ?_⟩
    · simp [made, onRow]
    · intro taken
      simp [mem_onGrants, Gives, Takes]

end StaffChange

/-- Two directories differ at most in the order of the grants. -/
def Directory.Table.Alike (directory other : Table) : Prop :=
  ∃ grants, other = { directory with grants } ∧
    ∀ grant, grant ∈ grants ↔ grant ∈ directory.grants

/-- A directory is like itself. -/
theorem Directory.Table.Alike.refl (directory : Table) : directory.Alike directory :=
  ⟨directory.grants, rfl, fun _ => Iff.rfl⟩

namespace StaffChange

variable {directory : Table} {target other : PrincipalId} {first second : StaffChange}

/-- Two changes can be made in either order if what one gives the other one does not take away, and
they can be made to every row in either order, unless they are made to different rows. -/
theorem made_alike
    (hrow : target ≠ other ∨
      ∀ member, first.onRow (second.onRow member) = second.onRow (first.onRow member))
    (hgives : ∀ grant, first.Gives target grant → ¬ second.Takes other grant)
    (hgives' : ∀ grant, second.Gives other grant → ¬ first.Takes target grant) :
    (first.made (second.made directory other) target).Alike
      (second.made (first.made directory target) other) := by
  have hstaff : (second.made (first.made directory target) other).staff =
      (first.made (second.made directory other) target).staff := by
    simp only [made, List.map_map]
    refine List.map_congr_left ?_
    intro member _
    have hid (change : StaffChange) (condition : Prop) [Decidable condition] :
        (if condition then change.onRow member else member).id = member.id := by
      split <;> simp
    simp only [Function.comp, beq_iff_eq, hid]
    by_cases hfirst : member.id = target
    · by_cases hsecond : member.id = other
      · rcases hrow with hne | hrow
        · exact absurd (hfirst.symm.trans hsecond) hne
        · simp only [if_pos hfirst, if_pos hsecond, hrow]
      · simp only [if_pos hfirst, if_neg hsecond]
    · simp only [if_neg hfirst]
  refine ⟨(second.made (first.made directory target) other).grants, ?_, ?_⟩
  · rw [← hstaff]
    rfl
  · intro given
    have hfirst := hgives given
    have hsecond := hgives' given
    simp only [made, mem_onGrants]
    grind

/-- Changes to different members of staff can be made in either order. -/
theorem made_alike_of_ne (h : target ≠ other) :
    (first.made (second.made directory other) target).Alike
      (second.made (first.made directory target) other) :=
  made_alike (.inl h) (fun _ hgives htakes => h (hgives.staff_eq.symm.trans htakes.staff_eq))
    (fun _ hgives htakes => h (htakes.staff_eq.symm.trans hgives.staff_eq))

end StaffChange

/-! ## What is permitted -/

section Permitted

variable {directory : Table} {caller : Context} {target : PrincipalId}

/-- A caller passes the checks against a target exactly in the role in which the caller manages the
target. -/
theorem judge_eq_ok_iff {role : Role} :
    directory.judge caller target = .ok role ↔
      ∃ member, Manages (Truthful directory) caller target role member := by
  constructor
  · intro hjudge
    rw [Table.judge] at hjudge
    split at hjudge
    · cases hjudge
    rename_i managing hrole
    split at hjudge
    · cases hjudge
    rename_i hother
    split at hjudge
    · cases hjudge
    rename_i member hfound
    split at hjudge
    · cases hjudge
    rename_i hmanage
    split at hjudge
    · cases hjudge
    rename_i hreach
    cases hjudge
    refine ⟨member, hrole, by simpa using hother, says_getStaff.2 hfound, by simpa using hmanage,
      fun hbound => ⟨_, says_storeList.2 rfl, ?_⟩⟩
    rw [Table.staff?_id hfound]
    simpa [hbound] using hreach
  · rintro ⟨member, h⟩
    have hfound := says_getStaff.1 h.found
    simp only [Table.judge, h.role_eq, h.other, hfound, h.canManage]
    rw [if_neg (by simp), if_neg (by simp), if_neg]
    rintro ⟨hbound, hbeyond⟩
    obtain ⟨stores, hstores, hreach⟩ := h.reaches hbound
    rw [← says_storeList.1 hstores, Table.staff?_id hfound] at hreach
    rw [hreach] at hbeyond
    cases hbeyond

/-- A change names only stores that are there exactly if there is no such failure. -/
theorem StaffChange.refusal?_grant_eq_none_iff {stores : List StoreId} :
    (grant stores).refusal? directory = none ↔ ∀ store ∈ stores, directory.HasStore store := by
  simp [refusal?, Table.HasStore]

/-- A batch passes exactly if it is not empty, and the caller manages the target and reaches it all.
-/
theorem judgeBatch_eq_ok_iff {stores : List StoreId} :
    directory.judgeBatch caller target stores = .ok () ↔
      ∃ role, directory.judge caller target = .ok role ∧
        stores ≠ [] ∧ role.canAccessAll caller.stores stores = true := by
  rw [Table.judgeBatch]
  split
  · rename_i hempty
    simp [List.isEmpty_iff.1 hempty]
  · rename_i hempty
    have hne : stores ≠ [] := fun h => hempty (List.isEmpty_iff.2 h)
    cases directory.judge caller target with
    | error => simp
    | ok role => simp [hne]

/-- A context is good for a change exactly if the change passes the checks and names only stores
that are there. -/
theorem StaffChange.qualifies_iff {change : StaffChange} :
    change.Qualifies directory caller target ↔
      change.vet directory caller target = .ok () ∧ change.refusal? directory = none := by
  have hjudge : change.Qualifies directory caller target ↔
      ∃ role, directory.judge caller target = .ok role ∧ change.Suits directory caller role := by
    simp only [Qualifies, judge_eq_ok_iff, exists_and_right]
  rw [hjudge]
  cases change with
  | role newRole =>
    rw [vet]
    cases directory.judge caller target <;> simp [Suits, refusal?]
  | active isActive =>
    rw [vet]
    cases directory.judge caller target <;> simp [Suits, refusal?, Except.map]
  | grant stores =>
    simp only [vet, judgeBatch_eq_ok_iff, refusal?_grant_eq_none_iff, Suits, exists_and_right,
      ← and_assoc]
  | revoke stores => simp only [vet, judgeBatch_eq_ok_iff, refusal?, Suits, and_true]

/-- A caller for whom a change passes the checks manages the target. -/
theorem StaffChange.exists_manages {change : StaffChange}
    (h : change.vet directory caller target = .ok ()) :
    ∃ role member, Manages (Truthful directory) caller target role member := by
  have hjudge : ∃ role, directory.judge caller target = .ok role := by
    rcases hjudge : directory.judge caller target with error | role
    · cases change with
      | role => simp [vet, hjudge] at h
      | active => simp [vet, hjudge, Except.map] at h
      | grant stores => simp [vet, judgeBatch_eq_ok_iff, hjudge] at h
      | revoke stores => simp [vet, judgeBatch_eq_ok_iff, hjudge] at h
    · exact ⟨role, rfl⟩
  obtain ⟨role, hjudge⟩ := hjudge
  exact ⟨role, judge_eq_ok_iff.1 hjudge⟩

end Permitted

/-- A directory has the staff and the stores of another one. -/
structure Directory.Table.Retains (present directory : Table) : Prop where
  /-- The staff are there, whatever their rows are now. -/
  staff : ∀ id member, directory.staff? id = some member →
    ∃ found, present.staff? id = some found
  /-- The stores are the same. -/
  stores_eq : present.stores = directory.stores

/-- A directory has its own staff and stores. -/
theorem Directory.Table.Retains.refl (directory : Table) : directory.Retains directory :=
  ⟨fun _ member h => ⟨member, h⟩, rfl⟩

namespace StaffRequest

variable {directory : Table} {request : StaffRequest}

/-- The directory permits a request. -/
def Permitted (request : StaffRequest) (directory : Table) : Prop :=
  request.change.Permitted directory request.claims request.target

/-- What a request makes of a directory. -/
def made (request : StaffRequest) (directory : Table) : Table :=
  request.change.made directory request.target

/-- A request that passes the checks of a directory is asked for by staff, and about somebody who is
there. -/
theorem of_verdict (h : request.verdict directory = .ok ()) :
    request.claims.kind = .staff ∧ ∃ member, directory.staff? request.target = some member := by
  rw [verdict] at h
  split at h
  · cases h
  rename_i caller hcaller
  obtain ⟨role, member, hmanages⟩ := StaffChange.exists_manages h
  refine ⟨?_, member, says_getStaff.1 hmanages.found⟩
  -- only contexts of staff have a role
  obtain ⟨hkind, -⟩ := Context.isFor_iff.1 (Table.isFor_of_context? hcaller)
  have hrole := hmanages.role_eq
  rw [Context.staffRole, hkind] at hrole
  split at hrole
  · assumption
  · cases hrole

/-- The directory permits a request exactly if the request passes the checks and names only stores
that are there. -/
theorem permitted_iff : request.Permitted directory ↔
    request.verdict directory = .ok () ∧ request.change.refusal? directory = none := by
  rw [Permitted, StaffChange.permitted_iff]
  simp only [StaffChange.qualifies_iff]
  constructor
  · rintro ⟨hkind, caller, hcaller, hvet, hrefusal⟩
    rw [verdict, hkind, hcaller]
    exact ⟨hvet, hrefusal⟩
  · rintro ⟨hverdict, hrefusal⟩
    have hkind := (of_verdict hverdict).1
    rw [verdict, hkind] at hverdict
    split at hverdict
    · cases hverdict
    rename_i caller hcaller
    exact ⟨hkind, caller, hcaller, hverdict, hrefusal⟩

/-- A request removes nobody and no store. -/
theorem retains_made (request : StaffRequest) (directory : Table) :
    (request.made directory).Retains directory := by
  refine ⟨?_, rfl⟩
  intro id member hmember
  exact ⟨_, StaffChange.staff?_made.trans (congrArg _ hmember)⟩

/-- A request that passes the checks is made, unless it names a store which is not there. -/
theorem carry_of_verdict (h : request.verdict directory = .ok ()) {present : Table}
    (hpresent : present.Retains directory) :
    request.change.carry present request.target =
      (request.change.refusal? directory).elim (.ok (), request.made present)
        (fun error => (.error error, present)) := by
  obtain ⟨-, member, hmember⟩ := of_verdict h
  obtain ⟨found, hfound⟩ := hpresent.staff _ _ hmember
  have hrefusal : request.change.refusal? present = request.change.refusal? directory := by
    cases request.change <;> simp only [StaffChange.refusal?, hpresent.stores_eq]
  rw [StaffChange.carry_of_found hfound, hrefusal]
  rfl

/-- A request that a directory permits is made in one that retains its staff and stores. -/
theorem settle_of_permitted (h : request.Permitted directory) {present : Table}
    (hpresent : present.Retains directory) :
    request.settle (request.verdict directory) present = (.ok (), request.made present) := by
  obtain ⟨hverdict, hrefusal⟩ := permitted_iff.1 h
  rw [hverdict]
  refine (carry_of_verdict hverdict hpresent).trans ?_
  rw [hrefusal]
  rfl

/-- A request that a directory does not permit fails in every one that retains its staff and stores,
and leaves it as it is. -/
theorem settle_of_not_permitted (h : ¬ request.Permitted directory) :
    ∃ error, ∀ present : Table, present.Retains directory →
      request.settle (request.verdict directory) present = (.error error, present) := by
  rcases hverdict : request.verdict directory with error | _
  · exact ⟨error, fun _ _ => rfl⟩
  · rcases hrefusal : request.change.refusal? directory with _ | error
    · exact absurd (permitted_iff.2 ⟨hverdict, hrefusal⟩) h
    · refine ⟨error, ?_⟩
      intro present hpresent
      refine (carry_of_verdict hverdict hpresent).trans ?_
      rw [hrefusal]
      rfl

end StaffRequest

/-! ## Two requests -/

section Pairs

variable {directory : Table}

/-- A change leaves the stores of everybody else as they were. -/
theorem storeList_made_of_ne {change : StaffChange} {target id : PrincipalId} (h : id ≠ target) :
    (change.made directory target).storeList id = directory.storeList id := by
  funext role
  by_cases hrole : role = .superAdmin
  · rw [hrole]
    rfl
  · refine StoreSet.ext_mem (fun store => ?_)
    rw [Table.mem_storeList hrole, Table.mem_storeList hrole]
    exact StaffChange.mem_grants_made_of_ne h

/-- Nothing is torn between a directory and what a request makes of it. -/
theorem untorn_made (directory : Table) (request : StaffRequest) :
    Untorn [directory, request.made directory] := by
  refine untorn_pair request.target rfl ?_ ?_
  · intro id hne
    exact ⟨StaffChange.staff?_made_of_ne hne, storeList_made_of_ne hne⟩
  -- a change of a row leaves the grants, and the other way round
  · have hrows {change : StaffChange} (h : ∀ member, change.onRow member = member)
        (id : PrincipalId) :
        (change.made directory request.target).staff? id = directory.staff? id := by
      rw [StaffChange.staff?_made]
      simp only [h, ite_self, Option.map_id']
    rw [StaffRequest.made]
    cases request.change with
    | role => exact .inr (fun _ => rfl)
    | active => exact .inr (fun _ => rfl)
    | grant stores => exact .inl (hrows (fun _ => rfl))
    | revoke stores => exact .inl (hrows (fun _ => rfl))

/-- A caller reaches the same stores after a change to somebody else. -/
theorem reaches_made_iff {change : StaffChange} {target : PrincipalId} {caller : Staff}
    (h : caller.id ≠ target) {store : StoreId} :
    StaffChange.Reaches (change.made directory target) caller store ↔
      StaffChange.Reaches directory caller store := by
  have hgrants : ⟨caller.id, store⟩ ∈ (change.made directory target).grants ↔
      ⟨caller.id, store⟩ ∈ directory.grants :=
    StaffChange.mem_grants_made_of_ne h
  simp only [StaffChange.Reaches, hgrants]

variable {claims : Token.Claims} {target other : PrincipalId} {change change' : StaffChange}
  {caller member member' : Staff}

/-- A change stays permitted after a change to somebody other than the caller, if the caller still
manages the target and reaches its stores. -/
theorem StaffChange.PermittedTo.made (h : change.PermittedTo directory claims target caller member)
    (hcaller : claims.subject ≠ other)
    (hmember : (change'.made directory other).staff? target = some member')
    (hmanage : caller.role.canManage member'.role = true)
    (hreach : ∀ store, ⟨target, store⟩ ∈ (change'.made directory other).grants →
      StaffChange.Reaches directory caller store) :
    change.PermittedTo (change'.made directory other) claims target caller member' := by
  have hother : caller.id ≠ other := Table.staff?_id h.caller_eq ▸ hcaller
  have hrank := Role.ne_superAdmin_of_canManage hmanage
  refine ⟨h.kind_eq, ?_, h.active, h.other, hmember, hmanage, ?_, ?_⟩
  · rw [StaffChange.staff?_made_of_ne hcaller]
    exact h.caller_eq
  · intro store hstore
    rw [reaches_made_iff hother]
    exact hreach store ((Table.mem_storeList hrank).1 hstore)
  · have hadmits := h.admits
    cases change with
    | role newRole => exact hadmits
    | active isActive => trivial
    | grant stores =>
      obtain ⟨hne, hreaches, hstores⟩ := hadmits
      exact ⟨hne, fun store hstore => (reaches_made_iff hother).2 (hreaches store hstore), hstores⟩
    | revoke stores =>
      obtain ⟨hne, hreaches⟩ := hadmits
      exact ⟨hne, fun store hstore => (reaches_made_iff hother).2 (hreaches store hstore)⟩

/-- A caller to whom a change is permitted reaches the stores that are granted to the target. -/
theorem StaffChange.PermittedTo.reaches_of_mem
    (h : change.PermittedTo directory claims target caller member) {store : StoreId}
    (hmem : ⟨target, store⟩ ∈ directory.grants) : StaffChange.Reaches directory caller store :=
  h.reaches store ((Table.mem_storeList (Role.ne_superAdmin_of_canManage h.canManage)).2 hmem)

/-- A change stays permitted after a change to somebody who is neither caller nor target. -/
theorem StaffChange.PermittedTo.made_of_ne
    (h : change.PermittedTo directory claims target caller member)
    (hcaller : claims.subject ≠ other) (htarget : target ≠ other) :
    change.PermittedTo (change'.made directory other) claims target caller member := by
  refine h.made hcaller ?_ h.canManage ?_
  · rw [StaffChange.staff?_made_of_ne htarget]
    exact h.member_eq
  · intro store hstore
    exact h.reaches_of_mem ((StaffChange.mem_grants_made_of_ne htarget).1 hstore)

/-- A change stays permitted after another change to the target, if the caller still manages the
target and reaches what it was given. -/
theorem StaffChange.PermittedTo.made_self
    (h : change.PermittedTo directory claims target caller member)
    (hmanage : caller.role.canManage (change'.onRow member).role = true)
    (hgives : ∀ store, change'.Gives target ⟨target, store⟩ →
      StaffChange.Reaches directory caller store) :
    change.PermittedTo (change'.made directory target) claims target caller
      (change'.onRow member) := by
  refine h.made h.other (StaffChange.staff?_made_self h.member_eq) hmanage ?_
  intro store hstore
  rcases (StaffChange.mem_onGrants.1 hstore).1 with hold | hgiven
  · exact h.reaches_of_mem hold
  · exact hgives store hgiven

end Pairs

/-- A member of staff with an id is an administrator. -/
def Directory.Table.HasAdmin (directory : Table) (id : PrincipalId) : Prop :=
  ∃ member, directory.staff? id = some member ∧ member.role = .admin

/-- A member of staff with an id is an administrator to whom not all of the stores are granted. -/
def Directory.Table.FallsShort (directory : Table) (id : PrincipalId) (stores : List StoreId) :
    Prop :=
  directory.HasAdmin id ∧ ∃ store ∈ stores, ⟨id, store⟩ ∉ directory.grants

/-- What the first request makes of the target puts it out of the reach of the second one's caller,
and the second makes another thing of it than it would have made before the first. -/
inductive Collides (directory : Table) (first second : StaffRequest) : Prop where
  /-- The first makes an administrator, to whom an administrator gives another role. -/
  | promotion (newRole : Role) (hfirst : first.change = .role .admin)
      (hsecond : second.change = .role newRole) (hcaller : directory.HasAdmin second.claims.subject)
  /-- The first grants stores, not all of which the other caller reaches, and some of which that one
  takes away. -/
  | withdrawal (granted taken : List StoreId) (hfirst : first.change = .grant granted)
      (hsecond : second.change = .revoke taken) (hcommon : ∃ store ∈ granted, store ∈ taken)
      (hshort : directory.FallsShort second.claims.subject granted)
  /-- Each grants stores, not all of which the other caller reaches. -/
  | extension (granted granted' : List StoreId) (hfirst : first.change = .grant granted)
      (hsecond : second.change = .grant granted')
      (hshort : directory.FallsShort second.claims.subject granted)
      (hshort' : directory.FallsShort first.claims.subject granted')

/-- Two requests about the same member of staff that the directory permits, but not one after the
other. -/
structure Clash (directory : Table) (first second : StaffRequest) : Prop where
  /-- The requests are about the same member of staff. -/
  target_eq : first.target = second.target
  /-- The first is permitted. -/
  first_permitted : first.Permitted directory
  /-- The second is permitted. -/
  second_permitted : second.Permitted directory
  /-- The first puts the target out of the second one's reach. -/
  collides : Collides directory first second

section Pairs

variable {directory : Table} {claims : Token.Claims} {target : PrincipalId} {change : StaffChange}
  {caller member : Staff}

/-- A caller to whom a change is permitted, and who does not reach all of a batch, is an
administrator. -/
theorem StaffChange.PermittedTo.fallsShort
    (h : change.PermittedTo directory claims target caller member) {stores : List StoreId}
    (hbeyond : ¬ ∀ store ∈ stores, StaffChange.Reaches directory caller store) :
    caller.role = .admin ∧ directory.FallsShort claims.subject stores := by
  have hmanage := h.canManage
  simp only [StaffChange.Reaches, Classical.not_forall, not_or, exists_prop] at hbeyond
  obtain ⟨store, hstore, hrank, hgrant⟩ := hbeyond
  have hadmin : caller.role = .admin := by
    revert hmanage hrank
    cases caller.role <;> cases member.role <;> decide
  refine ⟨hadmin, ⟨caller, h.caller_eq, hadmin⟩, store, hstore, ?_⟩
  rwa [← Table.staff?_id h.caller_eq]

/-- Of two requests about one member of staff that are permitted, the second is permitted after the
first, or the first after the second with the same result, or they clash. -/
theorem permitted_cross_self {first second : StaffChange} {claims' : Token.Claims}
    {caller' member' : Staff}
    (hfirst : first.PermittedTo directory claims target caller member)
    (hsecond : second.PermittedTo directory claims' target caller' member') :
    second.Permitted (first.made directory target) claims' target ∨
      (first.Permitted (second.made directory target) claims target ∧
        (first.made (second.made directory target) target).Alike
          (second.made (first.made directory target) target)) ∨
      Collides directory ⟨claims, target, first⟩ ⟨claims', target, second⟩ := by
  obtain rfl : member' = member :=
    Option.some.inj (hsecond.member_eq.symm.trans hfirst.member_eq)
  have hmanage := hfirst.canManage
  have hmanage' := hsecond.canManage
  cases first with
  | active isActive => exact .inl ⟨_, _, hsecond.made_self hmanage' (by rintro _ ⟨⟩)⟩
  | revoke taken => exact .inl ⟨_, _, hsecond.made_self hmanage' (by rintro _ ⟨⟩)⟩
  | role newRole =>
    by_cases hrank : caller'.role.canManage newRole = true
    · exact .inl ⟨_, _, hsecond.made_self hrank (by rintro _ ⟨⟩)⟩
    -- only making an administrator puts the target above the second caller
    have hassign : caller.role.canManage newRole = true := hfirst.admits
    obtain ⟨hadmin, rfl, hsuper⟩ :
        caller'.role = .admin ∧ newRole = .admin ∧ caller.role = .superAdmin := by
      revert hmanage hmanage' hrank hassign
      cases caller.role <;> cases caller'.role <;> cases newRole <;> cases member'.role <;> decide
    have hback (hchange : caller.role.canManage (second.onRow member').role = true) :
        (StaffChange.role .admin).PermittedTo (second.made directory target) claims target caller
          (second.onRow member') :=
      hfirst.made_self hchange (fun _ _ => .inl hsuper)
    cases second with
    | role otherRole =>
      exact .inr (.inr (.promotion otherRole rfl rfl ⟨caller', hsecond.caller_eq, hadmin⟩))
    | active isActive =>
      exact .inr (.inl ⟨⟨_, _, hback hmanage⟩,
        StaffChange.made_alike (.inr fun _ => rfl) (by rintro _ ⟨⟩) (by rintro _ ⟨⟩)⟩)
    | grant others =>
      exact .inr (.inl ⟨⟨_, _, hback hmanage⟩,
        StaffChange.made_alike (.inr fun _ => rfl) (by rintro _ ⟨⟩) (fun _ _ htakes => htakes)⟩)
    | revoke taken =>
      exact .inr (.inl ⟨⟨_, _, hback hmanage⟩,
        StaffChange.made_alike (.inr fun _ => rfl) (by rintro _ ⟨⟩) (by rintro _ ⟨⟩)⟩)
  | grant granted =>
    by_cases hreach : ∀ store ∈ granted, StaffChange.Reaches directory caller' store
    · exact .inl ⟨_, _, hsecond.made_self hmanage' (fun store hgives => hreach store hgives.2)⟩
    obtain ⟨hadmin, hshort⟩ := hsecond.fallsShort hreach
    cases second with
    | role otherRole =>
      -- whom an administrator manages, the first caller manages as well
      have hassign : caller'.role.canManage otherRole = true := hsecond.admits
      have hstill : caller.role.canManage otherRole = true := by
        rw [hadmin] at hassign
        revert hmanage hassign
        cases caller.role <;> cases otherRole <;> cases member'.role <;> decide
      exact .inr (.inl ⟨⟨_, _, hfirst.made_self hstill (by rintro _ ⟨⟩)⟩,
        StaffChange.made_alike (.inr fun _ => rfl) (fun _ _ htakes => htakes) (by rintro _ ⟨⟩)⟩)
    | active isActive =>
      exact .inr (.inl ⟨⟨_, _, hfirst.made_self hmanage (by rintro _ ⟨⟩)⟩,
        StaffChange.made_alike (.inr fun _ => rfl) (fun _ _ htakes => htakes) (by rintro _ ⟨⟩)⟩)
    | grant others =>
      by_cases hreach' : ∀ store ∈ others, StaffChange.Reaches directory caller store
      · exact .inr (.inl ⟨⟨_, _, hfirst.made_self hmanage (fun store h => hreach' store h.2)⟩,
          StaffChange.made_alike (.inr fun _ => rfl) (fun _ _ htakes => htakes)
            (fun _ _ htakes => htakes)⟩)
      · exact .inr (.inr (.extension granted others rfl rfl hshort (hfirst.fallsShort hreach').2))
    | revoke taken =>
      by_cases hcommon : ∃ store ∈ granted, store ∈ taken
      · exact .inr (.inr (.withdrawal granted taken rfl rfl hcommon hshort))
      · exact .inr (.inl ⟨⟨_, _, hfirst.made_self hmanage (by rintro _ ⟨⟩)⟩,
          StaffChange.made_alike (.inr fun _ => rfl)
            (fun grant hgives htakes => hcommon ⟨grant.store, hgives.2, htakes.2⟩)
            (by rintro _ ⟨⟩)⟩)

/-- Of two requests that are permitted, the second is permitted after the first, or the first after
the second with the same result, or they clash. -/
theorem permitted_cross {first second : StaffRequest} (hfirst : first.Permitted directory)
    (hsecond : second.Permitted directory) :
    second.Permitted (first.made directory) ∨
      (first.Permitted (second.made directory) ∧
        (first.made (second.made directory)).Alike (second.made (first.made directory))) ∨
      Clash directory first second := by
  have ⟨caller, member, hpermitted⟩ := hfirst
  have ⟨caller', member', hpermitted'⟩ := hsecond
  by_cases hsame : first.target = second.target
  · obtain ⟨claims, target, change⟩ := first
    obtain ⟨claims', target', change'⟩ := second
    obtain rfl : target = target' := hsame
    rcases permitted_cross_self hpermitted hpermitted' with h | h | h
    · exact .inl h
    · exact .inr (.inl h)
    · exact .inr (.inr ⟨rfl, hfirst, hsecond, h⟩)
  by_cases hown : second.claims.subject = first.target
  -- the first request is about the second one's caller, who ranks between the others
  · have hne : first.claims.subject ≠ second.target := by
      intro heq
      have hcaller := hpermitted.caller_eq
      rw [heq, hpermitted'.member_eq] at hcaller
      have hcaller' := hpermitted'.caller_eq
      rw [hown, hpermitted.member_eq] at hcaller'
      have hlt := Role.rank_lt_of_canManage hpermitted.canManage
      have hlt' := Role.rank_lt_of_canManage hpermitted'.canManage
      rw [Option.some.inj hcaller'] at hlt
      rw [Option.some.inj hcaller] at hlt'
      exact absurd hlt (Nat.lt_asymm hlt')
    exact .inr (.inl ⟨⟨_, _, hpermitted.made_of_ne hne hsame⟩, StaffChange.made_alike_of_ne hsame⟩)
  · exact .inl ⟨_, _, hpermitted'.made_of_ne hown (Ne.symm hsame)⟩

end Pairs

/-- Nothing is torn between a directory and one in which a request has been served. -/
theorem untorn_serve (directory : Table) (request : StaffRequest) :
    Untorn [directory, (request.serve directory).2] := by
  by_cases h : request.Permitted directory
  · have hserve : request.serve directory = _ :=
      StaffRequest.settle_of_permitted h (.refl directory)
    rw [hserve]
    exact untorn_made directory request
  · obtain ⟨error, hrefused⟩ := StaffRequest.settle_of_not_permitted h
    have hserve : request.serve directory = _ := hrefused directory (.refl directory)
    rw [hserve]
    exact untorn_pair request.target rfl (fun _ _ => ⟨rfl, rfl⟩) (.inl fun _ => rfl)

/-- Two requests are served one after the other, and end with these outcomes and a directory like
this. -/
def Serves (directory : Table) (first second : StaffRequest)
    (outcome outcome' : Except AuthError Unit) (last : Table) : Prop :=
  (first.serve directory).1 = outcome ∧
    (second.serve (first.serve directory).2).1 = outcome' ∧
      (second.serve (first.serve directory).2).2.Alike last

/-- One request is served, and the other one decides before or after that, and is written after it.
-/
def Overlaps (directory : Table) (first second : StaffRequest)
    (outcome outcome' : Except AuthError Unit) (last : Table) : Prop :=
  (first.serve directory).1 = outcome ∧
    ∃ read ∈ [directory, (first.serve directory).2],
      second.settle (second.verdict read) (first.serve directory).2 = (outcome', last)

/-- Two requests, one of which decides early, come out as one after the other, unless they clash and
both are made. -/
theorem Overlaps.cases {directory last : Table} {first second : StaffRequest}
    {outcome outcome' : Except AuthError Unit}
    (h : Overlaps directory first second outcome outcome' last) :
    Serves directory first second outcome outcome' last ∨
      Serves directory second first outcome' outcome last ∨
        (Clash directory first second ∧ outcome = .ok () ∧ outcome' = .ok () ∧
          last = second.made (first.made directory)) := by
  obtain ⟨rfl, read, hread, hsettle⟩ := h
  have hlate (hread : read = (first.serve directory).2) :
      Serves directory first second (first.serve directory).1 outcome' last := by
    have hserve : second.serve (first.serve directory).2 = (outcome', last) := by
      rw [← hsettle, hread, StaffRequest.serve]
    exact ⟨rfl, by rw [hserve], by rw [hserve]; exact .refl last⟩
  rcases List.mem_cons.1 hread with rfl | hread
  -- the second one decided before the first was written
  · by_cases hfirst : first.Permitted read
    · have hserve : first.serve read = (.ok (), first.made read) :=
        StaffRequest.settle_of_permitted hfirst (.refl read)
      have hretains := first.retains_made read
      rw [hserve] at hsettle ⊢
      by_cases hsecond : second.Permitted read
      · have hserve' : second.serve read = (.ok (), second.made read) :=
          StaffRequest.settle_of_permitted hsecond (.refl read)
        rw [StaffRequest.settle_of_permitted hsecond hretains] at hsettle
        cases hsettle
        rcases permitted_cross hfirst hsecond with hafter | ⟨hafter, halike⟩ | hclash
        · have hserve'' : second.serve (first.made read) = _ :=
            StaffRequest.settle_of_permitted hafter (.refl _)
          refine .inl ⟨by rw [hserve], ?_, ?_⟩
          · rw [hserve, hserve'']
          · rw [hserve, hserve'']
            exact .refl _
        · have hserve'' : first.serve (second.made read) = _ :=
            StaffRequest.settle_of_permitted hafter (.refl _)
          refine .inr (.inl ⟨by rw [hserve'], ?_, ?_⟩)
          · rw [hserve', hserve'']
          · rw [hserve', hserve'']
            exact halike
        · exact .inr (.inr ⟨hclash, rfl, rfl, rfl⟩)
      -- a request that is refused might as well have come first
      · obtain ⟨error, hrefused⟩ := StaffRequest.settle_of_not_permitted hsecond
        have hserve' : second.serve read = (.error error, read) := hrefused read (.refl read)
        rw [hrefused _ hretains] at hsettle
        cases hsettle
        refine .inr (.inl ⟨by rw [hserve'], ?_, ?_⟩)
        · rw [hserve', hserve]
        · rw [hserve', hserve]
          exact .refl _
    · obtain ⟨error, hrefused⟩ := StaffRequest.settle_of_not_permitted hfirst
      have hserve : first.serve read = (.error error, read) := hrefused read (.refl read)
      exact .inl (hlate (by rw [hserve]))
  · exact .inl (hlate (List.mem_singleton.1 hread))

/-! ## Clashes are real -/

section Clashes

variable {directory : Table} {id target : PrincipalId} {claims : Token.Claims}
  {change : StaffChange} {first second : StaffRequest} {stores : List StoreId}

/-- Whoever is an administrator stays one when somebody else is changed. -/
theorem Directory.Table.HasAdmin.made (h : directory.HasAdmin id) (hne : id ≠ target) :
    (change.made directory target).HasAdmin id := by
  obtain ⟨member, hmember, hrole⟩ := h
  exact ⟨member, (StaffChange.staff?_made_of_ne hne).trans hmember, hrole⟩

/-- An administrator who falls short of stores still does so when somebody else is changed. -/
theorem Directory.Table.FallsShort.made (h : directory.FallsShort id stores) (hne : id ≠ target) :
    (change.made directory target).FallsShort id stores := by
  obtain ⟨hadmin, store, hstore, hmissing⟩ := h
  exact ⟨hadmin.made hne, store, hstore,
    fun hgrant => hmissing ((StaffChange.mem_grants_made_of_ne hne).1 hgrant)⟩

/-- No change to a target is permitted to an administrator who falls short of the stores that are
granted to the target. -/
theorem Directory.Table.FallsShort.not_permitted (h : directory.FallsShort claims.subject stores)
    (hgranted : ∀ store ∈ stores, ⟨target, store⟩ ∈ directory.grants) :
    ¬ change.Permitted directory claims target := by
  rintro ⟨caller, member, hpermitted⟩
  obtain ⟨⟨admin, hadmin, hrole⟩, store, hstore, hmissing⟩ := h
  obtain rfl : admin = caller := Option.some.inj (hadmin.symm.trans hpermitted.caller_eq)
  rcases hpermitted.reaches_of_mem (hgranted store hstore) with hsuper | hgrant
  · rw [hrole] at hsuper
    cases hsuper
  · rw [Table.staff?_id hadmin] at hgrant
    exact hmissing hgrant

/-- The stores that are granted to a target are among its grants. -/
theorem mem_grants_made_grant {store : StoreId} (h : store ∈ stores) :
    ⟨target, store⟩ ∈ ((StaffChange.grant stores).made directory target).grants := by
  rw [StaffChange.made, StaffChange.mem_onGrants]
  exact ⟨.inr ⟨rfl, h⟩, fun htaken => htaken⟩

/-- When the first of two requests that clash has been made, the second is permitted no more. -/
theorem Clash.not_permitted (h : Clash directory first second) :
    ¬ second.Permitted (first.made directory) := by
  obtain ⟨caller, member, hsecond⟩ := h.second_permitted
  have hne : second.claims.subject ≠ first.target := h.target_eq ▸ hsecond.other
  -- stores beyond the caller's reach were granted
  have hbeyond {granted : List StoreId} (hchange : first.change = .grant granted)
      (hshort : directory.FallsShort second.claims.subject granted) :
      ¬ second.Permitted (first.made directory) := by
    refine (hshort.made hne).not_permitted (fun store hstore => ?_)
    rw [hchange, ← h.target_eq]
    exact mem_grants_made_grant hstore
  cases h.collides with
  | withdrawal granted taken hchange hchange' hcommon hshort => exact hbeyond hchange hshort
  | extension granted granted' hchange hchange' hshort hshort' => exact hbeyond hchange hshort
  | promotion newRole hchange hchange' hcaller =>
    -- administrators do not manage each other
    rintro ⟨caller', member', hafter⟩
    obtain ⟨admin, hadmin, hrole⟩ := hcaller.made hne
    obtain rfl : admin = caller' := Option.some.inj (hadmin.symm.trans hafter.caller_eq)
    have hrow : (first.made directory).staff? second.target =
        some (first.change.onRow member) := by
      rw [StaffRequest.made, h.target_eq]
      exact StaffChange.staff?_made_self hsecond.member_eq
    have hmanage := hafter.canManage
    rw [Option.some.inj (hafter.member_eq.symm.trans hrow), hrole, hchange] at hmanage
    cases (Role.not_canManage_self .admin).symm.trans hmanage

/-- A request that is served with success is permitted. -/
theorem StaffRequest.permitted_of_serve {request : StaffRequest}
    (h : (request.serve directory).1 = .ok ()) : request.Permitted directory := by
  refine Classical.byContradiction fun hrefused => ?_
  obtain ⟨error, hsettle⟩ := StaffRequest.settle_of_not_permitted hrefused
  rw [StaffRequest.serve, hsettle directory (.refl directory)] at h
  cases h

/-- Requests that clash, and are both made, come out as they would in neither order. -/
theorem Clash.not_serves (h : Clash directory first second) :
    ¬ Serves directory first second (.ok ()) (.ok ()) (second.made (first.made directory)) ∧
      ¬ Serves directory second first (.ok ()) (.ok ()) (second.made (first.made directory)) := by
  refine ⟨?_, ?_⟩
  · rintro ⟨-, hsecond, -⟩
    have hserve : first.serve directory = (.ok (), first.made directory) :=
      StaffRequest.settle_of_permitted h.first_permitted (.refl directory)
    rw [hserve] at hsecond
    exact h.not_permitted (StaffRequest.permitted_of_serve hsecond)
  · rintro ⟨-, hfirst, halike⟩
    have hserve : second.serve directory = (.ok (), second.made directory) :=
      StaffRequest.settle_of_permitted h.second_permitted (.refl directory)
    rw [hserve] at hfirst halike
    have hpermitted := StaffRequest.permitted_of_serve hfirst
    have hserve' : first.serve (second.made directory) = _ :=
      StaffRequest.settle_of_permitted hpermitted (.refl _)
    rw [hserve'] at halike
    obtain ⟨grants, hlast, hgrants⟩ := halike
    cases h.collides with
    | promotion newRole hchange hchange' hcaller =>
      -- the target would end as an administrator, but an administrator does not make one
      obtain ⟨caller, member, hsecond⟩ := h.second_permitted
      obtain ⟨admin, hadmin, hrole⟩ := hcaller
      obtain rfl : admin = caller := Option.some.inj (hadmin.symm.trans hsecond.caller_eq)
      have hmember : directory.staff? first.target = some member :=
        h.target_eq ▸ hsecond.member_eq
      have hrow : (second.made (first.made directory)).staff? first.target =
          some (second.change.onRow (first.change.onRow member)) := by
        rw [StaffRequest.made, ← h.target_eq]
        exact StaffChange.staff?_made_self (StaffChange.staff?_made_self hmember)
      have hrow' : (first.made (second.made directory)).staff? first.target =
          some (first.change.onRow (second.change.onRow member)) := by
        refine StaffChange.staff?_made_self ?_
        rw [h.target_eq]
        exact StaffChange.staff?_made_self hsecond.member_eq
      have hsame := hrow.symm.trans ((congrArg (·.staff? first.target) hlast).trans hrow')
      rw [hchange, hchange'] at hsame
      obtain rfl : newRole = .admin := congrArg Staff.role (Option.some.inj hsame)
      have hadmits := hsecond.admits
      rw [hchange'] at hadmits
      have hassign : admin.role.canManage .admin = true := hadmits
      rw [hrole] at hassign
      cases (Role.not_canManage_self .admin).symm.trans hassign
    | withdrawal granted taken hchange hchange' hcommon hshort =>
      -- the store would be granted, but was taken away
      obtain ⟨store, hgranted, htaken⟩ := hcommon
      have hmem : ⟨first.target, store⟩ ∈ (second.made (first.made directory)).grants := by
        rw [hlast]
        refine (hgrants _).2 ?_
        rw [StaffRequest.made, hchange]
        exact mem_grants_made_grant hgranted
      refine (StaffChange.mem_onGrants.1 hmem).2 ?_
      rw [hchange']
      exact ⟨h.target_eq, htaken⟩
    | extension granted granted' hchange hchange' hshort hshort' =>
      have hswap : Clash directory second first :=
        ⟨h.target_eq.symm, h.second_permitted, h.first_permitted,
          .extension granted' granted hchange' hchange hshort' hshort⟩
      exact hswap.not_permitted hpermitted

end Clashes

end Gatehouse
