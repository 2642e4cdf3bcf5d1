import Gatehouse.Proofs.Execution

/-!
# Administration of staff

Who may change the access of a member of staff, read off the directory as it is now: whatever the
claims of the caller say, and whatever was cached before. Main statements: an administrative
operation succeeds exactly if the directory permits it, changes what it is meant to change and
nothing else, and changes nothing when it fails (`administration_ok_iff`).
-/

namespace Gatehouse

/-- A change that a member of staff can make to the access of another. -/
inductive StaffChange where
  /-- Another role. -/
  | role (newRole : Role)
  /-- Whether the member may sign in. -/
  | active (isActive : Bool)
  /-- Further stores. -/
  | grant (stores : List StoreId)
  /-- Stores that are taken away. -/
  | revoke (stores : List StoreId)

namespace StaffChange

/-- The operation that makes a change. -/
def operation (claims : Token.Claims) (target : PrincipalId) : StaffChange → Operation
  | role newRole => .changeRole claims target newRole
  | active isActive => .setActive claims target isActive
  | grant stores => .grantStores claims target stores
  | revoke stores => .revokeStores claims target stores

/-- A member of staff reaches a store: one who is bound to no stores, or to whom it is granted. -/
def Reaches (directory : Directory.Table) (member : Directory.Staff) (store : StoreId) : Prop :=
  member.role = .superAdmin ∨ ⟨member.id, store⟩ ∈ directory.grants

/-- What a change itself asks of a caller and of the directory. -/
def Admits (directory : Directory.Table) (caller : Directory.Staff) : StaffChange → Prop
  | role newRole => caller.role.canManage newRole = true
  | active _ => True
  | grant stores => stores ≠ [] ∧ (∀ store ∈ stores, Reaches directory caller store) ∧
      ∀ store ∈ stores, directory.HasStore store
  | revoke stores => stores ≠ [] ∧ ∀ store ∈ stores, Reaches directory caller store

/-- The directory permits a caller to make a change to a member of staff. -/
structure PermittedTo (directory : Directory.Table) (claims : Token.Claims) (target : PrincipalId)
    (change : StaffChange) (caller member : Directory.Staff) : Prop where
  /-- The claims are those of staff. -/
  kind_eq : claims.kind = .staff
  /-- The caller is the member of staff whom the claims name. -/
  caller_eq : directory.staff? claims.subject = some caller
  /-- The caller may sign in. -/
  active : caller.isActive = true
  /-- The target is somebody else. -/
  other : claims.subject ≠ target
  /-- The target is there. -/
  member_eq : directory.staff? target = some member
  /-- The caller's role manages the target's. -/
  canManage : caller.role.canManage member.role = true
  /-- The caller reaches every store of the target. -/
  reaches : ∀ store ∈ directory.storeList target member.role, Reaches directory caller store
  /-- The change is one that the caller may make. -/
  admits : change.Admits directory caller

/-- The directory permits the bearer of claims to make a change to the target. -/
def Permitted (directory : Directory.Table) (claims : Token.Claims) (target : PrincipalId)
    (change : StaffChange) : Prop :=
  ∃ caller member, change.PermittedTo directory claims target caller member

/-- One directory differs from another by a change to the target, and in nothing else. -/
def Changes (target : PrincipalId) (before after : Directory.Table) : StaffChange → Prop
  | role newRole => after = { before with
      staff := before.staff.map fun member =>
        if member.id == target then { member with role := newRole } else member }
  | active isActive => after = { before with
      staff := before.staff.map fun member =>
        if member.id == target then { member with isActive } else member }
  | grant stores => ∃ grants, after = { before with grants } ∧
      ∀ grant, grant ∈ grants ↔
        grant ∈ before.grants ∨ (grant.staff = target ∧ grant.store ∈ stores)
  | revoke stores => ∃ grants, after = { before with grants } ∧
      ∀ grant, grant ∈ grants ↔
        grant ∈ before.grants ∧ ¬ (grant.staff = target ∧ grant.store ∈ stores)

end StaffChange

/-- A caller manages a target in one role. -/
theorem Manages.role_unique {expected : (call : RequestCall) → call.Reply → Prop}
    {caller : Context} {target : PrincipalId} {role role' : Role} {member member' : Directory.Staff}
    (h : Manages expected caller target role member)
    (h' : Manages expected caller target role' member') : role = role' :=
  Option.some.inj (h.role_eq.symm.trans h'.role_eq)

variable {world : World} (around : Surroundings)

namespace Service

/-- A caller's role is that of the caller's context. -/
theorem perform_roleOf (caller : Context) :
    Action.perform (World.handler around) (roleOf caller) world =
      (some (caller.staffRole.elim (.error (.permissionDenied "staff role required")) .ok),
        world) := by
  rw [roleOf]
  cases caller.staffRole <;> rfl

/-- A member of staff who is required is the one in the directory. -/
theorem perform_requireStaff (id : PrincipalId) :
    Action.perform (World.handler around) (requireStaff id) world =
      (some ((world.directory.staff? id).elim (.error .principalNotFound) .ok), world) := by
  have hfind : Action.perform (World.handler around) (requireStaff id) world =
      Action.perform (World.handler around)
        (Action.require .principalNotFound (world.directory.staff? id)) world := rfl
  rw [hfind]
  cases world.directory.staff? id <;> rfl

/-- Whether a caller manages the target is read off the directory as it is now. -/
theorem perform_managedTarget (caller : Context) (target : PrincipalId) :
    (∃ role member, Manages (Truthful world.directory) caller target role member ∧
        Action.perform (World.handler around) (managedTarget caller target) world =
          (some (.ok (role, member)), world)) ∨
      ((∀ role member, ¬ Manages (Truthful world.directory) caller target role member) ∧
        ∃ error, Action.perform (World.handler around) (managedTarget caller target) world =
          (some (.error error), world)) := by
  rw [managedTarget, Action.perform_bind, perform_roleOf]
  -- one check after the other; where one fails, the matching field of `Manages` fails
  rcases hrole : caller.staffRole with _ | role
  · refine .inr ⟨?_, _, rfl⟩
    intro role member h
    rw [h.role_eq] at hrole
    cases hrole
  dsimp only [Option.elim_some]
  rw [Action.perform_check]
  split
  · rename_i hself
    refine .inr ⟨?_, _, rfl⟩
    intro role member h
    rw [h.other] at hself
    cases hself
  rename_i hother
  rw [Action.perform_bind, perform_requireStaff]
  rcases hfound : world.directory.staff? target with _ | member
  · refine .inr ⟨?_, _, rfl⟩
    intro role member h
    rw [says_getStaff.1 h.found] at hfound
    cases hfound
  dsimp only [Option.elim_some]
  have hunique (role' : Role) (member' : Directory.Staff)
      (h : Manages (Truthful world.directory) caller target role' member') :
      role' = role ∧ member' = member :=
    ⟨Option.some.inj (h.role_eq.symm.trans hrole),
      Option.some.inj ((says_getStaff.1 h.found).symm.trans hfound)⟩
  rw [Action.perform_check]
  split
  · rename_i hmanage
    refine .inr ⟨?_, _, rfl⟩
    intro role' member' h
    obtain ⟨rfl, rfl⟩ := hunique role' member' h
    rw [h.canManage] at hmanage
    cases hmanage
  rename_i hmanage
  have hother : caller.isFor .staff target = false := by simpa using hother
  have hmanage : role.canManage member.role = true := by simpa using hmanage
  have hfound := says_getStaff.2 hfound
  split
  · rename_i hbound
    -- only a caller who is bound to stores has the target's stores looked up
    have hlist (next : StoreSet → Action (Role × Directory.Staff)) :
        Action.perform (World.handler around)
          (do
            let stores : StoreSet ← Action.directory (.storeList member.id member.role)
            next stores) world =
          Action.perform (World.handler around)
            (next (world.directory.storeList member.id member.role)) world := rfl
    by_cases hreach : role.canAccessAll caller.stores
      (world.directory.storeList member.id member.role).ids = true
    · refine .inl ⟨role, member, ⟨hrole, hother, hfound, hmanage, fun _ =>
        ⟨_, says_storeList.2 rfl, hreach⟩⟩, (hlist _).trans ?_⟩
      rw [Action.perform_check, if_neg (by simp [hreach])]
      rfl
    · refine .inr ⟨?_, .permissionDenied
        ("staff " ++ toString target ++ " works in stores outside the caller's grants"), ?_⟩
      · intro role' member' h
        obtain ⟨rfl, rfl⟩ := hunique role' member' h
        obtain ⟨stores, hstores, hreaches⟩ := h.reaches hbound
        rw [← says_storeList.1 hstores] at hreaches
        exact hreach hreaches
      · refine (hlist _).trans ?_
        rw [Action.perform_check, if_pos (by simp [hreach])]
  · rename_i hrank
    exact .inl ⟨role, member, ⟨hrole, hother, hfound, hmanage, fun h => absurd h hrank⟩, rfl⟩

/-- Whether a batch passes is read off the directory as it is now. -/
theorem perform_checkBatch (caller : Context) (target : PrincipalId) (stores : List StoreId) :
    (∃ role member, Manages (Truthful world.directory) caller target role member ∧
        (stores ≠ [] ∧ role.canAccessAll caller.stores stores = true) ∧
          Action.perform (World.handler around) (checkBatch caller target stores) world =
            (some (.ok ()), world)) ∨
      ((∀ role member, Manages (Truthful world.directory) caller target role member →
          ¬ (stores ≠ [] ∧ role.canAccessAll caller.stores stores = true)) ∧
        ∃ error, Action.perform (World.handler around) (checkBatch caller target stores) world =
          (some (.error error), world)) := by
  rw [checkBatch, Action.perform_check]
  split
  · rename_i hempty
    refine .inr ⟨?_, _, rfl⟩
    rintro role member - ⟨hne, -⟩
    exact hne (List.isEmpty_iff.1 hempty)
  rename_i hne
  have hne : stores ≠ [] := fun h => hne (List.isEmpty_iff.2 h)
  rw [Action.perform_bind]
  rcases perform_managedTarget around caller target with
    ⟨role, member, hmanages, hrun⟩ | ⟨hnot, error, hrun⟩
  · rw [hrun]
    dsimp only
    split
    · rename_i hreach
      refine .inr ⟨?_, _, rfl⟩
      rintro role' member' hmanages' ⟨-, hreaches⟩
      obtain rfl := hmanages.role_unique hmanages'
      rw [hreaches] at hreach
      cases hreach
    · rename_i hreach
      exact .inl ⟨role, member, hmanages, ⟨hne, by simpa using hreach⟩, rfl⟩
  · rw [hrun]
    exact .inr ⟨fun role member hmanages => absurd hmanages (hnot role member), error, rfl⟩

end Service

namespace StaffChange

/-- What a change itself asks of a caller's context, in the role that manages the target. -/
def Suits (directory : Directory.Table) (caller : Context) (managing : Role) : StaffChange → Prop
  | role newRole => managing.canManage newRole = true
  | active _ => True
  | grant stores => (stores ≠ [] ∧ managing.canAccessAll caller.stores stores = true) ∧
      ∀ store ∈ stores, directory.HasStore store
  | revoke stores => stores ≠ [] ∧ managing.canAccessAll caller.stores stores = true

/-- By the directory, a context is good for a change to the target. -/
def Qualifies (directory : Directory.Table) (caller : Context) (target : PrincipalId)
    (change : StaffChange) : Prop :=
  ∃ role member, Manages (Truthful directory) caller target role member ∧
    change.Suits directory caller role

/-- A change is made if the caller's context is good for it, and otherwise fails without a trace. -/
def Decides (world : World) (caller : Context) (target : PrincipalId) (change : StaffChange)
    (run : Option (Except AuthError Unit) × World) : Prop :=
  (change.Qualifies world.directory caller target ∧ ∃ directory keyValue,
      run = (some (.ok ()), { world with directory, keyValue }) ∧
        change.Changes target world.directory directory) ∨
    (¬ change.Qualifies world.directory caller target ∧ ∃ error, run = (some (.error error), world))

end StaffChange

namespace Service

variable {service : Service} {claims : Token.Claims} {caller : Context} {after : World}

/-- A write to the directory that succeeds, and the dropping of a context. -/
theorem perform_write_forget {call : Directory.Call} {value : call.Value}
    {directory : Directory.Table} (h : world.directory.answer call = (.ok value, directory))
    (target : PrincipalId) :
    Action.perform (World.handler around)
        (do discard (Action.directory call); forget .staff target) world =
      (some (.ok ()), { world with
        directory
        keyValue := world.keyValue.erase (ContextCache.keyFor .staff target) }) := by
  rw [Action.perform_bind, perform_discard_directory, h]
  rfl

/-- Changing a role decides by the caller's context. -/
theorem decides_changeRole (hcaller : Action.perform (World.handler around)
      (service.permissions claims) world = (some (.ok caller), after))
    (target : PrincipalId) (newRole : Role) :
    (StaffChange.role newRole).Decides after caller target
      (Action.perform (World.handler around) (service.changeRole claims target newRole) world) := by
  rw [changeRole, Action.perform_bind, hcaller]
  dsimp only
  rw [Action.perform_bind]
  rcases perform_managedTarget around caller target with
    ⟨role, member, hmanages, hrun⟩ | ⟨hnot, error, hrun⟩
  · rw [hrun]
    dsimp only
    rw [Action.perform_check]
    split
    · rename_i hassign
      refine .inr ⟨?_, _, rfl⟩
      rintro ⟨role', member', hmanages', hassigns⟩
      obtain rfl := hmanages.role_unique hmanages'
      rw [StaffChange.Suits] at hassigns
      rw [hassigns] at hassign
      cases hassign
    · rename_i hassign
      have hassign : role.canManage newRole = true := by simpa using hassign
      have hwrite : after.directory.answer (.setRole target newRole) = (_, _) :=
        Directory.Table.changeStaff_of_found (says_getStaff.1 hmanages.found) _
      exact .inl ⟨⟨role, member, hmanages, hassign⟩, _, _,
        perform_write_forget around hwrite target, rfl⟩
  · rw [hrun]
    refine .inr ⟨?_, error, rfl⟩
    rintro ⟨role, member, hmanages, -⟩
    exact hnot role member hmanages

/-- Saying whether a member may sign in decides by the caller's context. -/
theorem decides_setActive (hcaller : Action.perform (World.handler around)
      (service.permissions claims) world = (some (.ok caller), after))
    (target : PrincipalId) (isActive : Bool) :
    (StaffChange.active isActive).Decides after caller target
      (Action.perform (World.handler around) (service.setActive claims target isActive) world) := by
  rw [setActive, Action.perform_bind, hcaller]
  dsimp only
  rw [Action.perform_bind, Action.perform_discard]
  rcases perform_managedTarget around caller target with
    ⟨role, member, hmanages, hrun⟩ | ⟨hnot, error, hrun⟩
  · have hwrite : after.directory.answer (.setActive target isActive) = (_, _) :=
      Directory.Table.changeStaff_of_found (says_getStaff.1 hmanages.found) _
    rw [hrun]
    exact .inl ⟨⟨role, member, hmanages, trivial⟩, _, _,
      perform_write_forget around hwrite target, rfl⟩
  · rw [hrun]
    refine .inr ⟨?_, error, rfl⟩
    rintro ⟨role, member, hmanages, -⟩
    exact hnot role member hmanages

/-- Taking grants away decides by the caller's context. -/
theorem decides_revokeStores (hcaller : Action.perform (World.handler around)
      (service.permissions claims) world = (some (.ok caller), after))
    (target : PrincipalId) (stores : List StoreId) :
    (StaffChange.revoke stores).Decides after caller target
      (Action.perform (World.handler around)
        (service.revokeStores claims target stores) world) := by
  rw [revokeStores, Action.perform_bind, hcaller]
  dsimp only
  rw [Action.perform_bind]
  rcases perform_checkBatch around caller target stores with
    ⟨role, member, hmanages, hbatch, hrun⟩ | ⟨hnot, error, hrun⟩
  · have hwrite : after.directory.answer (.revokeStores target stores) = (.ok (), _) := rfl
    rw [hrun]
    exact .inl ⟨⟨role, member, hmanages, hbatch⟩, _, _, perform_write_forget around hwrite target,
      _, rfl, fun _ => Directory.Table.mem_grants_revokeStores⟩
  · rw [hrun]
    refine .inr ⟨?_, error, rfl⟩
    rintro ⟨role, member, hmanages, hbatch⟩
    exact hnot role member hmanages hbatch

/-- Granting stores decides by the caller's context. -/
theorem decides_grantStores (hcaller : Action.perform (World.handler around)
      (service.permissions claims) world = (some (.ok caller), after))
    (target : PrincipalId) (stores : List StoreId) :
    (StaffChange.grant stores).Decides after caller target
      (Action.perform (World.handler around) (service.grantStores claims target stores) world) := by
  rw [grantStores, Action.perform_bind, hcaller]
  dsimp only
  rw [Action.perform_bind]
  rcases perform_checkBatch around caller target stores with
    ⟨role, member, hmanages, hbatch, hrun⟩ | ⟨hnot, error, hrun⟩
  · rw [hrun]
    dsimp only
    have hask (failure : StorageError → AuthError) : Action.perform (World.handler around)
        (Action.ofRequest failure (Request.directory (.grantStores target stores)) : Action Unit)
        after =
          (some ((after.directory.grantStores target stores).1.mapError failure),
            { after with directory := (after.directory.grantStores target stores).2 }) :=
      perform_ofRequest_directory around after (.grantStores target stores)
    rw [Action.perform_bind, hask]
    -- a store that does not exist is noticed only by the directory
    rcases after.directory.grantStores_cases target stores with
      ⟨-, hstores, hwrite⟩ | ⟨hmissing, what, hwrite⟩
    · rw [hwrite]
      exact .inl ⟨⟨role, member, hmanages, hbatch, hstores⟩, _, _, rfl, _, rfl,
        fun _ => Directory.Table.mem_foldl_addGrant⟩
    · rw [hwrite]
      refine .inr ⟨?_, _, rfl⟩
      rintro ⟨role', member', hmanages', -, hstores⟩
      exact hmissing ⟨⟨member', says_getStaff.1 hmanages'.found⟩, hstores⟩
  · rw [hrun]
    refine .inr ⟨?_, error, rfl⟩
    rintro ⟨role, member, hmanages, hbatch, -⟩
    exact hnot role member hmanages hbatch

end Service

namespace StaffChange

section Permitted

variable {directory : Directory.Table} {claims : Token.Claims} {target : PrincipalId}

/-- A caller reaches a batch of stores by role and grants exactly if each is within reach. -/
theorem canAccessAll_iff {member : Directory.Staff} {stores : List StoreId} :
    member.role.canAccessAll (directory.storeList member.id member.role) stores = true ↔
      ∀ store ∈ stores, Reaches directory member store := by
  rw [Role.canAccessAll, List.all_eq_true]
  refine forall_congr' (fun store => imp_congr_right fun _ => ?_)
  -- the highest role reaches all stores, and the others those granted to them
  by_cases hrole : member.role = .superAdmin
  · simp [Role.canAccess, Reaches, hrole]
  · simp [Role.canAccess, Reaches, hrole, StoreSet.contains_iff,
      Directory.Table.mem_storeList hrole]

/-- The context of a member of staff who may sign in. -/
theorem context?_eq {id : PrincipalId} {member : Directory.Staff}
    (hfound : directory.staff? id = some member) (hactive : member.isActive = true) :
    directory.context? .staff id = some ⟨member.id, .staff, member.username, some member.role,
      directory.storeList member.id member.role⟩ := by
  rw [Directory.Table.context?, hfound, Option.filter_some, if_pos hactive]
  rfl

/-- A context of staff is that of a member who may sign in. -/
theorem exists_of_context? {id : PrincipalId} {context : Context}
    (h : directory.context? .staff id = some context) :
    ∃ member, directory.staff? id = some member ∧ member.isActive = true ∧
      context = ⟨member.id, .staff, member.username, some member.role,
        directory.storeList member.id member.role⟩ := by
  obtain ⟨member, hmember, rfl⟩ := Option.map_eq_some_iff.1 h
  obtain ⟨hfound, hactive⟩ := Option.filter_eq_some_iff.1 hmember
  exact ⟨member, hfound, hactive, rfl⟩

/-- What a change asks of a caller's context is what it asks of the caller. -/
theorem suits_iff {change : StaffChange} {caller : Directory.Staff} :
    change.Suits directory ⟨caller.id, .staff, caller.username, some caller.role,
        directory.storeList caller.id caller.role⟩ caller.role ↔
      change.Admits directory caller := by
  cases change with
  | role newRole => exact Iff.rfl
  | active isActive => exact Iff.rfl
  | grant stores => simp only [Suits, Admits, canAccessAll_iff, and_assoc]
  | revoke stores => simp only [Suits, Admits, canAccessAll_iff]

/-- The directory permits a change exactly if the caller's context, as the directory gives it, is
good for the change. -/
theorem permitted_iff {change : StaffChange} :
    change.Permitted directory claims target ↔
      claims.kind = .staff ∧ ∃ caller, directory.context? .staff claims.subject = some caller ∧
        change.Qualifies directory caller target := by
  constructor
  · rintro ⟨caller, member, h⟩
    have hid := Directory.Table.staff?_id h.caller_eq
    have hmember := Directory.Table.staff?_id h.member_eq
    refine ⟨h.kind_eq, _, context?_eq h.caller_eq h.active, caller.role, member, ?_, ?_⟩
    · refine ⟨rfl, ?_, says_getStaff.2 h.member_eq, h.canManage, fun _ =>
        ⟨_, says_storeList.2 rfl, canAccessAll_iff.2 ?_⟩⟩
      · simpa [Context.isFor, hid] using h.other
      · rw [hmember]
        exact h.reaches
    · exact suits_iff.2 h.admits
  · rintro ⟨hkind, context, hcontext, role, member, hmanages, hsuits⟩
    obtain ⟨caller, hcaller, hactive, rfl⟩ := exists_of_context? hcontext
    obtain rfl : caller.role = role := Option.some.inj hmanages.role_eq
    have hid := Directory.Table.staff?_id hcaller
    have hfound := says_getStaff.1 hmanages.found
    have hmember := Directory.Table.staff?_id hfound
    refine ⟨caller, member, hkind, hcaller, hactive, ?_, hfound, hmanages.canManage, ?_,
      suits_iff.1 hsuits⟩
    · simpa [Context.isFor, hid] using hmanages.other
    -- the highest role skips the look at the target's stores, and reaches them anyway
    · by_cases hrank : caller.role = .superAdmin
      · exact fun _ _ => .inl hrank
      · obtain ⟨stores, hstores, hreach⟩ := hmanages.reaches hrank
        obtain rfl := says_storeList.1 hstores
        rw [hmember] at hreach
        exact canAccessAll_iff.1 hreach

end Permitted

end StaffChange

/-! ## Customers have no staff role -/

/-- What is cached for customers are contexts without a staff role. -/
def World.Unranked (world : World) : Prop :=
  ∀ id, ∀ entry ∈ world.keyValue.entries, entry.key = ContextCache.keyFor .customer id →
    ∃ context : Context, context.staffRole = none ∧ entry.value = context.write

/-- The calls that cache for customers only contexts without a staff role. -/
def KeepsUnranked : RequestCall → Prop
  | .store (.keyValue call) => ∀ id value, call.Sets (ContextCache.keyFor .customer id) value →
      ∃ context : Context, context.staffRole = none ∧ value = context.write
  | _ => True

namespace World

/-- Calls that cache for customers only contexts without a staff role keep it so. -/
theorem Unranked.handler {world : World} (h : world.Unranked) (around : Surroundings)
    (call : RequestCall) (hcall : KeepsUnranked call) :
    (World.handler around call world).2.Unranked := by
  intro id entry hmem hkey
  rcases mem_entries_handler hmem with hold | ⟨setting, rfl, hset⟩
  · exact h id entry hold hkey
  · exact hcall id entry.value (hkey ▸ hset)

/-- A program of such calls keeps it so. -/
theorem Unranked.run {α : Type} {world : World} (h : world.Unranked) (around : Surroundings)
    {program : Request α} {post : α → Prop}
    (hprogram : Program.Within (I := requests) KeepsUnranked (fun _ _ => True) post program) :
    (program.run (World.handler around) world).2.Unranked :=
  (hprogram.run (fun call _ hworld hcall =>
    ⟨hworld.handler around call hcall, fun _ _ => trivial⟩) h).1

end World

/-- Every operation caches for customers only contexts without a staff role. -/
theorem Operation.keepsUnranked (service : Service) (operation : Operation) :
    Action.Within KeepsUnranked (fun _ _ => True) (fun _ => True) (operation.action service) := by
  have licence : service.Licence KeepsUnranked (fun _ _ => True) := by
    refine ⟨?_, ?_, ?_, ?_⟩
    · rintro ((_ | _ | _) | _) hlooks
      · cases hlooks
      all_goals trivial
    · rintro kind id other value ⟨⟩
    · rintro kind id other value ⟨⟩
    -- what is cached was loaded, and customers are loaded without a role
    · rintro kind id context hloaded other value ⟨hkey, rfl⟩
      obtain ⟨hkind, -⟩ := ContextCache.keyFor_inj.1 hkey
      cases kind with
      | staff =>
        obtain ⟨staff, stores, -, -, -, rfl⟩ := hloaded
        cases hkind
      | customer =>
        obtain ⟨customer, -, rfl⟩ := hloaded
        exact ⟨_, rfl, rfl⟩
  refine Operation.within licence operation ?_
  rintro (call | call | call) hcall
  -- operations write to sessions and directory only
  · cases operation <;> simp [Operation.MayWrite] at hcall
  · trivial
  · trivial

/-- A sweep caches nothing for customers. -/
theorem Sweep.keepsUnranked (settings : SweepSettings) (purges : Bool) :
    Program.Within (I := requests) KeepsUnranked (fun _ _ => True) (fun _ => True)
      (Sweep.runOnce settings purges) := by
  refine Sweep.runOnce_within ?_ purges
  rintro ((call | _ | _) | _) hcall
  · rintro id value hset
    rcases hcall with rfl | rfl | rfl
    · exact absurd hset.1 (Lock.keyFor_ne settings.job .customer id)
    · cases hset
    · cases hset
  all_goals trivial

/-- Whatever has happened since a fresh start, no context that is cached for a customer has a staff
role. -/
theorem World.unranked_play (service : Service) (clock : Clock) (directory : Directory.Table)
    (scenes : List Scene) :
    (play World.handler service scenes (fresh clock directory)).2.Unranked := by
  refine play_induction (motive := fun _ world => world.Unranked) ?_ ?_ scenes
  · rintro id entry ⟨⟩
  · rintro history world ⟨around, operation | ⟨settings, purges⟩ | duration⟩ hunranked
    · exact hunranked.run around (operation.keepsUnranked service)
    · exact hunranked.run around (Sweep.keepsUnranked settings purges)
    · exact hunranked

/-! ## The operations -/

/-- Resolving the context of a customer gives one without a staff role, or fails; it breaks off only
where the clock cannot show the end of a lifetime. -/
theorem ContextCache.resolve_customer_cases {world : World} (h : world.Unranked)
    (around : Surroundings) (ttl : Duration) (id : PrincipalId) :
    ∃ outcome keyValue, Action.perform (World.handler around) (resolve ttl .customer id) world =
        (outcome, { world with keyValue }) ∧
      (outcome = none → ¬ world.clock.CanShow ttl) ∧
      ∀ context, outcome = some (.ok context) → context.staffRole = none := by
  rcases perform_resolve_cases around world ttl .customer id with
    ⟨value, context, hvalue, hdecode, hrun⟩ |
      ⟨-, keyValue, ⟨-, hrun⟩ | ⟨context, hcontext, ⟨hshow, hrun⟩ | hrun⟩⟩
  · refine ⟨_, _, hrun, by rintro ⟨⟩, ?_⟩
    rintro _ ⟨⟩
    obtain ⟨entry, hmem, hkey, rfl, -⟩ := KeyValue.Table.exists_mem_of_get hvalue
    obtain ⟨written, hrank, hwritten⟩ := h id entry hmem hkey
    -- the entry reads back as the context that was written
    rw [hwritten, decode?_write] at hdecode
    split at hdecode
    · cases hdecode
      exact hrank
    · cases hdecode
  · exact ⟨_, _, hrun, by rintro ⟨⟩, by rintro _ ⟨⟩⟩
  · exact ⟨_, _, hrun, fun _ => hshow, by rintro _ ⟨⟩⟩
  · obtain ⟨customer, -, rfl⟩ := Option.map_eq_some_iff.1 hcontext
    refine ⟨_, _, hrun, by rintro ⟨⟩, ?_⟩
    rintro _ ⟨⟩
    rfl

namespace StaffChange

/-- The action that makes a change. -/
def action (service : Service) (claims : Token.Claims) (target : PrincipalId) :
    StaffChange → Action Unit
  | role newRole => service.changeRole claims target newRole
  | active isActive => service.setActive claims target isActive
  | grant stores => service.grantStores claims target stores
  | revoke stores => service.revokeStores claims target stores

variable {service : Service} {claims : Token.Claims} {target : PrincipalId} {change : StaffChange}
  {world : World}

/-- The context of a caller is resolved under the kind that the claims have. -/
theorem permissions_eq {kind : PrincipalKind} (h : claims.kind = kind) :
    service.permissions claims =
      ContextCache.resolve service.contextTtl kind claims.subject := by
  rw [Service.permissions, h]

/-- A change begins with the caller's context, and ends without one. -/
theorem perform_action_of_not_ok (around : Surroundings) (failure : Option AuthError)
    {after : World} (h : Action.perform (World.handler around) (service.permissions claims) world =
      (failure.map .error, after)) :
    Action.perform (World.handler around) (change.action service claims target) world =
      (failure.map .error, after) := by
  obtain ⟨next, hnext⟩ : ∃ next : Context → Action Unit,
      change.action service claims target = service.permissions claims >>= next := by
    cases change <;> exact ⟨_, rfl⟩
  rw [hnext, Action.perform_bind, h]
  cases failure <;> rfl

/-- Every change decides by the caller's context. -/
theorem decides (change : StaffChange) (target : PrincipalId) (around : Surroundings)
    {caller : Context} {after : World}
    (hcaller : Action.perform (World.handler around) (service.permissions claims) world =
      (some (.ok caller), after)) :
    change.Decides after caller target
      (Action.perform (World.handler around) (change.action service claims target) world) := by
  cases change with
  | role newRole => exact Service.decides_changeRole around hcaller target newRole
  | active isActive => exact Service.decides_setActive around hcaller target isActive
  | grant stores => exact Service.decides_grantStores around hcaller target stores
  | revoke stores => exact Service.decides_revokeStores around hcaller target stores

/-- Where what is cached is true of staff and gives customers no staff role, a change is made
exactly if the directory permits it, or else fails without a trace in the directory; it breaks off
only where the clock cannot show the end of a lifetime. -/
theorem perform_action_cases (hcoherent : world.Coherent (fun kind _ => kind = .staff))
    (hunranked : world.Unranked) (around : Surroundings) :
    (¬ world.clock.CanShow service.contextTtl ∧ ∃ keyValue,
        Action.perform (World.handler around) (change.action service claims target) world =
          (none, { world with keyValue })) ∨
      (change.Permitted world.directory claims target ∧ ∃ directory keyValue,
        Action.perform (World.handler around) (change.action service claims target) world =
          (some (.ok ()), { world with directory, keyValue }) ∧
            change.Changes target world.directory directory) ∨
      (¬ change.Permitted world.directory claims target ∧ ∃ error keyValue,
        Action.perform (World.handler around) (change.action service claims target) world =
          (some (.error error), { world with keyValue })) := by
  cases hkind : claims.kind with
  | staff =>
    rcases ContextCache.resolve_cases around hcoherent .staff claims.subject rfl
      service.contextTtl with
      ⟨hnone, hrun⟩ | ⟨caller, hcontext, ⟨hshow, hrun⟩ | ⟨keyValue, hrun⟩⟩
    · rw [← permissions_eq hkind] at hrun
      refine .inr (.inr ⟨?_, .principalNotFound, world.keyValue,
        perform_action_of_not_ok around (some .principalNotFound) hrun⟩)
      rw [permitted_iff]
      rintro ⟨-, caller, hcaller, -⟩
      rw [hnone] at hcaller
      cases hcaller
    · rw [← permissions_eq hkind] at hrun
      exact .inl ⟨hshow, world.keyValue, perform_action_of_not_ok around none hrun⟩
    · rw [← permissions_eq hkind] at hrun
      have hpermitted : change.Permitted world.directory claims target ↔
          change.Qualifies world.directory caller target := by
        rw [permitted_iff]
        constructor
        · rintro ⟨-, other, hother, hqualifies⟩
          obtain rfl : caller = other := Option.some.inj (hcontext.symm.trans hother)
          exact hqualifies
        · exact fun hqualifies => ⟨hkind, caller, hcontext, hqualifies⟩
      rw [hpermitted]
      rcases change.decides target around hrun with
        ⟨hqualifies, directory, keyValue, hrun, hchanges⟩ | ⟨hnot, error, hrun⟩
      · exact .inr (.inl ⟨hqualifies, directory, keyValue, hrun, hchanges⟩)
      · exact .inr (.inr ⟨hnot, error, keyValue, hrun⟩)
  | customer =>
    obtain ⟨outcome, keyValue, hrun, hshow, hrank⟩ :=
      ContextCache.resolve_customer_cases hunranked around service.contextTtl claims.subject
    rw [← permissions_eq hkind] at hrun
    -- customers change nobody, and their contexts have no staff role
    have hnot : ¬ change.Permitted world.directory claims target := by
      rw [permitted_iff]
      rintro ⟨hstaff, -⟩
      rw [hkind] at hstaff
      cases hstaff
    rcases outcome with _ | error | caller
    · exact .inl ⟨hshow rfl, keyValue, perform_action_of_not_ok around none hrun⟩
    · exact .inr (.inr ⟨hnot, error, keyValue,
        perform_action_of_not_ok around (some error) hrun⟩)
    · rcases change.decides target around hrun with
        ⟨⟨role, member, hmanages, -⟩, -⟩ | ⟨-, error, hrun⟩
      · have hrole := hmanages.role_eq
        rw [hrank caller rfl] at hrole
        cases hrole
      · exact .inr (.inr ⟨hnot, error, keyValue, hrun⟩)

end StaffChange

/-- After any history since a fresh start, a change of a member of staff is made exactly if the
directory as it is now permits it to the bearer of the claims, whatever else the claims say. Then
the directory differs by the change and in nothing else; if it is not made, the directory stays as
it is. The operation ends unless the clock cannot show the end of a cached context's lifetime. -/
theorem administration_ok_iff {service : Service} {clock : Clock} {directory : Directory.Table}
    {scenes : List Scene} {history : List Event} {world : World}
    (hplay : World.play World.handler service scenes (.fresh clock directory) = (history, world))
    (around : Surroundings) (change : StaffChange) (claims : Token.Claims) (target : PrincipalId)
    {outcome : Option (Except AuthError Answer)} {after : World}
    (hrun : World.enact World.handler service
      ⟨around, .operation (change.operation claims target)⟩ world = (outcome, after)) :
    (world.clock.CanShow service.contextTtl → outcome ≠ none) ∧
      (outcome ≠ none →
        (outcome = some (.ok .done) ↔ change.Permitted world.directory claims target)) ∧
      (outcome = some (.ok .done) → change.Changes target world.directory after.directory) ∧
      (outcome ≠ some (.ok .done) → after.directory = world.directory) := by
  have hcoherent := World.coherent_play service clock directory scenes
  have hunranked := World.unranked_play service clock directory scenes
  rw [hplay] at hcoherent hunranked
  have henact : World.enact World.handler service
      ⟨around, .operation (change.operation claims target)⟩ world =
        ((Action.perform (World.handler around)
            (change.action service claims target) world).1.map (Except.map fun _ => .done),
          (Action.perform (World.handler around)
            (change.action service claims target) world).2) := by
    cases change <;> exact Action.perform_map (World.handler around) world _ _
  rw [henact] at hrun
  -- it breaks off, or is made, or is refused
  rcases StaffChange.perform_action_cases hcoherent hunranked around with
    ⟨hshow, keyValue, haction⟩ | ⟨hpermitted, directory, keyValue, haction, hchanges⟩ |
      ⟨hnot, error, keyValue, haction⟩
  · rw [haction] at hrun
    cases hrun
    exact ⟨fun h => absurd h hshow, fun h => absurd rfl h, by rintro ⟨⟩, fun _ => rfl⟩
  · rw [haction] at hrun
    cases hrun
    exact ⟨fun _ => by rintro ⟨⟩, fun _ => iff_of_true rfl hpermitted, fun _ => hchanges,
      fun h => absurd rfl h⟩
  · rw [haction] at hrun
    cases hrun
    exact ⟨fun _ => by rintro ⟨⟩, fun _ => iff_of_false (by rintro ⟨⟩) hnot, by rintro ⟨⟩,
      fun _ => rfl⟩

/-- A directory with a second member of staff. -/
def Directory.Table.plainPair : Table :=
  (plain.addStaff "amy" "amy@localhost" "third password" .stylist).2

/-- The world in which the first of the two has signed in. -/
def World.plainPair : World :=
  (play handler .plain [.plain] (.fresh ⟨⟨0⟩, .zero⟩ .plainPair)).2

/-- The member of staff with the highest role, whose context is in the cache, makes the other one a
manager. -/
theorem administration_ok_iff_promotion :
    (StaffChange.role .manager).Permitted World.plainPair.directory .plain 2 ∧
      (World.enact World.handler .plain ⟨.plain, .operation (.changeRole .plain 2 .manager)⟩
        .plainPair).1 = some (.ok .done) := by
  have hdirectory : World.plainPair.directory = .plainPair := by rfl
  have hshow : World.plainPair.clock.CanShow Service.plain.contextTtl := by rfl
  have hpermitted : (StaffChange.role .manager).Permitted World.plainPair.directory .plain 2 := by
    rw [hdirectory]
    refine ⟨_, _, rfl, rfl, rfl, by decide, rfl, rfl, fun _ _ => .inl rfl, rfl⟩
  obtain ⟨hends, hiff, -, -⟩ := administration_ok_iff rfl .plain (StaffChange.role .manager)
    .plain 2 (Prod.eta (World.enact World.handler .plain
      ⟨.plain, .operation (.changeRole .plain 2 .manager)⟩ .plainPair)).symm
  exact ⟨hpermitted, (hiff (hends hshow)).2 hpermitted⟩

end Gatehouse
