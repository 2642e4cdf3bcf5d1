import Gatehouse.Proofs.Coherence
import Gatehouse.Proofs.HighestRole
import Gatehouse.Proofs.Schedule

/-!
# Authority is confined

What staff can bring about when nobody with the highest role asks for anything: in whatever order
requests take turns, nobody rises to an administrator, whoever is one keeps role, right to sign in
and grants, and no store is granted that was not within reach of an active administrator at the
start. What a request goes by may be out of date when it writes; it was true of administrators when
it was read, and about them it stays true. Main statement: `authority_confined`.
-/

namespace Gatehouse

namespace Directory.Table

/-- The member of staff with an id is an administrator or above. -/
def Leads (table : Table) (id : PrincipalId) : Prop :=
  ∃ member, table.staff? id = some member ∧ member.role.isAtLeast .admin = true

/-- A store is within reach of an administrator who may sign in. -/
def Lends (table : Table) (store : StoreId) : Prop :=
  ∃ admin, table.staff? admin.id = some admin ∧ admin.role = .admin ∧ admin.isActive = true ∧
    ⟨admin.id, store⟩ ∈ table.grants

/-- What a directory has kept since the start when authority is confined. -/
structure Confines (start table : Table) : Prop where
  /-- Whoever is an administrator or above was so at the start. -/
  ranks : ∀ id, table.Leads id → start.Leads id
  /-- Whoever was so has kept role and right to sign in. -/
  rows : ∀ id, start.Leads id →
    (table.staff? id).map (fun member => (member.role, member.isActive)) =
      (start.staff? id).map (fun member => (member.role, member.isActive))
  /-- Whoever was so has kept the grants. -/
  grants : ∀ id, start.Leads id →
    table.grants.filter (fun grant => grant.staff == id) =
      start.grants.filter (fun grant => grant.staff == id)
  /-- Every grant is an old one, or of a store that an administrator could lend. -/
  reach : ∀ grant ∈ table.grants, grant ∈ start.grants ∨ start.Lends grant.store

/-- The directory at the start bears out what is said about the rank of a member of staff. -/
def BearsOut (start : Table) (id : PrincipalId) (member : Staff) : Prop :=
  member.id = id ∧ (start.Leads id ∨ member.role.isAtLeast .admin = true →
    ∃ old, start.staff? id = some old ∧ old.role = member.role ∧ old.isActive = member.isActive)

/-- The directory at the start vouches for a context of a member of staff: an administrator or above
was one, and could sign in, and an administrator reached the stores. -/
def VouchesFor (start : Table) (id : PrincipalId) (context : Context) : Prop :=
  ∀ role, context.role = some role → role.isAtLeast .admin = true →
    ∃ old, start.staff? id = some old ∧ old.role = role ∧ old.isActive = true ∧
      (role = .admin → ∀ store ∈ context.stores, ⟨id, store⟩ ∈ start.grants)

end Directory.Table

section Bounds

variable (start : Directory.Table)

/-- The calls that keep authority confined. -/
def KeepsConfined : RequestCall → Prop
  | .store (.directory (.setRole id role)) => ¬ start.Leads id ∧ role.isAtLeast .admin = false
  | .store (.directory (.setActive id _)) => ¬ start.Leads id
  | .store (.directory (.grantStores id stores)) =>
    ¬ start.Leads id ∧ ∀ store ∈ stores, start.Lends store
  | .store (.directory (.revokeStores id _)) => ¬ start.Leads id
  | .store (.keyValue call) => ∀ id value, call.Sets (ContextCache.keyFor .staff id) value →
      ∀ context, ContextCache.decode? .staff id value = some context → start.VouchesFor id context
  | _ => True

/-- The replies that the directory at the start bears out. -/
def BornOut : (call : RequestCall) → call.Reply → Prop
  | .store (.directory (.getStaff id)), reply =>
    ∀ member : Directory.Staff, reply = (.ok (some member) : Except StorageError (Option _)) →
      start.BearsOut id member
  | .store (.directory (.storeList id role)), reply =>
    ∀ stores : StoreSet, reply = (.ok stores : Except StorageError _) → role = .admin →
      start.Leads id → ∀ store ∈ stores, ⟨id, store⟩ ∈ start.grants
  | .store (.keyValue (.get key)), reply =>
    ∀ value : Bytes, reply = (.ok (some value) : Except StorageError (Option _)) →
      ∀ id, key = ContextCache.keyFor .staff id →
        ∀ context, ContextCache.decode? .staff id value = some context →
          start.VouchesFor id context
  | _, _ => True

variable {start} {id : PrincipalId} {caller : Context} {claims : Token.Claims}

/-- The directory at the start vouches for a context that was loaded. -/
theorem Loaded.vouched {context : Context}
    (h : Loaded (BornOut start) .staff id context) :
    context.principalId = id ∧ start.VouchesFor id context := by
  obtain ⟨member, stores, hfound, hactive, hstores, rfl⟩ := h
  obtain ⟨hid, hrank⟩ := hfound member rfl
  refine ⟨hid, ?_⟩
  rintro role ⟨⟩ hlead
  obtain ⟨old, hold, hrole, hsame⟩ := hrank (.inr hlead)
  refine ⟨old, hold, hrole, hsame.trans hactive, ?_⟩
  intro hadmin
  rw [← hid]
  exact hstores stores rfl hadmin ⟨old, by rw [hid, hold], by rw [hrole, hlead]⟩

/-- The directory at the start vouches for the context that a request goes by. -/
theorem Resolved.vouched {context : Context}
    (h : Resolved (BornOut start) .staff id context) : start.VouchesFor id context := by
  rcases h with ⟨value, hvalue, hdecode⟩ | hloaded
  · exact hvalue value rfl id rfl context hdecode
  · exact hloaded.vouched.2

/-- A caller who manages a member of staff, and does not hold the highest role, is an administrator
with the stores of one; and the member is none. -/
theorem Manages.of_confined {target : PrincipalId} {role : Role} {member : Directory.Staff}
    (h : Manages (BornOut start) caller target role member)
    (hcaller : Resolved (BornOut start) claims.kind claims.subject caller)
    (hclaims : claims.kind = .staff → ¬ start.HasSuperAdmin claims.subject) :
    role = .admin ∧ ¬ start.Leads target ∧ ∀ store ∈ caller.stores, start.Lends store := by
  have hmanage := h.canManage
  have hkind : claims.kind = .staff := by
    have hrole := h.role_eq
    rw [Context.staffRole] at hrole
    split at hrole
    · rename_i hkind
      exact hcaller.kind_eq.symm.trans hkind
    · cases hrole
  have hrole : caller.role = some role := by
    have hrole := h.role_eq
    rwa [Context.staffRole, hcaller.kind_eq, hkind] at hrole
  -- whoever manages anybody is an administrator or above
  have hlead : role.isAtLeast .admin = true := by
    revert hmanage
    cases role <;> cases member.role <;> decide
  rw [hkind] at hcaller
  obtain ⟨old, hold, hsame, hactive, hstores⟩ := hcaller.vouched role hrole hlead
  have hadmin : role = .admin := by
    have hne : role ≠ .superAdmin := fun heq => hclaims hkind ⟨old, hold, hsame.trans heq⟩
    revert hlead hne
    cases role <;> decide
  refine ⟨hadmin, ?_, ?_⟩
  -- an administrator manages nobody who was one at the start
  · intro htarget
    obtain ⟨row, hrow, hrank⟩ := htarget
    obtain ⟨-, hborne⟩ := h.found member rfl
    obtain ⟨old', hold', hsame', -⟩ := hborne (.inl ⟨row, hrow, hrank⟩)
    rw [hrow] at hold'
    cases hold'
    rw [hsame'] at hrank
    rw [hadmin] at hmanage
    revert hmanage hrank
    cases member.role <;> decide
  · intro store hstore
    have hid := Directory.Table.staff?_id hold
    refine ⟨old, by rw [hid, hold], hsame.trans hadmin, hactive, ?_⟩
    rw [hid]
    exact hstores hadmin store hstore

/-- Every operation that nobody with the highest role asks for keeps authority confined, as long as
the directory at the start bears the replies out. -/
theorem Operation.confined (service : Service) (operation : Operation)
    (hcaller : ∀ claims, operation.claims? = some claims → claims.kind = .staff →
      ¬ start.HasSuperAdmin claims.subject) :
    Action.Within (KeepsConfined start) (BornOut start) (fun _ => True)
      (operation.action service) := by
  have licence : service.Licence (KeepsConfined start) (BornOut start) := by
    refine ⟨?_, ?_, ?_, ?_⟩
    · rintro ((_ | _ | call) | _) hlooks
      · cases hlooks
      · trivial
      · cases call <;> trivial
      · trivial
    · rintro kind id other value ⟨⟩
    · rintro kind id other value ⟨⟩
    -- what is cached for staff was loaded for the same member
    · rintro kind id context hloaded other value ⟨hkey, rfl⟩ cached hdecode
      obtain ⟨hkind, hid⟩ := ContextCache.keyFor_inj.1 hkey
      rw [ContextCache.decode?_write] at hdecode
      split at hdecode
      · cases hdecode
        cases kind with
        | staff =>
          obtain ⟨hsame, hvouched⟩ := hloaded.vouched
          exact hid ▸ hsame ▸ hvouched
        | customer =>
          obtain ⟨customer, -, rfl⟩ := hloaded
          cases hkind
      · cases hdecode
  refine Operation.within licence operation ?_
  intro call hcall
  cases operation with
  | signInStaff => obtain ⟨new, rfl⟩ := hcall; trivial
  | signInCustomer => obtain ⟨new, rfl⟩ | ⟨identity, rfl⟩ := hcall <;> trivial
  | refresh => cases hcall
  | signOut => cases hcall; trivial
  | permissions => cases hcall
  | authorize => cases hcall
  | changePassword =>
    obtain ⟨caller, member, hash, -, -, rfl⟩ := hcall
    trivial
  | changeRole claims target newRole =>
    obtain ⟨caller, role, member, hresolved, hmanages, hassign, rfl⟩ := hcall
    obtain ⟨rfl, htarget, -⟩ := hmanages.of_confined hresolved (hcaller claims rfl)
    refine ⟨htarget, ?_⟩
    revert hassign
    cases newRole <;> decide
  | setActive claims target active =>
    obtain ⟨caller, role, member, hresolved, hmanages, rfl⟩ := hcall
    exact (hmanages.of_confined hresolved (hcaller claims rfl)).2.1
  | grantStores claims target stores =>
    obtain ⟨caller, role, member, hresolved, hmanages, hreach, rfl⟩ := hcall
    obtain ⟨rfl, htarget, hlends⟩ := hmanages.of_confined hresolved (hcaller claims rfl)
    refine ⟨htarget, ?_⟩
    intro store hstore
    have hgranted := List.all_eq_true.1 hreach store hstore
    exact hlends store (StoreSet.contains_iff.1 hgranted)
  | revokeStores claims target stores =>
    obtain ⟨caller, role, member, hresolved, hmanages, -, rfl⟩ := hcall
    exact (hmanages.of_confined hresolved (hcaller claims rfl)).2.1

end Bounds

namespace Directory.Table

variable {start table : Table}

/-- A directory is confined as it stands. -/
theorem Confines.refl (table : Table) : Confines table table :=
  ⟨fun _ h => h, fun _ _ => rfl, fun _ _ => rfl, fun _ h => .inl h⟩

/-- Authority stays confined under a change of a member of staff that makes nobody an administrator
and leaves those who were as they are. -/
theorem Confines.changeStaff (h : Confines start table) {id : PrincipalId}
    {change : Staff → Staff} (hid : ∀ member, (change member).id = member.id)
    (hrole : ∀ member, (change member).role.isAtLeast .admin = true →
      member.role.isAtLeast .admin = true)
    (hlead : start.Leads id → ∀ member,
      (change member).role = member.role ∧ (change member).isActive = member.isActive) :
    Confines start (table.changeStaff id change).2 := by
  refine ⟨?_, ?_, ?_, ?_⟩
  · rintro other ⟨member, hmember, hrank⟩
    rw [staff?_changeStaff hid] at hmember
    obtain ⟨old, hold, rfl⟩ := Option.map_eq_some_iff.1 hmember
    refine h.ranks other ⟨old, hold, ?_⟩
    split at hrank
    · exact hrole old hrank
    · exact hrank
  · intro other hother
    rw [← h.rows other hother, staff?_changeStaff hid, Option.map_map]
    refine Option.map_congr ?_
    intro member hmember
    rw [Function.comp]
    split
    · rename_i heq
      have hid : other = id := (staff?_id hmember).symm.trans heq
      obtain ⟨hsame, hactive⟩ := hlead (hid ▸ hother) member
      rw [hsame, hactive]
    · rfl
  · intro other hother
    rw [changeStaff_eq]
    exact h.grants other hother
  · rw [changeStaff_eq]
    exact h.reach

/-- Authority stays confined under the calls that keep it so. -/
theorem Confines.answer (h : Confines start table) {call : Call}
    (hcall : KeepsConfined start (.store (.directory call))) :
    Confines start (table.answer call).2 := by
  cases call with
  | setPasswordHash id hash =>
    exact h.changeStaff (fun _ => rfl) (fun _ hrole => hrole) (fun _ _ => ⟨rfl, rfl⟩)
  | setRole id role =>
    refine h.changeStaff (fun _ => rfl) ?_ (fun hlead => absurd hlead hcall.1)
    intro member hrole
    rw [hcall.2] at hrole
    cases hrole
  | setActive id active =>
    exact h.changeStaff (fun _ => rfl) (fun _ hrole => hrole) (fun hlead => absurd hlead hcall)
  | grantStores id stores =>
    have hgrants (other : PrincipalId) (hother : start.Leads other) :=
      filter_grantStores table (fun heq : other = id => hcall.1 (heq ▸ hother)) stores
    have hreach : ∀ grant ∈ (table.grantStores id stores).2.grants,
        grant ∈ start.grants ∨ start.Lends grant.store := by
      intro grant hgrant
      rcases grantStores_cases table id stores with ⟨-, -, heq⟩ | ⟨-, what, heq⟩
      · rw [heq] at hgrant
        -- a grant that is new is of a store that could be lent
        rcases mem_foldl_addGrant.1 hgrant with hold | ⟨-, hnew⟩
        · exact h.reach grant hold
        · exact .inr (hcall.2 grant.store hnew)
      · rw [heq] at hgrant
        exact h.reach grant hgrant
    rw [Table.answer, grantStores_eq]
    exact ⟨h.ranks, h.rows, fun other hother =>
      (hgrants other hother).trans (h.grants other hother), hreach⟩
  | revokeStores id stores =>
    have hgrants (other : PrincipalId) (hother : start.Leads other) :=
      filter_revokeStores table (fun heq : other = id => hcall (heq ▸ hother)) stores
    exact ⟨h.ranks, h.rows, fun other hother =>
      (hgrants other hother).trans (h.grants other hother),
      fun grant hgrant => h.reach grant (mem_grants_revokeStores.1 hgrant).1⟩
  | upsertCustomer identity =>
    rw [Table.answer, upsertCustomer_eq]
    exact ⟨h.ranks, h.rows, h.grants, h.reach⟩
  | findStaff => exact h
  | getStaff => exact h
  | storeList => exact h
  | getCustomer => exact h

/-- The directory at the start bears out what a confined one says of a member of staff. -/
theorem Confines.bearsOut (h : Confines start table) {id : PrincipalId} {member : Staff}
    (hfound : table.staff? id = some member) : start.BearsOut id member := by
  refine ⟨staff?_id hfound, ?_⟩
  intro hlead
  have hstart : start.Leads id := by
    rcases hlead with hlead | hrank
    · exact hlead
    · exact h.ranks id ⟨member, hfound, hrank⟩
  have hrow := h.rows id hstart
  rw [hfound, Option.map_some] at hrow
  obtain ⟨old, hold, hsame⟩ := Option.map_eq_some_iff.1 hrow.symm
  obtain ⟨hrole, hactive⟩ := Prod.ext_iff.1 hsame
  exact ⟨old, hold, hrole, hactive⟩

/-- An administrator's stores are those granted at the start. -/
theorem Confines.mem_grants (h : Confines start table) {id : PrincipalId} (hlead : start.Leads id)
    {store : StoreId} (hstore : store ∈ table.storeList id .admin) :
    ⟨id, store⟩ ∈ start.grants := by
  have hown : ⟨id, store⟩ ∈ table.grants.filter (fun grant => grant.staff == id) :=
    List.mem_filter.2 ⟨(mem_storeList Role.noConfusion).1 hstore, beq_self_eq_true id⟩
  rw [h.grants id hlead] at hown
  exact (List.mem_filter.1 hown).1

end Directory.Table

/-- What confines authority in a world: the directory does, and the cache holds no context of staff
that the directory at the start does not vouch for. -/
structure World.Confined (start : Directory.Table) (world : World) : Prop where
  /-- The directory is confined. -/
  directory : start.Confines world.directory
  /-- What is cached is vouched for. -/
  cached : ∀ id, ∀ entry ∈ world.keyValue.entries, entry.key = ContextCache.keyFor .staff id →
    ∀ context, ContextCache.decode? .staff id entry.value = some context →
      start.VouchesFor id context

/-- The calls that keep authority confined do so in a world, and the directory at the start bears
the replies out. -/
theorem World.Confined.handler {start : Directory.Table} {world : World}
    (h : world.Confined start) (around : Surroundings) {call : RequestCall}
    (hcall : KeepsConfined start call) :
    (World.handler around call world).2.Confined start ∧
      ∀ reply ∈ (World.handler around call world).1, BornOut start call reply := by
  refine ⟨⟨?_, ?_⟩, ?_⟩
  · rw [handler_directory]
    split
    · exact h.directory.answer hcall
    · exact h.directory
  · intro id entry hmem hkey
    rcases mem_entries_handler hmem with hold | ⟨setting, rfl, hset⟩
    · exact h.cached id entry hold hkey
    · exact hcall id entry.value (hkey ▸ hset)
  · rcases call with (call | call | call) | call
    · cases call with
      | get key =>
        rintro _ ⟨⟩ value hvalue id rfl
        obtain ⟨entry, hmem, hkey, rfl, -⟩ :=
          KeyValue.Table.exists_mem_of_get (Except.ok.inj hvalue)
        exact h.cached id entry hmem hkey
      | _ => exact fun _ _ => trivial
    · exact fun _ _ => trivial
    · cases call with
      | getStaff id =>
        rintro _ ⟨⟩ member hmember
        exact h.directory.bearsOut (Except.ok.inj hmember)
      | storeList id role =>
        rintro _ ⟨⟩ stores hstores rfl hlead store hstore
        rw [← Except.ok.inj hstores] at hstore
        exact h.directory.mem_grants hlead hstore
      | _ => exact fun _ _ => trivial
    · exact fun _ _ => trivial

/-- Authority is confined, in whatever order requests take turns, as long as nobody who holds the
highest role asks for anything and no context is cached at the start: nobody rises to an
administrator, whoever is one or above keeps role, right to sign in and grants, and every grant is
an old one, or of a store that was granted to an active administrator at the start. -/
theorem authority_confined {service : Service} {start : World}
    (hempty : ∀ kind id, ∀ entry ∈ start.keyValue.entries,
      entry.key ≠ ContextCache.keyFor kind id)
    {turns : List (Turn Operation)}
    (hcallers : ∀ operation claims, .begin operation ∈ turns → operation.claims? = some claims →
      claims.kind = .staff → ¬ start.directory.HasSuperAdmin claims.subject) :
    start.directory.Confines
      (({ world := start } : Stage _ _).run (Operation.request service) turns).world.directory := by
  have hstart : start.Confined start.directory :=
    ⟨.refl _, fun id entry hmem hkey => absurd hkey (hempty .staff id entry hmem)⟩
  refine (Stage.keeps (World.Confined start.directory) (fun _ => KeepsConfined start.directory)
    (BornOut start.directory) ?_ ?_ ?_ hstart).1.directory
  · intro operation hbegun
    exact Program.Within.mono (operation.confined service
      (fun claims => hcallers operation claims hbegun)) (fun _ _ => trivial)
  · exact fun _ around call world hworld hcall => hworld.handler around hcall
  · exact fun world duration hworld => ⟨hworld.directory, hworld.cached⟩

/-- A directory with an administrator, to whom the only store is granted, and a stylist. -/
def Directory.Table.plainShop : Table :=
  { staff :=
      [⟨1, "alice", "alice@localhost", "first password", .admin, true⟩,
        ⟨2, "bob", "bob@localhost", "second password", .stylist, true⟩]
    stores := [⟨7, true⟩]
    grants := [⟨1, 7⟩]
    lastId := 2 }

/-- The world in which nothing has happened to them. -/
def World.plainShop : World := .fresh ⟨⟨0⟩, .zero⟩ .plainShop

/-- The administrator lends the store to the stylist. -/
def Turn.plainLoan : List (Turn Operation) :=
  .begin (.grantStores .plain 2 [7]) :: List.replicate 8 (.proceed 0 .plain)

/-- An administrator lends a store: the stylist has it at the end, and authority is confined. -/
theorem authority_confined_loan :
    (({ world := .plainShop } : Stage _ _).run (Operation.request .plain)
        Turn.plainLoan).world.directory.grants = [⟨1, 7⟩, ⟨2, 7⟩] ∧
      World.plainShop.directory.Confines
        (({ world := .plainShop } : Stage _ _).run (Operation.request .plain)
          Turn.plainLoan).world.directory := by
  refine ⟨rfl, authority_confined ?_ ?_⟩
  · rintro kind id entry ⟨⟩
  intro operation claims hbegun hclaims _
  -- the only request that begins is asked for by the administrator
  have hoperation : operation = .grantStores .plain 2 [7] := by
    rcases List.mem_cons.1 hbegun with heq | hlater
    · exact Turn.begin.inj heq
    · cases List.eq_of_mem_replicate hlater
  subst hoperation
  cases hclaims
  rintro ⟨member, hmember, hrole⟩
  cases hmember
  cases hrole

end Gatehouse
