import Gatehouse.Proofs.Directory
import Gatehouse.Proofs.Interleaving
import Gatehouse.Proofs.World

/-!
# The highest role is out of reach

Members of staff who hold the highest role cannot be touched through the service. Nobody gains or
loses that role, and the right to sign in and the grants of those who have it stay as they are, in
whatever way requests are interleaved and whatever the cache of contexts holds: what a request goes
by when it writes was true when it was read, and for these members it stays true. Main statement:
`superAdmins_out_of_reach`.
-/

namespace Gatehouse

/-- Whether the member of staff with an id holds the highest role. -/
def Directory.Table.HasSuperAdmin (table : Directory.Table) (id : PrincipalId) : Prop :=
  ∃ staff, table.staff? id = some staff ∧ staff.role = .superAdmin

/-- The operation changes the password of the member of staff whom its claims name. -/
def Operation.ChangesOwnPassword (id : PrincipalId) : Operation → Prop
  | changePassword claims target _ _ =>
    target = id ∧ claims.kind = .staff ∧ claims.subject = id
  | _ => False

/-- What stays as it was at the start about the members of staff who held the highest role then. -/
structure Directory.Table.Intact (start table : Directory.Table) : Prop where
  /-- The same members hold the highest role. -/
  same : ∀ id, table.HasSuperAdmin id ↔ start.HasSuperAdmin id
  /-- They may sign in or not as before. -/
  active : ∀ id, start.HasSuperAdmin id →
    (table.staff? id).map Directory.Staff.isActive = (start.staff? id).map Directory.Staff.isActive
  /-- They have the same grants. -/
  grants : ∀ id, start.HasSuperAdmin id →
    table.grants.filter (fun grant => grant.staff == id) =
      start.grants.filter (fun grant => grant.staff == id)

section Bounds

variable (high : PrincipalId → Prop)

/-- The calls of an operation that spare some members of staff: they give nobody the highest role,
and write to those members only when they set their own password. -/
def Spares (operation : Operation) : RequestCall → Prop
  | .store (.directory (.setRole id role)) => ¬ high id ∧ role ≠ .superAdmin
  | .store (.directory (.setActive id _)) => ¬ high id
  | .store (.directory (.grantStores id _)) => ¬ high id
  | .store (.directory (.revokeStores id _)) => ¬ high id
  | .store (.directory (.setPasswordHash id _)) => high id → operation.ChangesOwnPassword id
  | _ => True

/-- The replies by which some members of staff are those who hold the highest role. -/
def Respects : (call : RequestCall) → call.Reply → Prop
  | .store (.directory (.getStaff id)), reply =>
    ∀ staff : Directory.Staff, reply = (.ok (some staff) : Except StorageError (Option _)) →
      staff.id = id ∧ (staff.role = .superAdmin ↔ high id)
  | _, _ => True

variable {high} {caller : Context} {target : PrincipalId} {role : Role} {staff : Directory.Staff}

/-- A member of staff whom someone manages does not hold the highest role. -/
theorem not_high_of_canManage (hfound : Says (Respects high) (.getStaff target) (some staff))
    (h : role.canManage staff.role = true) : ¬ high target := by
  rw [← (hfound staff rfl).2]
  exact Role.ne_superAdmin_of_canManage h

/-- A caller who is a member of staff is the one whom the claims name. -/
theorem claims_eq_of_isFor {claims : Token.Claims}
    (h : Resolved (Respects high) claims.kind claims.subject caller)
    (hcaller : caller.isFor .staff target = true) :
    claims.kind = .staff ∧ claims.subject = target := by
  obtain ⟨hkind, hid⟩ := Context.isFor_iff.1 hcaller
  have hstaff : claims.kind = .staff := h.kind_eq.symm.trans hkind
  rw [hstaff] at h
  exact ⟨hstaff, (h.principalId_eq (fun staff hsaid => (hsaid staff rfl).1)).symm.trans hid⟩

/-- Every operation spares the members of the highest role, as long as the directory's replies say
who they are. -/
theorem Operation.spares (service : Service) (operation : Operation) :
    Action.Within (Spares high operation) (Respects high) (fun _ => True)
      (operation.action service) := by
  have licence : service.Licence (Spares high operation) (Respects high) := by
    refine ⟨?_, fun _ _ => trivial, fun _ _ => trivial, fun _ _ _ _ => trivial⟩
    rintro ((_ | _ | call) | _) hlooks
    · exact trivial
    · exact trivial
    · cases call <;> trivial
    · exact trivial
  refine Operation.within licence operation ?_
  intro call hcall
  cases operation with
  | signInStaff => obtain ⟨new, rfl⟩ := hcall; trivial
  | signInCustomer => obtain ⟨new, rfl⟩ | ⟨identity, rfl⟩ := hcall <;> trivial
  | refresh => cases hcall
  | signOut => cases hcall; trivial
  | permissions => cases hcall
  | authorize => cases hcall
  | changePassword claims target oldPassword newPassword =>
    obtain ⟨caller, staff, hash, hcaller, hright, rfl⟩ := hcall
    intro hhigh
    -- nobody manages the highest role, so a holder's password is set by the holder
    rcases hright.own_or_managed with hown | ⟨-, hmanage⟩
    · exact ⟨rfl, claims_eq_of_isFor hcaller hown⟩
    · exact absurd hhigh (not_high_of_canManage hright.found hmanage)
  | changeRole claims target newRole =>
    obtain ⟨caller, role, staff, -, hmanages, hassign, rfl⟩ := hcall
    exact ⟨not_high_of_canManage hmanages.found hmanages.canManage,
      Role.ne_superAdmin_of_canManage hassign⟩
  | setActive claims target active =>
    obtain ⟨caller, role, staff, -, hmanages, rfl⟩ := hcall
    exact not_high_of_canManage hmanages.found hmanages.canManage
  | grantStores claims target stores =>
    obtain ⟨caller, role, staff, -, hmanages, -, rfl⟩ := hcall
    exact not_high_of_canManage hmanages.found hmanages.canManage
  | revokeStores claims target stores =>
    obtain ⟨caller, role, staff, -, hmanages, -, rfl⟩ := hcall
    exact not_high_of_canManage hmanages.found hmanages.canManage

end Bounds

namespace Directory.Table

variable {start table : Table}

/-- A directory is intact as it stands. -/
theorem Intact.refl (table : Table) : Intact table table :=
  ⟨fun _ => Iff.rfl, fun _ _ => rfl, fun _ _ => rfl⟩

/-- A directory stays intact under a change of a member of staff that neither gives nor takes away
the highest role, nor says anew whether someone with that role may sign in. -/
theorem Intact.changeStaff (h : Intact start table) {id : PrincipalId} {change : Staff → Staff}
    (hid : ∀ member, (change member).id = member.id)
    (hrole : ∀ member, table.staff? id = some member →
      ((change member).role = .superAdmin ↔ member.role = .superAdmin))
    (hactive : start.HasSuperAdmin id → ∀ member, (change member).isActive = member.isActive) :
    Intact start (table.changeStaff id change).2 := by
  refine ⟨?_, ?_, ?_⟩
  · intro other
    rw [← h.same other, HasSuperAdmin, staff?_changeStaff hid, HasSuperAdmin]
    -- ids stay, so the member is found where the member was found before
    rcases hfound : table.staff? other with _ | member
    · simp
    · by_cases hne : member.id = id
      · have hother : other = id := (staff?_id hfound).symm.trans hne
        have hmember := hrole member (hother ▸ hfound)
        simp [hne, hmember]
      · simp [hne]
  · intro other hhigh
    rw [← h.active other hhigh, staff?_changeStaff hid, Option.map_map]
    refine Option.map_congr ?_
    intro member hmember
    rw [Function.comp]
    split
    · rename_i heq
      have hother : other = id := (staff?_id hmember).symm.trans heq
      exact hactive (hother ▸ hhigh) member
    · rfl
  · intro other hhigh
    rw [changeStaff_eq]
    exact h.grants other hhigh

/-- A directory stays intact under the calls that spare the members of the highest role. -/
theorem Intact.answer (h : Intact start table) {operation : Operation} {call : Call}
    (hspares : Spares start.HasSuperAdmin operation (.store (.directory call))) :
    Intact start (table.answer call).2 := by
  have hhigh {id : PrincipalId} {member : Staff} (hfound : table.staff? id = some member)
      (hrole : member.role = .superAdmin) : start.HasSuperAdmin id :=
    (h.same id).1 ⟨member, hfound, hrole⟩
  cases call with
  | setPasswordHash id hash =>
    exact h.changeStaff (fun _ => rfl) (fun _ _ => Iff.rfl) (fun _ _ => rfl)
  | setRole id role =>
    refine h.changeStaff (fun _ => rfl) ?_ (fun _ _ => rfl)
    -- the new role is not the highest, and the old one was not
    intro member hfound
    exact ⟨fun hrole => absurd hrole hspares.2, fun hrole => absurd (hhigh hfound hrole) hspares.1⟩
  | setActive id active =>
    exact h.changeStaff (fun _ => rfl) (fun _ _ => Iff.rfl) (fun hid => absurd hid hspares)
  | grantStores id stores =>
    have hgrants (other : PrincipalId) (hother : start.HasSuperAdmin other) :=
      filter_grantStores table (fun heq : other = id => hspares (heq ▸ hother)) stores
    rw [Table.answer, grantStores_eq]
    exact ⟨h.same, h.active, fun other hother =>
      (hgrants other hother).trans (h.grants other hother)⟩
  | revokeStores id stores =>
    have hgrants (other : PrincipalId) (hother : start.HasSuperAdmin other) :=
      filter_revokeStores table (fun heq : other = id => hspares (heq ▸ hother)) stores
    exact ⟨h.same, h.active, fun other hother =>
      (hgrants other hother).trans (h.grants other hother)⟩
  | upsertCustomer identity =>
    rw [Table.answer, upsertCustomer_eq]
    exact ⟨h.same, h.active, h.grants⟩
  | findStaff => exact h
  | getStaff => exact h
  | storeList => exact h
  | getCustomer => exact h

end Directory.Table

/-- What a call that spares the members of the highest role keeps in a world, and that the replies
say who these members are. -/
theorem World.intact_handler {start : Directory.Table} (operation : Operation)
    (around : Surroundings) (call : RequestCall) (world : World)
    (h : start.Intact world.directory) (hspares : Spares start.HasSuperAdmin operation call) :
    start.Intact (World.handler around call world).2.directory ∧
      ∀ reply ∈ (World.handler around call world).1, Respects start.HasSuperAdmin call reply := by
  refine ⟨?_, ?_⟩
  · rw [handler_directory]
    split
    · exact h.answer hspares
    · exact h
  · rcases call with (call | call | call) | call
    · exact fun _ _ => trivial
    · exact fun _ _ => trivial
    · cases call with
      | getStaff id =>
        rintro _ ⟨⟩ staff hreply
        have hfound : world.directory.staff? id = some staff := Except.ok.inj hreply
        refine ⟨Directory.Table.staff?_id hfound, ?_⟩
        -- who held the highest role at the start holds it now
        rw [← h.same]
        refine ⟨fun hrole => ⟨staff, hfound, hrole⟩, ?_⟩
        rintro ⟨other, hother, hrole⟩
        rw [hfound] at hother
        exact Option.some.inj hother ▸ hrole
      | _ => exact fun _ _ => trivial
    · exact fun _ _ => trivial

/-- Members of staff who hold the highest role are out of reach, in whatever order any requests make
their calls: nobody gains or loses the role, whether its holders may sign in and what they have been
granted stays as it was, and the stored password of one is changed only by a step of a change of
password whose claims name that very member. -/
theorem superAdmins_out_of_reach {service : Service} {start : World} {traffic : Traffic}
    (run : Traffic.Run service start traffic) :
    start.directory.Intact traffic.world.directory ∧
      ∀ operation traffic', Traffic.Step service traffic operation traffic' →
        ∀ id, start.directory.HasSuperAdmin id →
          (traffic'.world.directory.staff? id).map Directory.Staff.passwordHash ≠
              (traffic.world.directory.staff? id).map Directory.Staff.passwordHash →
            ∃ acting, operation = some acting ∧ acting.ChangesOwnPassword id := by
  obtain ⟨hintact, hwithin⟩ :=
    run.keeps (fun world => start.directory.Intact world.directory)
      (Operation.spares service) World.intact_handler (fun _ _ h => h)
      (Directory.Table.Intact.refl start.directory)
  refine ⟨hintact, ?_⟩
  intro operation traffic' step id hhigh hchanged
  rcases step.world_cases hwithin with
    ⟨clock, hworld⟩ | ⟨acting, call, around, hacting, hcall, hworld⟩
  · rw [hworld] at hchanged
    exact absurd rfl hchanged
  · rw [hworld, World.handler_directory] at hchanged
    refine ⟨acting, hacting, ?_⟩
    split at hchanged
    · rename_i call
      -- only a setting of this member's hash can have changed it
      by_cases hset : ∃ hash, call = .setPasswordHash id hash
      · obtain ⟨hash, rfl⟩ := hset
        exact hcall hhigh
      · have hother : ∀ hash, call ≠ .setPasswordHash id hash := fun hash heq => hset ⟨hash, heq⟩
        exact absurd (Directory.Table.passwordHash_answer hother) hchanged
    · exact absurd rfl hchanged

/-- A run in which the only member of staff changes the member's own password: the password is
another one at the end, and the role, the right to sign in and the grants are what they were. -/
theorem superAdmins_out_of_reach_ownPassword :
    ∃ traffic, Traffic.Run .plain (.fresh ⟨⟨0⟩, .zero⟩ .plain) traffic ∧
      (traffic.world.directory.staff? 1).map Directory.Staff.passwordHash =
        some "second password" ∧
      Directory.Table.plain.Intact traffic.world.directory := by
  have run : Traffic.Run .plain (.fresh ⟨⟨0⟩, .zero⟩ .plain) _ :=
    .next .start (.begin _
      (.changePassword .plain 1 (some "first password") "second password"))
  have done := run.alone .plain rfl
  exact ⟨_, done, rfl, (superAdmins_out_of_reach done).1⟩

end Gatehouse
