import Gatehouse.Proofs.Administration
import Gatehouse.Proofs.StaffSignIn

/-!
# Change of passwords

Who may change a password, and what comes of it. Whether a caller may do so is decided by the
directory as it is now and by the present password, before the new password is looked at. Main
statement: after any history a password is changed exactly if the caller may change it and the new
one can be stored; then the member signs in with exactly the passwords that fit the new hash, until
it is changed again; and a caller who may not change it learns nothing about the new password
(`password_change`).
-/

namespace Gatehouse

/-- A change of a password, as it is asked for. -/
structure PasswordChange where
  /-- The claims of the caller. -/
  claims : Token.Claims
  /-- The member of staff whose password is to be changed. -/
  target : PrincipalId
  /-- The present password, if it is given. -/
  oldPassword : Option String
  /-- The new password. -/
  newPassword : String

/-- The highest role manages all roles but itself. -/
theorem Role.canManage_superAdmin_iff {role : Role} :
    canManage .superAdmin role = true ↔ role ≠ .superAdmin := by
  cases role <;> decide

namespace PasswordChange

/-- The operation that makes a change. -/
def operation (change : PasswordChange) : Operation :=
  .changePassword change.claims change.target change.oldPassword change.newPassword

/-- The action that makes a change. -/
def action (service : Service) (change : PasswordChange) : Action Unit :=
  service.changePassword change.claims change.target change.oldPassword change.newPassword

/-- Two changes differ in nothing but the new password, and the present password if the caller
changes that of somebody else. -/
structure Alike (change other : PasswordChange) : Prop where
  /-- The caller is the same. -/
  claims_eq : other.claims = change.claims
  /-- The target is the same. -/
  target_eq : other.target = change.target
  /-- Callers who change their own password give the same present one. -/
  oldPassword_eq : change.claims.subject = change.target →
    other.oldPassword = change.oldPassword

/-- The present password is given. -/
def Proves (hasher : Hasher) (change : PasswordChange) (member : Directory.Staff) : Prop :=
  ∃ old, change.oldPassword = some old ∧ hasher.fits old member.passwordHash = true

/-- The directory allows a caller to change the password of a member of staff. -/
structure AllowedTo (directory : Directory.Table) (hasher : Hasher) (change : PasswordChange)
    (caller member : Directory.Staff) : Prop where
  /-- The claims are those of staff. -/
  kind_eq : change.claims.kind = .staff
  /-- The caller is the member of staff whom the claims name. -/
  caller_eq : directory.staff? change.claims.subject = some caller
  /-- The caller may sign in. -/
  active : caller.isActive = true
  /-- The target is there. -/
  member_eq : directory.staff? change.target = some member
  /-- The target is the caller, who knows the present password, or the caller has the highest role
  and the target has not. -/
  own_or_below : change.claims.subject = change.target ∧ change.Proves hasher member ∨
    change.claims.subject ≠ change.target ∧ caller.role = .superAdmin ∧ member.role ≠ .superAdmin

/-- The directory allows the bearer of claims to change the password of the target. -/
def Allowed (directory : Directory.Table) (hasher : Hasher) (change : PasswordChange) : Prop :=
  ∃ caller member, change.AllowedTo directory hasher caller member

/-- The new password has eight characters or more, and can be hashed with a hash as the result. -/
def Yields (around : Surroundings) (world : World) (change : PasswordChange) (hash : String) :
    Prop :=
  8 ≤ change.newPassword.length ∧
    around.hasher.hash ((around.random world.draws).take 16) change.newPassword = .ok hash

/-- One directory differs from another by the hash of the target, and in nothing else. -/
def Replaces (change : PasswordChange) (hash : String) (before after : Directory.Table) : Prop :=
  after = { before with
    staff := before.staff.map fun member =>
      if member.id == change.target then { member with passwordHash := hash } else member }

/-- What is left to do for a caller who may change a password. -/
def replacement (change : PasswordChange) : Action Unit := do
  if change.newPassword.length < Service.shortestPassword then
    throw (.invalidRequest
      ("newPassword must be at least " ++ toString Service.shortestPassword ++ " characters"))
  let hash ← Action.ofRequest .internal (Request.outside (.hashPassword change.newPassword))
  discard (Action.directory (.setPasswordHash change.target hash))
  Service.forget .staff change.target

/-- What the checks of a caller's context come to, before the new password is looked at. -/
def verdict (directory : Directory.Table) (hasher : Hasher) (change : PasswordChange)
    (caller : Context) : Except AuthError Unit := do
  let role ← caller.staffRole.elim (.error (.permissionDenied "staff role required")) .ok
  let member ← (directory.staff? change.target).elim (.error .principalNotFound) .ok
  if caller.isFor .staff change.target then
    let old ← change.oldPassword.elim (.error (.invalidRequest "oldPassword is required")) .ok
    if hasher.fits old member.passwordHash then .ok () else .error .invalidCredentials
  else if role = .superAdmin ∧ Role.canManage .superAdmin member.role = true then .ok ()
  else .error (.permissionDenied
    (role.name ++ " cannot change the password of staff " ++ toString change.target))

variable {service : Service} {around : Surroundings} {world after : World} {change : PasswordChange}

/-! ## One change -/

/-- The checks are passed by a member of staff who knows the present password, or stands above the
target. -/
theorem verdict_eq_ok_iff {directory : Directory.Table} {hasher : Hasher} {caller : Context} :
    change.verdict directory hasher caller = .ok () ↔
      ∃ role member, caller.staffRole = some role ∧ directory.staff? change.target = some member ∧
        (caller.isFor .staff change.target = true ∧ change.Proves hasher member ∨
          caller.isFor .staff change.target = false ∧
            role = .superAdmin ∧ member.role ≠ .superAdmin) := by
  rw [verdict]
  rcases caller.staffRole with _ | role
  · simp [bind, Except.bind]
  rcases directory.staff? change.target with _ | member
  · simp [bind, Except.bind]
  rcases hself : caller.isFor .staff change.target with _ | _
  · simp [bind, Except.bind, Role.canManage_superAdmin_iff]
  · rcases hold : change.oldPassword with _ | old
    · simp [bind, Except.bind, Proves, hold]
    · simp [bind, Except.bind, Proves, hold]

/-- A change is enacted by its action. -/
theorem enact_operation (service : Service) (around : Surroundings) (change : PasswordChange)
    (world : World) :
    World.enact World.handler service ⟨around, .operation change.operation⟩ world =
      ((Action.perform (World.handler around) (change.action service) world).1.map
          (Except.map fun _ => .done),
        (Action.perform (World.handler around) (change.action service) world).2) :=
  Action.perform_map (World.handler around) world _ _

/-- The directory allows a change exactly if the caller's context, as the directory gives it, passes
the checks. -/
theorem allowed_iff {directory : Directory.Table} {hasher : Hasher} :
    change.Allowed directory hasher ↔
      change.claims.kind = .staff ∧
        ∃ caller, directory.context? .staff change.claims.subject = some caller ∧
          change.verdict directory hasher caller = .ok () := by
  have hisFor {caller : Directory.Staff} (hid : caller.id = change.claims.subject) :
      (⟨caller.id, .staff, caller.username, some caller.role,
        directory.storeList caller.id caller.role⟩ : Context).isFor .staff change.target = true ↔
        change.claims.subject = change.target := by
    simp [Context.isFor, hid]
  constructor
  · rintro ⟨caller, member, h⟩
    have hid := Directory.Table.staff?_id h.caller_eq
    refine ⟨h.kind_eq, _, StaffChange.context?_eq h.caller_eq h.active,
      verdict_eq_ok_iff.2 ⟨caller.role, member, rfl, h.member_eq, ?_⟩⟩
    rw [← Bool.not_eq_true, hisFor hid]
    exact h.own_or_below
  · rintro ⟨hkind, context, hcontext, hverdict⟩
    obtain ⟨caller, hcaller, hactive, rfl⟩ := StaffChange.exists_of_context? hcontext
    obtain ⟨role, member, hrole, hmember, hright⟩ := verdict_eq_ok_iff.1 hverdict
    obtain rfl : caller.role = role := Option.some.inj hrole
    rw [← Bool.not_eq_true, hisFor (Directory.Table.staff?_id hcaller)] at hright
    exact ⟨caller, member, hkind, hcaller, hactive, hmember, hright⟩

/-- A password of a member of staff is replaced exactly if the new one is long enough and can be
hashed. -/
theorem perform_replacement (around : Surroundings) {member : Directory.Staff}
    (hfound : world.directory.staff? change.target = some member) :
    (∃ hash directory keyValue draws, change.Yields around world hash ∧
        change.Replaces hash world.directory directory ∧
          Action.perform (World.handler around) change.replacement world =
            (some (.ok ()), { world with directory, keyValue, draws })) ∨
      ((¬ ∃ hash, change.Yields around world hash) ∧ ∃ error draws,
        Action.perform (World.handler around) change.replacement world =
          (some (.error error), { world with draws })) := by
  rw [replacement, Action.perform_check]
  split
  · rename_i hshort
    refine .inr ⟨?_, _, world.draws, rfl⟩
    rintro ⟨hash, hlong, -⟩
    exact Nat.not_lt.2 hlong hshort
  rename_i hlong
  have hask : Action.perform (World.handler around)
      (Action.ofRequest .internal (Request.outside (.hashPassword change.newPassword)) :
        Action String) world =
      (some ((around.hasher.hash ((around.random world.draws).take 16) change.newPassword).mapError
        .internal), { world with draws := world.draws + 1 }) :=
    Action.perform_ofRequest (World.handler around) world _ _
  rw [Action.perform_bind, hask]
  rcases hhash : around.hasher.hash ((around.random world.draws).take 16) change.newPassword with
    reason | hash
  · refine .inr ⟨?_, _, _, rfl⟩
    rintro ⟨hash, -, hmade⟩
    rw [hhash] at hmade
    cases hmade
  · have hwrite : ({ world with draws := world.draws + 1 } : World).directory.answer
        (.setPasswordHash change.target hash) = (_, _) :=
      Directory.Table.changeStaff_of_found hfound _
    exact .inl ⟨hash, _, _, _, ⟨Nat.le_of_not_lt hlong, hhash⟩, rfl,
      Service.perform_write_forget around hwrite change.target⟩

/-- A change goes by the caller's context, and looks at the new password only when the checks are
passed. -/
theorem perform_action_of_caller {caller : Context}
    (hcaller : Action.perform (World.handler around) (service.permissions change.claims) world =
      (some (.ok caller), after)) :
    Action.perform (World.handler around) (change.action service) world =
      match change.verdict after.directory around.hasher caller with
      | .error error => (some (.error error), after)
      | .ok () => Action.perform (World.handler around) change.replacement after := by
  rw [action, Service.changePassword, Action.perform_bind, hcaller]
  dsimp only
  rw [Action.perform_bind, Service.perform_roleOf, verdict]
  rcases caller.staffRole with _ | role
  · rfl
  dsimp only [Option.elim_some]
  rw [Action.perform_bind, Service.perform_requireStaff]
  rcases after.directory.staff? change.target with _ | member
  · rfl
  dsimp only [Option.elim_some]
  split
  · rcases change.oldPassword with _ | old
    · rfl
    -- checking the present password is a call that changes nothing
    have hcheck (next : Bool → Action Unit) :
        Action.perform (World.handler around)
          (do
            let old ← Action.require (.invalidRequest "oldPassword is required") (some old)
            let fits : Bool ← Action.outside (.checkPassword old member.passwordHash)
            next fits) after =
          Action.perform (World.handler around)
            (next (around.hasher.fits old member.passwordHash)) after := rfl
    refine (hcheck _).trans ?_
    rw [Action.perform_check]
    simp only [Option.elim_some, bind, Except.bind]
    cases around.hasher.fits old member.passwordHash <;> rfl
  · rw [Action.perform_check]
    by_cases hrank : role = .superAdmin ∧ Role.canManage .superAdmin member.role = true
    · rw [if_neg (fun h => Decidable.not_and_iff_not_or_not.2 h hrank)]
      simp only [bind, Except.bind, if_pos hrank]
      rfl
    · rw [if_pos (Decidable.not_and_iff_not_or_not.1 hrank)]
      simp only [bind, Except.bind, if_neg hrank]

/-- The checks are the same for changes that are alike, if a caller whom the target's id fits is the
target. -/
theorem Alike.verdict_eq {other : PasswordChange} (h : change.Alike other)
    {directory : Directory.Table} {hasher : Hasher} {caller : Context}
    (hself : caller.isFor .staff change.target = true → change.claims.subject = change.target) :
    other.verdict directory hasher caller = change.verdict directory hasher caller := by
  rw [verdict, verdict, h.target_eq]
  by_cases hown : caller.isFor .staff change.target = true
  · rw [h.oldPassword_eq (hself hown)]
  · simp only [if_neg hown]

/-- The checks are passed by nobody who has no staff role. -/
theorem verdict_of_not_staff {directory : Directory.Table} {hasher : Hasher} {caller : Context}
    (hrank : caller.staffRole = none) (change : PasswordChange) :
    change.verdict directory hasher caller =
      .error (.permissionDenied "staff role required") := by
  rw [verdict, hrank]
  rfl

/-- A change begins with the caller's context, and ends without one. -/
theorem perform_action_of_not_ok (failure : Option AuthError)
    (h : Action.perform (World.handler around) (service.permissions change.claims) world =
      (failure.map .error, after)) :
    Action.perform (World.handler around) (change.action service) world =
      (failure.map .error, after) := by
  rw [action, Service.changePassword, Action.perform_bind, h]
  cases failure <;> rfl

/-- Where what is cached is true of staff and gives customers no staff role, a change goes on to the
new password exactly if the directory allows it. Otherwise it fails as all changes do that are like
it; it breaks off only where the clock cannot show the end of a lifetime. -/
theorem perform_action_cases (service : Service)
    (hcoherent : world.Coherent (fun kind _ => kind = .staff))
    (hunranked : world.Unranked) (around : Surroundings) (change : PasswordChange) :
    (¬ world.clock.CanShow service.contextTtl ∧ ∃ keyValue, ∀ other, change.Alike other →
        Action.perform (World.handler around) (other.action service) world =
          (none, { world with keyValue })) ∨
      (change.Allowed world.directory around.hasher ∧ ∃ keyValue,
        Action.perform (World.handler around) (change.action service) world =
          Action.perform (World.handler around) change.replacement { world with keyValue }) ∨
      (¬ change.Allowed world.directory around.hasher ∧ ∃ error keyValue,
        ∀ other, change.Alike other →
          Action.perform (World.handler around) (other.action service) world =
            (some (.error error), { world with keyValue })) := by
  -- what comes of the caller's context comes of it in changes that are alike
  have hpermissions {kind : PrincipalKind} (hkind : change.claims.kind = kind)
      {run : Option (Except AuthError Context) × World}
      (hrun : Action.perform (World.handler around)
        (ContextCache.resolve service.contextTtl kind change.claims.subject) world = run)
      (other : PasswordChange) (halike : change.Alike other) :
      Action.perform (World.handler around) (service.permissions other.claims) world = run := by
    rw [halike.claims_eq, StaffChange.permissions_eq hkind, hrun]
  have hself : change.Alike change := ⟨rfl, rfl, fun _ => rfl⟩
  rw [allowed_iff]
  cases hkind : change.claims.kind with
  | staff =>
    rcases ContextCache.resolve_cases around hcoherent .staff change.claims.subject rfl
      service.contextTtl with
      ⟨hnone, hrun⟩ | ⟨caller, hcontext, ⟨hshow, hrun⟩ | ⟨keyValue, hrun⟩⟩
    · refine .inr (.inr ⟨?_, .principalNotFound, world.keyValue, fun other halike =>
        perform_action_of_not_ok (some .principalNotFound) (hpermissions hkind hrun other halike)⟩)
      rintro ⟨-, caller, hcaller, -⟩
      rw [hnone] at hcaller
      cases hcaller
    · exact .inl ⟨hshow, world.keyValue, fun other halike =>
        perform_action_of_not_ok none (hpermissions hkind hrun other halike)⟩
    · have hverdict (other : PasswordChange) (halike : change.Alike other) :
          other.verdict world.directory around.hasher caller =
            change.verdict world.directory around.hasher caller := by
        refine halike.verdict_eq fun hown => ?_
        have hsubject := Directory.Table.isFor_of_context? hcontext
        exact (Context.isFor_iff.1 hsubject).2.symm.trans (Context.isFor_iff.1 hown).2
      rcases hchecked : change.verdict world.directory around.hasher caller with error | _
      · refine .inr (.inr ⟨?_, error, keyValue, fun other halike => ?_⟩)
        · rintro ⟨-, found, hfound, hpassed⟩
          obtain rfl := Option.some.inj (hcontext.symm.trans hfound)
          rw [hchecked] at hpassed
          cases hpassed
        · rw [perform_action_of_caller (hpermissions hkind hrun other halike)]
          simp only [hverdict other halike, hchecked]
      · refine .inr (.inl ⟨⟨rfl, caller, hcontext, hchecked⟩, keyValue, ?_⟩)
        rw [perform_action_of_caller (hpermissions hkind hrun change hself)]
        simp only [hchecked]
  | customer =>
    obtain ⟨outcome, keyValue, hrun, hshow, hrank⟩ :=
      ContextCache.resolve_customer_cases hunranked around service.contextTtl change.claims.subject
    rcases outcome with _ | error | caller
    · exact .inl ⟨hshow rfl, keyValue, fun other halike =>
        perform_action_of_not_ok none (hpermissions hkind hrun other halike)⟩
    · exact .inr (.inr ⟨fun h => (nomatch h.1), error, keyValue, fun other halike =>
        perform_action_of_not_ok (some error) (hpermissions hkind hrun other halike)⟩)
    · refine .inr (.inr ⟨fun h => (nomatch h.1), .permissionDenied "staff role required", keyValue,
        fun other halike => ?_⟩)
      rw [perform_action_of_caller (hpermissions hkind hrun other halike)]
      simp only [verdict_of_not_staff (hrank caller rfl)]

/-- A change that does not succeed leaves the directory as it is. -/
theorem directory_of_not_ok {outcome : Option (Except AuthError Unit)}
    (hrun : Action.perform (World.handler around) (change.action service) world = (outcome, after))
    (hnot : outcome ≠ some (.ok ())) : after.directory = world.directory := by
  obtain ⟨resolved, keyValue, hresolve⟩ := ContextCache.exists_perform_resolve around world
    service.contextTtl change.claims.kind change.claims.subject
  rw [← StaffChange.permissions_eq rfl] at hresolve
  rcases resolved with _ | error | caller
  · rw [perform_action_of_not_ok none hresolve] at hrun
    cases hrun
    rfl
  · rw [perform_action_of_not_ok (some error) hresolve] at hrun
    cases hrun
    rfl
  · rw [perform_action_of_caller hresolve] at hrun
    rcases hverdict : change.verdict world.directory around.hasher caller with error | _
    · simp only [hverdict] at hrun
      cases hrun
      rfl
    · simp only [hverdict] at hrun
      obtain ⟨role, member, -, hfound, -⟩ := verdict_eq_ok_iff.1 hverdict
      have hfound : ({ world with keyValue } : World).directory.staff? change.target =
        some member := hfound
      rcases perform_replacement around hfound with
        ⟨hash, directory, dropped, draws, -, -, hreplaced⟩ | ⟨-, error, draws, hfailed⟩
      · rw [hreplaced] at hrun
        cases hrun
        exact absurd rfl hnot
      · rw [hfailed] at hrun
        cases hrun
        rfl

end PasswordChange

/-! ## What a password is good for until it is changed -/

/-- A member of staff has a name that nobody shares, and a hash is stored of the member's password. -/
structure Directory.Table.HasPassword (table : Table) (id : PrincipalId) (username hash : String) :
    Prop where
  /-- Nobody shares a name. -/
  unique : (table.staff.map Staff.username).Nodup
  /-- The member has the name. -/
  username_eq : (table.staff? id).map Staff.username = some username
  /-- The hash is that of the member. -/
  passwordHash_eq : (table.staff? id).map Staff.passwordHash = some hash

/-- The password of a member of staff was changed. -/
def Event.ChangesPassword (id : PrincipalId) (event : Event) : Prop :=
  ∃ change : PasswordChange, change.target = id ∧ event.move = .operation change.operation ∧
    event.outcome = some (.ok .done)

/-- The calls that leave the password of a member of staff as it is. -/
def KeepsPassword (id : PrincipalId) (call : RequestCall) : Prop :=
  ∀ hash, call ≠ .store (.directory (.setPasswordHash id hash))

variable {service : Service} {around : Surroundings} {world after : World} {id : PrincipalId}
  {username hash : String}

/-- Name and password stay where no call sets the password. -/
theorem Directory.Table.HasPassword.handler (h : world.directory.HasPassword id username hash)
    {call : RequestCall} (hcall : KeepsPassword id call) :
    (World.handler around call world).2.directory.HasPassword id username hash := by
  rw [World.handler_directory]
  split
  · rename_i call
    refine ⟨?_, (username_answer call).trans h.username_eq,
      (passwordHash_answer fun other heq => hcall other (heq ▸ rfl)).trans h.passwordHash_eq⟩
    rw [staff_map_answer call (fun _ _ => rfl) (fun _ _ => rfl) (fun _ _ => rfl)]
    exact h.unique
  · exact h

/-- Only a change of the password makes a call that sets it. -/
theorem Operation.keepsPassword (service : Service) (operation : Operation)
    (hother : ∀ change : PasswordChange, operation = change.operation → change.target ≠ id) :
    Action.Within (KeepsPassword id) (fun _ _ => True) (fun _ => True)
      (operation.action service) := by
  have licence : service.Licence (KeepsPassword id) (fun _ _ => True) := by
    refine ⟨?_, fun _ _ _ => nofun, fun _ _ _ => nofun, fun _ _ _ _ _ => nofun⟩
    rintro call hlooks hash rfl
    cases hlooks
  refine Operation.within licence operation ?_
  intro call hcall
  cases operation with
  | signInStaff => obtain ⟨new, rfl⟩ := hcall; exact nofun
  | signInCustomer => obtain ⟨new, rfl⟩ | ⟨identity, rfl⟩ := hcall <;> exact nofun
  | refresh => cases hcall
  | signOut => cases hcall; exact nofun
  | permissions => cases hcall
  | authorize => cases hcall
  | changePassword claims target oldPassword newPassword =>
    obtain ⟨caller, staff, hash, -, -, rfl⟩ := hcall
    rintro other ⟨⟩
    exact hother ⟨claims, _, oldPassword, newPassword⟩ rfl rfl
  | changeRole => obtain ⟨caller, role, staff, -, -, -, rfl⟩ := hcall; exact nofun
  | setActive => obtain ⟨caller, role, staff, -, -, rfl⟩ := hcall; exact nofun
  | grantStores => obtain ⟨caller, role, staff, -, -, -, rfl⟩ := hcall; exact nofun
  | revokeStores => obtain ⟨caller, role, staff, -, -, -, rfl⟩ := hcall; exact nofun

/-- Name and password stay in a scene in which the password is not changed. -/
theorem Directory.Table.HasPassword.enact (h : world.directory.HasPassword id username hash)
    (scene : Scene)
    (hkept : ¬ (World.eventOf World.handler service scene world).ChangesPassword id) :
    (World.enact World.handler service scene world).2.directory.HasPassword id username hash := by
  have hkeep (around : Surroundings) (call : RequestCall) (world : World)
      (hworld : world.directory.HasPassword id username hash) (hcall : KeepsPassword id call) :
      (World.handler around call world).2.directory.HasPassword id username hash ∧
        ∀ reply ∈ (World.handler around call world).1, True :=
    ⟨hworld.handler hcall, fun _ _ => trivial⟩
  obtain ⟨around, operation | ⟨settings, purges⟩ | duration⟩ := scene
  · by_cases hchange : ∃ change : PasswordChange, operation = change.operation ∧ change.target = id
    -- a change of this very password does not succeed, and leaves the directory as it is
    · obtain ⟨change, rfl, htarget⟩ := hchange
      have henact := change.enact_operation service around world
      have hnot : (Action.perform (World.handler around) (change.action service) world).1 ≠
          some (.ok ()) := by
        intro hok
        refine hkept ⟨change, htarget, rfl, (congrArg Prod.fst henact).trans ?_⟩
        rw [hok]
        rfl
      have hsame := PasswordChange.directory_of_not_ok (Prod.eta _).symm hnot
      rw [henact]
      dsimp only
      rw [hsame]
      exact h
    · exact ((operation.keepsPassword service fun change heq htarget =>
        hchange ⟨change, heq, htarget⟩).run (hkeep around) h).1
  · refine ((Sweep.runOnce_within ?_ purges).run (hkeep around) h).1
    rintro ((call | call | call) | call) hcall
    · exact nofun
    · exact nofun
    · cases hcall
    · exact nofun
  · exact h

/-- A member of staff signs in under a name with exactly the passwords that fit a hash. -/
structure Service.SignsInWith (service : Service) (world : World) (id : PrincipalId)
    (username hash : String) : Prop where
  /-- A password that fits signs in the member, if the refresh token that is drawn is a new one and
  the clock can show the end of a cached context's lifetime. -/
  admits : ∀ (around : Surroundings) password client, around.hasher.fits password hash = true →
    world.clock.CanShow service.contextTtl →
      world.sessions.row? .staff (Token.refreshText (around.random world.draws)) = none →
        ∃ given, (Action.perform (World.handler around)
            (service.signInStaff username password client) world).1 = some (.ok given) ∧
          given.context.principalId = id
  /-- Other passwords are refused. -/
  refuses : ∀ (around : Surroundings) password client, around.hasher.fits password hash = false →
    (Action.perform (World.handler around) (service.signInStaff username password client) world).1 =
      some (.error .invalidCredentials)

/-- A member of staff who may sign in does so with the passwords that fit the hash. -/
theorem Directory.Table.HasPassword.signsInWith (h : world.directory.HasPassword id username hash)
    {member : Staff} (hfound : world.directory.staff? id = some member)
    (hactive : member.isActive = true) : service.SignsInWith world id username hash := by
  obtain ⟨hunique, hname, hhash⟩ := h
  rw [hfound] at hname hhash
  obtain rfl : member.username = username := Option.some.inj hname
  obtain rfl : member.passwordHash = hash := Option.some.inj hhash
  obtain rfl := staff?_id hfound
  have hnamed := staffNamed?_of_nodup hunique (List.mem_of_find?_eq_some hfound)
  refine ⟨?_, ?_⟩
  · intro around password client hfits hshow hnew
    obtain ⟨deadline, hdeadline⟩ := Option.isSome_iff_exists.1 hshow
    rw [Service.perform_signInStaff_of_fits hnamed hfound hactive hfits,
      Service.perform_openSession_of_new hnew hdeadline]
    exact ⟨_, rfl, rfl⟩
  · intro around password client hfits
    rw [Service.perform_signInStaff_of_not fun found hother _ => ?_]
    obtain rfl := Option.some.inj (hnamed.symm.trans hother)
    exact hfits

/-- From a world on, a member of staff signs in with the passwords that fit a hash, whenever the
member may sign in and until the password is changed. -/
def Service.Establishes (service : Service) (start : World) (id : PrincipalId)
    (username hash : String) : Prop :=
  ∀ scenes history world, World.play World.handler service scenes start = (history, world) →
    (∀ event ∈ history, ¬ event.ChangesPassword id) →
      ∀ member, world.directory.staff? id = some member → member.isActive = true →
        service.SignsInWith world id username hash

/-- A name and a hash that a member of staff has are good for signing in until the password is
changed. -/
theorem Directory.Table.HasPassword.establishes
    (h : world.directory.HasPassword id username hash) :
    service.Establishes world id username hash := by
  intro scenes history later hplay hkept member hfound hactive
  have hrun : (∀ event ∈ (World.play World.handler service scenes world).1,
      ¬ event.ChangesPassword id) →
      (World.play World.handler service scenes world).2.directory.HasPassword id username hash := by
    refine World.play_induction (motive := fun history world =>
      (∀ event ∈ history, ¬ event.ChangesPassword id) →
        world.directory.HasPassword id username hash) (fun _ => h) ?_ scenes
    intro history world scene ih hevents
    refine (ih fun event hmem => hevents event (List.mem_append_left _ hmem)).enact scene ?_
    exact hevents _ (List.mem_append_right _ (List.mem_singleton.2 rfl))
  rw [hplay] at hrun
  exact (hrun hkept).signsInWith hfound hactive

/-- Where nobody shares a name, a member whose hash was replaced has the new one. -/
theorem PasswordChange.Replaces.hasPassword {change : PasswordChange}
    {before after : Directory.Table} (h : change.Replaces hash before after)
    (hunique : (before.staff.map Directory.Staff.username).Nodup) {member : Directory.Staff}
    (hfound : before.staff? change.target = some member) :
    after.HasPassword change.target member.username hash := by
  have hafter : after = (before.answer (.setPasswordHash change.target hash)).2 :=
    h.trans (congrArg Prod.snd (Directory.Table.changeStaff_of_found hfound _)).symm
  subst hafter
  refine ⟨?_, ?_, ?_⟩
  · rw [Directory.Table.staff_map_answer _ (fun _ _ => rfl) (fun _ _ => rfl) (fun _ _ => rfl)]
    exact hunique
  · rw [Directory.Table.username_answer, hfound]
    rfl
  · exact Directory.Table.passwordHash_setPasswordHash hfound hash

/-- After any history since a fresh start, a password is changed exactly if the directory as it is
now allows the bearer of the claims to change it, and the new one is long enough and can be hashed.
Then the directory differs by the new hash and in nothing else, and the member, if nobody shares the
name, signs in with the passwords that fit it until it is changed again. If the password is not
changed, the directory stays as it is, and the sessions stay in any case. A caller who may not
change the password gets the same answer for every new one. -/
theorem password_change {service : Service} {clock : Clock} {directory : Directory.Table}
    {scenes : List Scene} {history : List Event} {world : World}
    (hplay : World.play World.handler service scenes (.fresh clock directory) = (history, world))
    (around : Surroundings) (change : PasswordChange)
    {outcome : Option (Except AuthError Unit)} {after : World}
    (hrun : Action.perform (World.handler around) (change.action service) world =
      (outcome, after)) :
    (world.clock.CanShow service.contextTtl → outcome ≠ none) ∧
      (outcome ≠ none → (outcome = some (.ok ()) ↔
        change.Allowed world.directory around.hasher ∧ ∃ hash, change.Yields around world hash)) ∧
      (outcome = some (.ok ()) → ∃ hash, change.Yields around world hash ∧
        change.Replaces hash world.directory after.directory ∧
          ((world.directory.staff.map Directory.Staff.username).Nodup →
            ∀ member, world.directory.staff? change.target = some member →
              service.Establishes after change.target member.username hash)) ∧
      (outcome ≠ some (.ok ()) → after.directory = world.directory) ∧
      after.sessions = world.sessions ∧
      (¬ change.Allowed world.directory around.hasher → ∀ other, change.Alike other →
        Action.perform (World.handler around) (other.action service) world = (outcome, after)) := by
  have hcoherent := World.coherent_play service clock directory scenes
  have hunranked := World.unranked_play service clock directory scenes
  rw [hplay] at hcoherent hunranked
  have halike : change.Alike change := ⟨rfl, rfl, fun _ => rfl⟩
  -- it breaks off, or goes on to the new password, or is refused
  rcases PasswordChange.perform_action_cases service hcoherent hunranked around change with
    ⟨hshow, keyValue, haction⟩ | ⟨hallowed, keyValue, haction⟩ | ⟨hnot, error, keyValue, haction⟩
  · rw [haction change halike] at hrun
    cases hrun
    exact ⟨fun h => absurd h hshow, fun h => absurd rfl h, nofun, fun _ => rfl, rfl,
      fun _ => haction⟩
  · rw [haction] at hrun
    obtain ⟨caller, member, hallowedTo⟩ := id hallowed
    have hfound : ({ world with keyValue } : World).directory.staff? change.target = some member :=
      hallowedTo.member_eq
    rcases PasswordChange.perform_replacement around hfound with
      ⟨hash, directory, dropped, draws, hyields, hreplaces, hreplaced⟩ |
        ⟨hfails, error, draws, hfailed⟩
    · rw [hreplaced] at hrun
      cases hrun
      refine ⟨nofun, fun _ => iff_of_true rfl ⟨hallowed, hash, hyields⟩, fun _ => ⟨hash, hyields,
        hreplaces, fun hunique member hmember => ?_⟩, fun h => absurd rfl h, rfl,
        fun h => absurd hallowed h⟩
      exact (hreplaces.hasPassword hunique hmember).establishes
    · rw [hfailed] at hrun
      cases hrun
      exact ⟨nofun, fun _ => iff_of_false nofun fun h => hfails h.2, nofun, fun _ => rfl, rfl,
        fun h => absurd hallowed h⟩
  · rw [haction change halike] at hrun
    cases hrun
    exact ⟨nofun, fun _ => iff_of_false nofun fun h => hnot h.1, nofun, fun _ => rfl, rfl,
      fun _ => haction⟩

/-- The member of staff with the highest role gives the other one a new password. -/
def PasswordChange.plainReset : PasswordChange := ⟨.plain, 2, none, "fourth password"⟩

/-- The reset succeeds, and the other member signs in with the new password from then on. -/
theorem password_change_reset :
    (Action.perform (World.handler .plain) (PasswordChange.plainReset.action .plain)
        .plainPair).1 = some (.ok ()) ∧
      Service.plain.Establishes (Action.perform (World.handler .plain)
        (PasswordChange.plainReset.action .plain) .plainPair).2 2 "amy" "fourth password" := by
  have hdirectory : World.plainPair.directory = .plainPair := by rfl
  have hshow : World.plainPair.clock.CanShow Service.plain.contextTtl := by rfl
  have hunique : (World.plainPair.directory.staff.map Directory.Staff.username).Nodup := by
    rw [hdirectory]
    decide
  have hfound : World.plainPair.directory.staff? PasswordChange.plainReset.target =
      some ⟨2, "amy", "amy@localhost", "third password", .stylist, true⟩ := by
    rw [hdirectory]
    rfl
  have hallowed : PasswordChange.plainReset.Allowed World.plainPair.directory
      Surroundings.plain.hasher := by
    rw [hdirectory]
    exact ⟨_, _, rfl, rfl, rfl, rfl, .inr ⟨by decide, rfl, by decide⟩⟩
  have hyields : PasswordChange.plainReset.Yields .plain .plainPair "fourth password" :=
    ⟨by decide, rfl⟩
  obtain ⟨hends, hiff, hdone, -⟩ := password_change rfl .plain .plainReset
    (Prod.eta (Action.perform (World.handler .plain) (PasswordChange.plainReset.action .plain)
      .plainPair)).symm
  have hok := (hiff (hends hshow)).2 ⟨hallowed, _, hyields⟩
  obtain ⟨hash, hother, -, hgood⟩ := hdone hok
  obtain rfl : "fourth password" = hash := Except.ok.inj (hyields.2.symm.trans hother.2)
  exact ⟨hok, hgood hunique _ hfound⟩

end Gatehouse
