import Gatehouse.Proofs.CustomerSignIn
import Gatehouse.Proofs.Passwords

/-!
# What customers may do

What the claims of a customer are good for, whatever bytes are stored. Staff are administered by
staff role, which no context of a customer has, so customers are refused there. A requirement is
checked by the role that a context shows, whatever its kind. No context of a customer that is loaded
shows one, but one that is cached may. Main statement: customers are refused everything if no live
context of theirs that is cached shows a role, and otherwise they meet the requirements that it
meets, and nothing more (`customer_authority`).
-/

namespace Gatehouse

variable {service : Service} {around : Surroundings} {world : World} {claims : Token.Claims}

/-- A run is refused: it fails, or breaks off where the clock cannot show the end of a lifetime, and
leaves everything but the shared entries as it was. -/
def World.Refuses {α : Type} (world : World) (ttl : Duration)
    (run : Option (Except AuthError α) × World) : Prop :=
  ∃ keyValue, (∃ error, run = (some (.error error), { world with keyValue })) ∨
    (¬ world.clock.CanShow ttl ∧ run = (none, { world with keyValue }))

/-- At most one live context is cached for a principal. -/
theorem World.Caches.unique {kind : PrincipalKind} {id : PrincipalId} {context other : Context}
    (h : world.Caches kind id context) (hother : world.Caches kind id other) : context = other := by
  obtain ⟨value, hvalue, hdecode⟩ := h
  obtain ⟨value', hvalue', hdecode'⟩ := hother
  obtain rfl := Option.some.inj (hvalue.symm.trans hvalue')
  exact Option.some.inj (hdecode.symm.trans hdecode')

/-- The context of a customer has no staff role, whatever role it shows. -/
theorem Context.staffRole_of_customer {context : Context} (h : context.kind = .customer) :
    context.staffRole = none := by
  rw [staffRole, h]

/-- The context that the directory gives for a customer shows no role. -/
theorem Directory.Table.role_of_context? {table : Table} {id : PrincipalId} {context : Context}
    (h : table.context? .customer id = some context) : context.role = none := by
  obtain ⟨customer, -, rfl⟩ := Option.map_eq_some_iff.1 h
  rfl

/-- The claims of a customer lead to a context without a staff role, or to none. -/
theorem Service.permissions_of_customer (hkind : claims.kind = .customer) (service : Service)
    (around : Surroundings) (world : World) :
    (∃ context keyValue, context.staffRole = none ∧
        Action.perform (World.handler around) (service.permissions claims) world =
          (some (.ok context), { world with keyValue })) ∨
      ∃ failure : Option AuthError, ∃ keyValue,
        (failure = none → ¬ world.clock.CanShow service.contextTtl) ∧
          Action.perform (World.handler around) (service.permissions claims) world =
            (failure.map .error, { world with keyValue }) := by
  rw [StaffChange.permissions_eq hkind]
  -- a context that is resolved is the customer's, be it cached or from the directory
  rcases ContextCache.perform_resolve_cases around world service.contextTtl .customer
    claims.subject with
    ⟨value, context, -, hdecode, hrun⟩ |
      ⟨-, keyValue, ⟨-, hrun⟩ | ⟨context, hcontext, ⟨hshow, hrun⟩ | hrun⟩⟩
  · have hfor := ContextCache.isFor_of_decode? hdecode
    exact .inl ⟨context, world.keyValue,
      Context.staffRole_of_customer (Context.isFor_iff.1 hfor).1, hrun⟩
  · exact .inr ⟨some .principalNotFound, keyValue, by rintro ⟨⟩, hrun⟩
  · exact .inr ⟨none, keyValue, fun _ => hshow, hrun⟩
  · have hfor := Directory.Table.isFor_of_context? hcontext
    exact .inl ⟨context, keyValue,
      Context.staffRole_of_customer (Context.isFor_iff.1 hfor).1, hrun⟩

namespace World

/-- What ends without a context is refused, if breaking off is accounted for. -/
theorem refuses_failure {α : Type} {ttl : Duration} {failure : Option AuthError}
    (h : failure = none → ¬ world.clock.CanShow ttl) (keyValue : KeyValue.Table) :
    world.Refuses ttl
      ((failure.map .error, { world with keyValue }) : Option (Except AuthError α) × World) := by
  cases failure with
  | none => exact ⟨keyValue, .inr ⟨h rfl, rfl⟩⟩
  | some error => exact ⟨keyValue, .inl ⟨error, rfl⟩⟩

/-- What gives a value is not refused. -/
theorem not_refuses_ok {α : Type} {ttl : Duration} {value : α} {after : World} :
    ¬ world.Refuses ttl (some (.ok value), after) := by
  rintro ⟨keyValue, ⟨error, ⟨⟩⟩ | ⟨-, ⟨⟩⟩⟩

end World

/-- Customers change no member of staff. -/
theorem StaffChange.refused (hkind : claims.kind = .customer) (change : StaffChange)
    (target : PrincipalId) (service : Service) (around : Surroundings) (world : World) :
    world.Refuses service.contextTtl
      (Action.perform (World.handler around) (change.action service claims target) world) := by
  rcases service.permissions_of_customer hkind around world with
    ⟨caller, keyValue, hrank, hrun⟩ | ⟨failure, keyValue, hshow, hrun⟩
  · rcases change.decides target around hrun with
      ⟨⟨role, member, hmanages, -⟩, -⟩ | ⟨-, error, hrefused⟩
    -- to manage somebody takes a staff role
    · rw [hmanages.role_eq] at hrank
      cases hrank
    · exact ⟨keyValue, .inl ⟨error, hrefused⟩⟩
  · rw [perform_action_of_not_ok around failure hrun]
    exact World.refuses_failure hshow keyValue

/-- Customers change no password. -/
theorem PasswordChange.refused (change : PasswordChange) (hkind : change.claims.kind = .customer)
    (service : Service) (around : Surroundings) (world : World) :
    world.Refuses service.contextTtl
      (Action.perform (World.handler around) (change.action service) world) := by
  rcases service.permissions_of_customer hkind around world with
    ⟨caller, keyValue, hrank, hrun⟩ | ⟨failure, keyValue, hshow, hrun⟩
  · rw [perform_action_of_caller hrun, verdict_of_not_staff hrank]
    exact ⟨keyValue, .inl ⟨_, rfl⟩⟩
  · rw [perform_action_of_not_ok failure hrun]
    exact World.refuses_failure hshow keyValue

namespace Service

/-- A requirement is checked on the context that the claims lead to. -/
theorem perform_authorize (requirement : Requirement) :
    Action.perform (World.handler around) (service.authorize claims requirement) world =
      match Action.perform (World.handler around) (service.permissions claims) world with
      | (some (.ok context), after) =>
        (some ((requirement.check context).map (fun _ => context)), after)
      | (some (.error error), after) => (some (.error error), after)
      | (none, after) => (none, after) := by
  rw [authorize, Action.perform_bind]
  rcases Action.perform (World.handler around) (service.permissions claims) world with
    ⟨_ | error | context, after⟩
  · rfl
  · rfl
  · dsimp only
    cases requirement.check context <;> rfl

/-- Authorizing gives a live context that is cached for the customer and meets the requirement. It
is refused where there is none. -/
theorem authorize_of_customer (hkind : claims.kind = .customer) (service : Service)
    (around : Surroundings) (world : World) (requirement : Requirement) :
    (∃ context, world.Caches .customer claims.subject context ∧
        requirement.check context = .ok () ∧
        Action.perform (World.handler around) (service.authorize claims requirement) world =
          (some (.ok context), world)) ∨
      ((∀ context, world.Caches .customer claims.subject context →
          requirement.check context ≠ .ok ()) ∧
        world.Refuses service.contextTtl (Action.perform (World.handler around)
          (service.authorize claims requirement) world)) := by
  rw [perform_authorize, StaffChange.permissions_eq hkind]
  rcases ContextCache.perform_resolve_cases around world service.contextTtl .customer
    claims.subject with
    ⟨value, context, hvalue, hdecode, hrun⟩ | ⟨hnone, keyValue, hfetched⟩
  · have hcaches : world.Caches .customer claims.subject context := ⟨value, hvalue, hdecode⟩
    rw [hrun]
    dsimp only
    cases hcheck : requirement.check context with
    | ok value => exact .inl ⟨context, hcaches, hcheck, rfl⟩
    | error error =>
      refine .inr ⟨fun other hother hok => ?_, world.keyValue, .inl ⟨error, rfl⟩⟩
      obtain rfl := hcaches.unique hother
      rw [hcheck] at hok
      cases hok
  · refine .inr ⟨?_, ?_⟩
    · rintro context ⟨value, hvalue, hdecode⟩
      rw [hnone value hvalue] at hdecode
      cases hdecode
    rcases hfetched with ⟨-, hrun⟩ | ⟨context, hcontext, ⟨hshow, hrun⟩ | hrun⟩
    · rw [hrun]
      exact ⟨keyValue, .inl ⟨_, rfl⟩⟩
    · rw [hrun]
      exact ⟨keyValue, .inr ⟨hshow, rfl⟩⟩
    -- what the directory gives shows no role, and meets no requirement
    · rw [hrun]
      dsimp only
      rw [Requirement.check_of_role_none (Directory.Table.role_of_context? hcontext)]
      exact ⟨keyValue, .inl ⟨_, rfl⟩⟩

end Service

/-- Whatever is stored, the claims of a customer change no member of staff, no grant and no
password, and the attempt leaves everything but the shared entries as it was. They meet a
requirement exactly if a live context that is cached for the customer does. So they are refused
whatever the requirement, exactly if no such context shows a role. -/
theorem customer_authority (hkind : claims.kind = .customer) (service : Service)
    (around : Surroundings) (world : World) :
    (∀ (change : StaffChange) target, world.Refuses service.contextTtl
        (Action.perform (World.handler around) (change.action service claims target) world)) ∧
      (∀ target oldPassword newPassword, world.Refuses service.contextTtl
        (Action.perform (World.handler around)
          (service.changePassword claims target oldPassword newPassword) world)) ∧
      (∀ requirement,
        (∃ context, world.Caches .customer claims.subject context ∧
          requirement.check context = .ok () ∧
          Action.perform (World.handler around) (service.authorize claims requirement) world =
            (some (.ok context), world)) ∨
        ((∀ context, world.Caches .customer claims.subject context →
            requirement.check context ≠ .ok ()) ∧
          world.Refuses service.contextTtl
            (Action.perform (World.handler around)
              (service.authorize claims requirement) world))) ∧
      ((∀ requirement, world.Refuses service.contextTtl
          (Action.perform (World.handler around) (service.authorize claims requirement) world)) ↔
        ∀ context, world.Caches .customer claims.subject context → context.role = none) := by
  refine ⟨fun change target => change.refused hkind target service around world,
    fun target oldPassword newPassword => PasswordChange.refused
      ⟨claims, target, oldPassword, newPassword⟩ hkind service around world,
    service.authorize_of_customer hkind around world, ?_, ?_⟩
  · intro hrefused context hcaches
    cases hrole : context.role with
    | none => rfl
    | some role =>
      -- a role meets the requirement of being at least that role
      have hcheck : Requirement.check ⟨.atLeast role, none⟩ context = .ok () := by
        simp [Requirement.check, hrole, RoleRequirement.admits, Role.isAtLeast]
      rcases service.authorize_of_customer hkind around world ⟨.atLeast role, none⟩ with
        ⟨given, -, -, hrun⟩ | ⟨hnot, -⟩
      · exact absurd (hrun ▸ hrefused ⟨.atLeast role, none⟩) World.not_refuses_ok
      · exact absurd hcheck (hnot context hcaches)
  · intro hnone requirement
    rcases service.authorize_of_customer hkind around world requirement with
      ⟨context, hcaches, hcheck, -⟩ | ⟨-, hrefused⟩
    · rw [Requirement.check_of_role_none (hnone context hcaches)] at hcheck
      cases hcheck
    · exact hrefused

/-- The context of the customer, but that it shows the role of an administrator. -/
def Context.plainPlanted : Context := ⟨1, .customer, "first name", some .admin, .empty⟩

/-- The world in which nothing has happened but that this context was cached. -/
def World.plainPlanted : World :=
  (World.fresh ⟨⟨0⟩, .zero⟩ .plainCustomer).caching .plainPlanted ⟨60000000000⟩

/-- The claims of the customer. -/
def Token.Claims.plainCustomer : Claims := ⟨1, .customer, "", none, .empty, 0, 0, ""⟩

/-- The context is cached for the customer. -/
theorem World.caches_plainPlanted : World.plainPlanted.Caches .customer 1 .plainPlanted :=
  ⟨_, rfl, ContextCache.decode?_write_self .plainPlanted⟩

/-- A customer for whom a context is cached that shows the role of an administrator changes nobody's
role and nobody's password, and is not refused whatever the requirement. -/
theorem customer_authority_planted :
    (∀ target role, World.plainPlanted.Refuses Service.plain.contextTtl
        (Action.perform (World.handler .plain)
          (Service.plain.changeRole .plainCustomer target role) .plainPlanted)) ∧
      (∀ target oldPassword newPassword, World.plainPlanted.Refuses Service.plain.contextTtl
        (Action.perform (World.handler .plain)
          (Service.plain.changePassword .plainCustomer target oldPassword newPassword)
          .plainPlanted)) ∧
      ¬ ∀ requirement, World.plainPlanted.Refuses Service.plain.contextTtl
        (Action.perform (World.handler .plain)
          (Service.plain.authorize .plainCustomer requirement) .plainPlanted) := by
  have hkind : Token.Claims.plainCustomer.kind = .customer := rfl
  obtain ⟨hchange, hpassword, -, hrole⟩ :=
    customer_authority hkind Service.plain .plain .plainPlanted
  refine ⟨fun target role => hchange (.role role) target, hpassword, fun hrefused => ?_⟩
  have hnone : Context.plainPlanted.role = none := hrole.1 hrefused _ World.caches_plainPlanted
  cases hnone

/-- This customer is let through where a member of staff is required who is at least a stylist. -/
theorem planted_role_admitted :
    Token.Claims.plainCustomer.kind = .customer ∧
      (Action.perform (World.handler .plain)
        (Service.plain.authorize .plainCustomer ⟨.atLeast .stylist, none⟩) .plainPlanted).1 =
        some (.ok .plainPlanted) := by
  refine ⟨rfl, ?_⟩
  have hrun : Action.perform (World.handler .plain)
      (Service.plain.permissions .plainCustomer) .plainPlanted =
      (some (.ok .plainPlanted), .plainPlanted) :=
    World.caches_plainPlanted.perform_resolve _ _
  rw [Service.perform_authorize, hrun]
  rfl

end Gatehouse
