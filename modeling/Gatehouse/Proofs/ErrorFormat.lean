import Gatehouse.Proofs.Calls
import Gatehouse.Proofs.Mediation
import Gatehouse.Proofs.World

/-!
# The form of error responses

What a request that has a resource is answered with. A response to a failure is a JSON document with
the code and the status of the catalog's entry for a kind (`Api.document`). There is one exception:
behind a bearer who is let through, a path without a number in the place of an id is answered with a
text. Main statement: every response is one to a success, such a document, or this text, and it is
this text exactly in that case (`error_format`).
-/

namespace Gatehouse

variable {σ : Type} {expected : (call : RequestCall) → call.Reply → Prop}

/-! ## The calls of a request -/

/-- The calls that requests make: they let no time pass, and set shared entries for nothing but the
lifetime of a context. -/
def Service.MayCall (service : Service) : RequestCall → Prop
  | .store (.keyValue (.set _ _ ttl)) => ttl = service.contextTtl
  | .store (.keyValue (.setIfAbsent _ _ _)) => False
  | .store (.keyValue .purge) => False
  | .outside (.pause _) => False
  | _ => True

/-- From states that are sound, the calls of requests are answered, and lead to such states. -/
def Service.ServedBy (service : Service) (handler : Handler requests σ) (Sound : σ → Prop) :
    Prop :=
  ∀ (call : RequestCall) state, Sound state → service.MayCall call →
    Sound (handler call state).2 ∧ ∃ reply, (handler call state).1 = some reply

/-- The stores in memory serve a service as long as the clock can show the end of the lifetime of a
context. -/
theorem World.serves {service : Service} (around : Surroundings) {clock : Clock}
    (h : clock.CanShow service.contextTtl) :
    service.ServedBy (World.handler around) (fun world => world.clock = clock) := by
  rintro call world rfl hcall
  refine ⟨?_, ?_⟩
  · -- only a pause moves the clock
    refine (World.handler_clock around call world).trans ?_
    split
    · exact hcall.elim
    · rfl
  · rcases call with (call | call | call) | call
    · cases call with
      | get key => exact ⟨_, rfl⟩
      | set key value ttl =>
        obtain rfl := hcall
        obtain ⟨deadline, hdeadline⟩ := Option.isSome_iff_exists.1 h
        simp only [World.handler, World.answerStore, KeyValue.Table.answer, KeyValue.Table.set,
          hdeadline]
        exact ⟨_, rfl⟩
      | setIfAbsent key value ttl => exact hcall.elim
      | delete key => exact ⟨_, rfl⟩
      | purge => exact hcall.elim
    · exact ⟨_, rfl⟩
    · exact ⟨_, rfl⟩
    · exact ⟨_, rfl⟩

/-- What every operation may do is among the calls of requests. -/
theorem Service.licence_mayCall (service : Service) : service.Licence service.MayCall expected where
  look := by
    rintro ((call | call | call) | call) hlooks
    · cases hlooks
    · exact trivial
    · exact trivial
    · cases call <;> trivial
  consult _ _ := trivial
  drop _ _ := trivial
  keep _ _ _ _ := rfl

namespace Http

/-! ## Responses -/

/-- The part of the path of a resource that stands for a number. -/
def Resource.segment? : Resource → Option Bytes
  | role segment | active segment | stores segment => some segment
  | _ => none

/-- The responses to a success at a resource. -/
def Resource.Success : Resource → Response → Prop
  | health, response => response = .text 200 "ok"
  | staffLogin, response | customerLogin, response => ∃ tokens, response = Api.signedIn tokens
  | refresh _, response => ∃ token, response = Api.refreshed token
  | me, response => ∃ claims : Token.Claims, response = .json 200 claims.write
  | permission, response => ∃ context : Context, response = .json 200 context.write
  | logout _, response | password, response | role _, response | active _, response
  | stores _, response => response = Api.success

/-- The responses that a resource itself gives: to a success, or to a path without a number. -/
def Resource.Gives (resource : Resource) (response : Response) : Prop :=
  resource.Success response ∨ ∃ segment text, resource.segment? = some segment ∧
    Path.id segment = .error text ∧ response = .text 400 text

namespace Api

variable (api : Api)

/-- The messages that a catalog has for failures of a kind: that of the entry, which the detail of a
request that makes no sense may follow. -/
def Says (kind : ErrorKind) (message : String) : Prop :=
  message = (api.catalog kind).message ∨
    kind = .invalidRequest ∧ ∃ detail, message = (api.catalog kind).message ++ ": " ++ detail

/-- The response to a failure of a kind: a JSON document with the code of the catalog's entry and a
message, under the status of the entry if that has three digits. -/
def document (kind : ErrorKind) (message : String) : Response :=
  .json (Catalog.sentStatus (api.catalog kind).status)
    (Json.Write.object
      [("error", Json.Write.object
        [ ("code", Json.Write.string (api.catalog kind).code),
          ("message", Json.Write.string message) ])])

/-- Every failure is answered with the document for its kind. -/
theorem exists_document (error : AuthError) :
    ∃ message, api.Says error.kind message ∧
      api.failure error = api.document error.kind message := by
  cases error with
  | invalidRequest detail => exact ⟨_, .inr ⟨rfl, detail, rfl⟩, rfl⟩
  | _ => exact ⟨_, .inl rfl, rfl⟩

variable {request : Request} {resource : Resource}

/-- Asking for the bearer looks at the clock. -/
theorem bearer_within (request : Request) :
    Action.Within api.service.MayCall expected (fun _ => True) (api.bearer request) := by
  rw [bearer]
  split
  · exact Action.within_throw _
  · refine Action.Within.bind (Action.within_outside trivial (fun _ _ => trivial)) ?_
    intro now _
    split
    · exact Action.within_pure trivial
    · exact Action.within_throw _

/-- Reading a body calls nothing. -/
theorem body_within {α : Type} (reader : Json.Reader α) (request : Request) :
    Action.Within api.service.MayCall expected (fun _ => True) (body reader request) := by
  rw [body]
  split
  · exact Action.within_pure trivial
  · exact Action.within_throw _

/-- A path without a number is answered by the resource, and otherwise by what follows. -/
theorem withId_within {segment : Bytes} (hsegment : resource.segment? = some segment)
    {next : PrincipalId → Action Response}
    (h : ∀ id, Action.Within api.service.MayCall expected resource.Gives (next id)) :
    Action.Within api.service.MayCall expected resource.Gives (withId segment next) := by
  rw [withId]
  split
  · exact h _
  · rename_i text htext
    exact Action.within_pure (.inr ⟨segment, text, hsegment, htext, rfl⟩)

/-- After a step of the work that succeeds, a response to a success is given. -/
theorem success_within {α : Type} {action : Action α} {post : α → Prop}
    (h : Action.Within api.service.MayCall expected post action)
    {answer : α → Response} (hanswer : ∀ value, resource.Success (answer value)) :
    Action.Within api.service.MayCall expected resource.Gives
      (do return answer (← action)) :=
  Action.Within.bind h (fun value _ => Action.within_pure (.inl (hanswer value)))

/-- Changing stores is answered by the resource. -/
theorem changeStores_within (request : Request) (segment : Bytes)
    {change : Service → Token.Claims → PrincipalId → List StoreId → Action Unit}
    (h : ∀ claims id stores, Action.Within api.service.MayCall expected (fun _ => True)
      (change api.service claims id stores)) :
    Action.Within api.service.MayCall expected (Resource.stores segment).Gives
      (api.changeStores request segment change) := by
  refine Action.Within.andThen (api.bearer_within request) (fun claims => ?_)
  refine api.withId_within rfl (fun id => ?_)
  refine Action.Within.andThen (api.body_within _ request) (fun stores => ?_)
  exact api.success_within (h claims id stores) (fun _ => rfl)

/-- What a request asks of a resource is answered by the resource, or fails. -/
theorem perform_within (request : Request) (resource : Resource) :
    Action.Within api.service.MayCall expected resource.Gives (api.perform request resource) := by
  have licence : api.service.Licence api.service.MayCall expected := api.service.licence_mayCall
  cases resource with
  | health => exact Action.within_pure (.inl rfl)
  | staffLogin =>
    refine Action.Within.andThen (api.body_within _ request) (fun login => ?_)
    exact api.success_within
      (Service.signInStaff_within licence (fun _ => trivial) _ _ _) (fun tokens => ⟨tokens, rfl⟩)
  | customerLogin =>
    refine Action.Within.andThen (api.body_within _ request) (fun token => ?_)
    exact api.success_within
      (Service.signInCustomer_within licence (fun _ => trivial) (fun _ => trivial) _ _)
      (fun tokens => ⟨tokens, rfl⟩)
  | refresh kind =>
    refine Action.Within.andThen (api.body_within _ request) (fun token => ?_)
    exact api.success_within (Service.refresh_within licence kind token)
      (fun token => ⟨token, rfl⟩)
  | logout kind =>
    refine Action.Within.andThen (api.body_within _ request) (fun token => ?_)
    exact api.success_within (Service.signOut_within licence kind token trivial) (fun _ => rfl)
  | password =>
    refine Action.Within.andThen (api.bearer_within request) (fun claims => ?_)
    refine Action.Within.andThen (api.body_within _ request) (fun change => ?_)
    exact api.success_within
      (Service.changePassword_within licence claims _ _ _ (fun _ _ _ _ _ => trivial))
      (fun _ => rfl)
  | me => exact api.success_within (api.bearer_within request) (fun claims => ⟨claims, rfl⟩)
  | permission =>
    refine Action.Within.andThen (api.bearer_within request) (fun claims => ?_)
    exact api.success_within (Service.permissions_within licence claims)
      (fun context => ⟨context, rfl⟩)
  | role segment =>
    refine Action.Within.andThen (api.bearer_within request) (fun claims => ?_)
    refine api.withId_within rfl (fun id => ?_)
    refine Action.Within.andThen (api.body_within _ request) (fun role => ?_)
    exact api.success_within
      (Service.changeRole_within licence claims id role (fun _ _ _ _ _ _ => trivial))
      (fun _ => rfl)
  | active segment =>
    refine Action.Within.andThen (api.bearer_within request) (fun claims => ?_)
    refine api.withId_within rfl (fun id => ?_)
    refine Action.Within.andThen (api.body_within _ request) (fun active => ?_)
    exact api.success_within
      (Service.setActive_within licence claims id active (fun _ _ _ _ _ => trivial))
      (fun _ => rfl)
  | stores segment =>
    rw [perform]
    split
    · exact api.changeStores_within request segment (fun claims id stores =>
        Service.revokeStores_within licence claims id stores (fun _ _ _ _ _ _ => trivial))
    · exact api.changeStores_within request segment (fun claims id stores =>
        Service.grantStores_within licence claims id stores (fun _ _ _ _ _ _ => trivial))

/-- A bearer is let through, but the path has a text in the place of a number, which is answered
with an explanation. -/
structure PathRefused (request : Request) (resource : Resource) (now : Timestamp) (text : String) :
    Prop where
  /-- The bearer is let through. -/
  admitted : ∃ claims,
    admission api.service.issuer.secret (request.header? "authorization") now = .ok claims
  /-- What stands in the place of a number is none. -/
  segment : ∃ segment, resource.segment? = some segment ∧ Path.id segment = .error text

/-- A resource whose path has a place for a number needs a bearer. -/
theorem isProtected_of_segment? {segment : Bytes} (h : resource.segment? = some segment) :
    resource.isProtected = true := by
  cases resource <;> first | rfl | cases h

/-- What is asked with a path without a number comes to an explanation. -/
theorem errand_of_segment? {errand : Token.Claims → Action Response}
    (herrand : api.errand? request resource = some errand) {segment : Bytes}
    (hsegment : resource.segment? = some segment) {text : String}
    (htext : Path.id segment = .error text) (claims : Token.Claims) :
    errand claims = pure (.text 400 text) := by
  have hrefused (next : PrincipalId → Action Response) :
      withId segment next = pure (.text 400 text) := by
    rw [withId, htext]
  cases resource <;> cases hsegment <;> cases herrand <;> exact hrefused _

variable {handler : Handler requests σ} {state : σ} {now : Timestamp}

/-- A path that is refused is answered with the explanation. -/
theorem run_respond_of_pathRefused (hrouted : request.Routed resource)
    (hclock : handler (.outside .now) state = (some now, state)) {text : String}
    (h : api.PathRefused request resource now text) :
    (api.respond request).run handler state =
      (some ((Response.text 400 text).cutFor request.method), state) := by
  obtain ⟨⟨claims, hclaims⟩, segment, hsegment, htext⟩ := h
  obtain ⟨errand, herrand⟩ := api.exists_errand request (isProtected_of_segment? hsegment)
  rw [api.respond_of_admitted hrouted herrand hclock hclaims, run_deliver,
    api.errand_of_segment? herrand hsegment htext, Action.perform_pure]
  rfl

/-- A request that has a resource is answered by the resource, or with the document for a failure.
-/
theorem respond_completes (hrouted : request.Routed resource) {Sound : σ → Prop}
    (hserved : api.service.ServedBy handler Sound) (hsound : Sound state) :
    ∃ response after, (api.respond request).run handler state = (some response, after) ∧
      ((∃ given, resource.Gives given ∧ response = given.cutFor request.method) ∨
        ∃ kind message, api.Says kind message ∧
          response = (api.document kind message).cutFor request.method) := by
  have hwithin : Action.Within api.service.MayCall (fun _ _ => True) resource.Gives
      (api.perform request resource) := api.perform_within request resource
  obtain ⟨outcome, after, hrun, -, hgives⟩ := Program.Within.completes hwithin
    (fun call state hsound hcall => (hserved call state hsound hcall).imp_right
      (Exists.imp fun reply hreply => ⟨hreply, trivial⟩)) hsound
  refine ⟨api.conclude request outcome, after, ?_, ?_⟩
  · rw [api.respond_of_routed hrouted, run_deliver, Action.perform, hrun]
    rfl
  · rcases outcome with error | given
    · obtain ⟨message, hsays, hfailure⟩ := api.exists_document error
      exact .inr ⟨error.kind, message, hsays, congrArg (Response.cutFor · request.method) hfailure⟩
    · exact .inl ⟨given, hgives given rfl, rfl⟩

/-- **Failures are answered in one form, but for one.** Take any catalog, and a request with any
headers and any body whose path and method belong to a resource, in any state from which the calls
of requests are answered. There is a response: one to a success at the resource, or the JSON
document with the code and status that the catalog has for a kind of failure, or a text that
explains what is wrong with the number in the path. The text is given exactly if the bearer is let
through and there is no number in the path. -/
theorem error_format (hrouted : request.Routed resource)
    (hclock : handler (.outside .now) state = (some now, state)) {Sound : σ → Prop}
    (hserved : api.service.ServedBy handler Sound) (hsound : Sound state) :
    ∃ response after, (api.respond request).run handler state = (some response, after) ∧
      ((∃ success, resource.Success success ∧ response = success.cutFor request.method) ∨
        (∃ kind message, api.Says kind message ∧
          response = (api.document kind message).cutFor request.method) ∨
        ∃ text, api.PathRefused request resource now text ∧
          response = (Response.text 400 text).cutFor request.method) ∧
      ∀ text, api.PathRefused request resource now text →
        response = (Response.text 400 text).cutFor request.method := by
  obtain ⟨response, after, hrun, hform⟩ := api.respond_completes hrouted hserved hsound
  refine ⟨response, after, hrun, ?_, ?_⟩
  · rcases hform with ⟨_, hsuccess | ⟨segment, text, hsegment, htext, rfl⟩, rfl⟩ | hdocument
    · exact .inl ⟨_, hsuccess, rfl⟩
    -- a path without a number counts only behind a bearer who is let through
    · cases hadmission :
        admission api.service.issuer.secret (request.header? "authorization") now with
      | ok claims => exact .inr (.inr ⟨text, ⟨⟨claims, hadmission⟩, segment, hsegment, htext⟩, rfl⟩)
      | error kind =>
        obtain ⟨errand, herrand⟩ := api.exists_errand request (isProtected_of_segment? hsegment)
        have hrefused := (api.respond_of_refused hrouted herrand hclock hadmission).2
        rw [hrun] at hrefused
        exact .inr (.inl ⟨kind, _, .inl rfl, Option.some.inj (congrArg Prod.fst hrefused)⟩)
    · exact .inr (.inl hdocument)
  · intro text hrefused
    rw [api.run_respond_of_pathRefused hrouted hclock hrefused] at hrun
    exact (Option.some.inj (congrArg Prod.fst hrun)).symm

end Api

/-- A request to sign out without a token in its body gets the document for a request that makes no
sense. -/
theorem error_format_logout :
    let logout := Request.plain "POST" "/auth/logout" []
    logout.Routed (.logout .staff) ∧
      ∃ response after,
        (Api.plain.respond logout).run (World.handler .plain) .plain = (some response, after) ∧
          ∃ kind message, Api.plain.Says kind message ∧
            response = (Api.plain.document kind message).cutFor "POST" := by
  intro logout
  have hrouted : logout.Routed (.logout .staff) := ⟨by rfl, by rfl⟩
  have hclock : World.handler .plain (.outside .now) .plain =
      (some (World.plain.clock.now), World.plain) := rfl
  have hserved := World.serves Surroundings.plain
    (by decide : World.plain.clock.CanShow Service.plain.contextTtl)
  obtain ⟨response, after, hrun, hform, -⟩ :=
    Api.error_format .plain hrouted hclock hserved (Eq.refl World.plain.clock)
  refine ⟨hrouted, response, after, hrun, ?_⟩
  have hstatus : ((Api.plain.respond logout).run (World.handler .plain) .plain).1.map
      Response.status = some 400 := by rfl
  rcases hform with ⟨_, rfl, rfl⟩ | hdocument | ⟨text, hrefused, -⟩
  · rw [hrun] at hstatus
    exact absurd (Option.some.inj hstatus : (200 : Nat) = 400) (by decide)
  · exact hdocument
  · obtain ⟨-, segment, hsegment, -⟩ := hrefused
    cases hsegment

/-- A bearer who is let through asks for the role of `abc`: the response is neither one to a success
nor the document for any kind of failure. -/
theorem path_refused_in_text :
    ∃ value : Bytes,
      let request := Request.plain "PATCH" "/staff/abc/role" [("authorization", value)]
      let response := Response.text 400 "Invalid URL: Cannot parse `abc` to a `i64`"
      request.Routed (.role (utf8 "abc")) ∧
        (Api.plain.respond request).run (World.handler .plain) .plain = (some response, .plain) ∧
          ¬ (Resource.role (utf8 "abc")).Success response ∧
            ∀ kind message, response ≠ Api.plain.document kind message := by
  obtain ⟨first, second, third, -, hsigned⟩ := Token.Issuer.exists_signed_issue
    Service.plain.issuer Token.Claims.plain.context 0 []
  have hadmitted : admission Service.plain.issuer.secret
      (some (utf8 ("Bearer " ++ Token.joined first second third))) World.plain.clock.now =
        .ok Token.Claims.plainMinute :=
    admission_of_signed hsigned (by decide)
  generalize utf8 ("Bearer " ++ Token.joined first second third) = value at hadmitted
  refine ⟨value, ?_⟩
  intro request response
  rw [← Request.header?_plain "PATCH" "/staff/abc/role" value] at hadmitted
  have hrouted : request.Routed (.role (utf8 "abc")) := ⟨by rfl, by rfl⟩
  refine ⟨hrouted, ?_, ?_, ?_⟩
  · exact Api.run_respond_of_pathRefused .plain hrouted rfl
      ⟨⟨_, hadmitted⟩, utf8 "abc", rfl, by rfl⟩
  · intro hsuccess
    exact absurd (congrArg Response.status hsuccess) (by decide)
  · intro kind message heq
    have htype : some "text/plain; charset=utf-8" = some "application/json" :=
      congrArg Response.contentType heq
    exact absurd htype (by decide)

end Http

end Gatehouse
