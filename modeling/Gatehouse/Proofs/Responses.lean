import Gatehouse.Http.Api
import Gatehouse.Proofs.Program

/-!
# Responses to requests

What lies around the work on a request: a path without a resource and a method that the resource
does not allow are answered without a call, and otherwise the outcome is turned into a response
(`respond_of_routed`). A failure other than of the request itself shows no more than its kind
(`failure_eq_refusal`).
-/

namespace Gatehouse.Http

/-- A response as it is sent for a method: a request for the head alone gets no body. -/
def Response.cutFor (response : Response) (method : String) : Response :=
  if method == "HEAD" then { response with body := [] } else response

/-- The path of a request stands for a resource, which allows the method. -/
structure Request.Routed (request : Request) (resource : Resource) : Prop where
  /-- The path stands for the resource. -/
  path : (Target.path? request.target).bind Resource.ofPath? = some resource
  /-- The resource allows the method. -/
  method : resource.methods.contains request.method = true

namespace Api

/-- The response to a failure of which only the kind is shown. -/
def refusal (api : Api) (kind : ErrorKind) : Response :=
  .json (Catalog.sentStatus (api.catalog kind).status)
    (Catalog.errorBody ⟨(api.catalog kind).status, (api.catalog kind).code,
      (api.catalog kind).message⟩)

/-- Only of a request that makes no sense more is shown than the kind of failure. -/
theorem failure_eq_refusal (api : Api) {error : AuthError} (h : error.kind ≠ .invalidRequest) :
    api.failure error = api.refusal error.kind := by
  cases error with
  | invalidRequest detail => exact absurd rfl h
  | _ => rfl

/-- The response to an outcome. -/
def conclude (api : Api) (request : Request) : Except AuthError Response → Response
  | .ok response => response.cutFor request.method
  | .error error => (api.failure error).cutFor request.method

/-- Does what a request asks, and responds with the outcome. -/
def deliver (api : Api) (request : Request) (action : Action Response) :
    Gatehouse.Request Response :=
  api.conclude request <$> action.request

variable (api : Api) {request : Request} {resource : Resource}

/-- A request that has a resource is answered with the outcome of what it asks. -/
theorem respond_of_routed (h : request.Routed resource) :
    api.respond request = api.deliver request (api.perform request resource) := by
  rw [respond, h.path]
  dsimp only
  rw [if_neg (by rw [h.method]; exact Bool.false_ne_true), deliver, map_eq_pure_bind]
  refine congrArg _ (funext fun outcome => ?_)
  rcases outcome with error | response
  · rfl
  · rfl

/-- A request that has no resource, or a method that is not allowed, is answered without a call. -/
theorem respond_of_not_routed (h : ∀ resource, ¬ request.Routed resource) :
    ∃ response, api.respond request = pure response := by
  rw [respond]
  split
  · exact ⟨_, rfl⟩
  · rename_i resource hpath
    cases hmethod : resource.methods.contains request.method with
    | false => exact ⟨_, rfl⟩
    | true => exact absurd ⟨hpath, hmethod⟩ (h resource)

end Api

end Gatehouse.Http
