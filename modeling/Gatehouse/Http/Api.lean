import Gatehouse.Catalog
import Gatehouse.Http.Body
import Gatehouse.Http.Route
import Gatehouse.Http.Target
import Gatehouse.Service.Administration
import Gatehouse.Service.SignIn

/-!
# The web interface

How a request is answered. Where a bearer is needed, the token is checked before anything else, then
the number in the path, then the body; only then is the service asked. Failures are shown as the
catalog has them.
-/

namespace Gatehouse.Http

/-- What the web interface needs. -/
structure Api where
  /-- The service. -/
  service : Service
  /-- The catalog of error texts. -/
  catalog : Catalog

/-- The token that a request carries, or what is wrong with its header. -/
def bearerToken (request : Request) : Except AuthError String :=
  match request.header? "authorization" with
  | none => .error .unauthenticated
  | some value =>
    match headerText? value with
    | none => .error (.tokenMalformed "authorization header is not ASCII")
    | some text =>
      let scheme := "Bearer ".toList
      let token := trimmed (String.ofList (text.toList.drop scheme.length))
      if text.toList.take scheme.length == scheme && !token.isEmpty then .ok token
      else .error (.tokenMalformed "expected a Bearer token")

/-- Where a request comes from: the first address it was forwarded for, or else the other side. -/
def clientOf (request : Request) : ClientInfo :=
  let forwarded := do
    let text ← (request.header? "x-forwarded-for").bind headerText?
    let first := trimmed (String.ofList (text.toList.takeWhile (· != ',')))
    if first.isEmpty then none else some first
  { userAgent := (request.header? "user-agent").bind headerText?
    ipAddress := forwarded.or request.peer }

namespace Api

/-- The claims of the bearer of a request. -/
def bearer (api : Api) (request : Request) : Action Token.Claims := do
  match bearerToken request with
  | .error error => throw error
  | .ok token => api.service.authenticate token

/-- The body of a request. -/
def body {α : Type} (reader : Json.Reader α) (request : Request) : Action α :=
  match Body.parse reader request with
  | .ok value => pure value
  | .error detail => throw (.invalidRequest detail)

/-- Goes on with the number in a path; a path without one is answered here. -/
def withId (segment : Bytes) (next : PrincipalId → Action Response) : Action Response :=
  match Path.id segment with
  | .ok id => next id
  | .error text => pure (.text 400 text)

/-- The response to a success that has nothing to tell. -/
def success : Response :=
  .json 200 (Json.Write.object [("success", Json.Write.boolean true)])

/-- The response to signing in. -/
def signedIn (tokens : SignedIn) : Response :=
  .json 200 (Json.Write.object
    [ ("accessToken", Json.Write.string tokens.accessToken),
      ("refreshToken", Json.Write.string tokens.refreshToken),
      ("expiresIn", Json.Write.integer tokens.expiresIn) ])

/-- The response to refreshing. -/
def refreshed (token : Refreshed) : Response :=
  .json 200 (Json.Write.object
    [ ("accessToken", Json.Write.string token.accessToken),
      ("expiresIn", Json.Write.integer token.expiresIn) ])

/-- The response to a failure. -/
def failure (api : Api) (error : AuthError) : Response :=
  let rendered := api.catalog.render error
  .json (Catalog.sentStatus rendered.status) (Catalog.errorBody rendered)

/-- Changes the stores of a member of staff in the way the method asks for. -/
def changeStores (api : Api) (request : Request) (segment : Bytes)
    (change : Service → Token.Claims → PrincipalId → List StoreId → Action Unit) :
    Action Response := do
  let claims ← api.bearer request
  withId segment fun id => do
    let stores ← body Body.storeIds request
    change api.service claims id stores
    return success

/-- Does what a request asks of a resource, with a method that the resource allows. -/
def perform (api : Api) (request : Request) : Resource → Action Response
  | .health => return .text 200 "ok"
  | .staffLogin => do
    let login ← body Body.login request
    return signedIn
      (← api.service.signInStaff login.username login.password (clientOf request))
  | .customerLogin => do
    let token ← body Body.idToken request
    return signedIn (← api.service.signInCustomer token (clientOf request))
  | .refresh kind => do
    let token ← body Body.refreshToken request
    return refreshed (← api.service.refresh kind token)
  | .logout kind => do
    let token ← body Body.refreshToken request
    Service.signOut kind token
    return success
  | .password => do
    let claims ← api.bearer request
    let change ← body Body.passwordChange request
    api.service.changePassword claims change.staffId change.oldPassword change.newPassword
    return success
  | .me => do
    let claims ← api.bearer request
    return .json 200 claims.write
  | .permission => do
    let claims ← api.bearer request
    let context ← api.service.permissions claims
    return .json 200 context.write
  | .role segment => do
    let claims ← api.bearer request
    withId segment fun id => do
      let role ← body Body.role request
      api.service.changeRole claims id role
      return success
  | .active segment => do
    let claims ← api.bearer request
    withId segment fun id => do
      let active ← body Body.isActive request
      api.service.setActive claims id active
      return success
  | .stores segment =>
    if request.method == "DELETE" then
      api.changeStores request segment Service.revokeStores
    else api.changeStores request segment Service.grantStores

/-- Answers a request. A request for the head alone gets the same response without its body. -/
def respond (api : Api) (request : Request) : Gatehouse.Request Response := do
  match (Target.path? request.target).bind Resource.ofPath? with
  | none => return .empty 404
  | some resource =>
    -- The method is looked at before the bearer, the path's number and the body.
    if !resource.methods.contains request.method then
      let allow := String.intercalate "," resource.methods
      return { Response.empty 405 with allow := some allow }
    else
      let response ←
        match ← (api.perform request resource).request with
        | .ok response => pure response
        | .error error => pure (api.failure error)
      return if request.method == "HEAD" then { response with body := [] } else response

end Api

end Gatehouse.Http
