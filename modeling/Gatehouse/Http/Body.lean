import Gatehouse.Http.MediaType
import Gatehouse.Wire

/-!
# Bodies of requests

The values that requests carry as JSON, and how a body that is no such value is refused.
-/

namespace Gatehouse.Http.Body

open Json.Reader (Member)

/-- The largest body that is taken, in bytes. -/
def largest : Nat := 2097152

/-- The bytes of a body, or why they are not had. -/
def bytes (request : Request) : Except String Bytes :=
  match request.body with
  | none => .error "Failed to buffer the request body: error reading a body from connection"
  | some body =>
    if largest < body.length then
      .error "Failed to buffer the request body: length limit exceeded"
    else .ok body

/-- Reads a body, or says why it is refused: for its type first, then for its size, then for its
content. -/
def parse {α : Type} (reader : Json.Reader α) (request : Request) : Except String α := do
  let isJson := ((request.header? "content-type").bind headerText?).any MediaType.isJson
  if !isJson then throw "Expected request with `Content-Type: application/json`"
  match reader.document (← bytes request) with
  | .ok value => return value
  | .error problem =>
    let front :=
      if problem.cause.isShape then
        "Failed to deserialize the JSON body into the target type: "
      else "Failed to parse the request body as JSON: "
    throw (front ++ problem.located)

/-- The name and password of a member of staff. -/
structure Login where
  /-- The name. -/
  username : String
  /-- The password. -/
  password : String

/-- Reads a name and a password. -/
def login : Json.Reader Login :=
  .record "LoginRequest"
    [ { key := "username", mayLack := false, mayEnd := false
        read := fun body => do return { body with username := ← .string "a string" } },
      { key := "password", mayLack := false, mayEnd := false
        read := fun body => do return { body with password := ← .string "a string" } } ]
    ⟨"", ""⟩

/-- Reads a record of one member. -/
def single {α : Type} (name key : String) (reader : Json.Reader α) (blank : α) : Json.Reader α :=
  .record name [{ key, mayLack := false, mayEnd := false, read := fun _ => reader }] blank

/-- Reads a token of the identity provider. -/
def idToken : Json.Reader String :=
  single "LineLoginRequest" "idToken" (.string "a string") ""

/-- Reads a refresh token. -/
def refreshToken : Json.Reader String :=
  single "RefreshTokenRequest" "refreshToken" (.string "a string") ""

/-- A change of password. -/
structure PasswordChange where
  /-- Whose password is changed. -/
  staffId : PrincipalId
  /-- The present password, if it is given. -/
  oldPassword : Option String
  /-- The new password. -/
  newPassword : String

/-- Reads a change of password. -/
def passwordChange : Json.Reader PasswordChange :=
  .record "ChangePasswordRequest"
    [ { key := "staffId", mayLack := false, mayEnd := false
        read := fun body => do return { body with staffId := ← .int64 } },
      { key := "oldPassword", mayLack := true, mayEnd := true
        read := fun body => do
          return { body with oldPassword := ← .optional (.string "a string") } },
      { key := "newPassword", mayLack := false, mayEnd := false
        read := fun body => do return { body with newPassword := ← .string "a string" } } ]
    ⟨0, none, ""⟩

/-- Reads a role. -/
def role : Json.Reader Role :=
  single "ChangeRoleRequest" "role" Role.read .stylist

/-- Reads whether a member of staff may sign in. -/
def isActive : Json.Reader Bool :=
  single "SetActiveRequest" "isActive" .boolean false

/-- Reads a batch of stores. -/
def storeIds : Json.Reader (List StoreId) :=
  single "StoreBatchRequest" "storeIds" (.list .int64) []

end Gatehouse.Http.Body
