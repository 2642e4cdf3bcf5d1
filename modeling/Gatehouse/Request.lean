import Gatehouse.Directory
import Gatehouse.KeyValue
import Gatehouse.PasswordHash
import Gatehouse.Program
import Gatehouse.Session
import Gatehouse.Token.Issuer

/-!
# Requests

The calls that the service makes while it works on a request: to the three stores, and to what else
lies outside it, which are the clock, chance, the password hasher and the identity provider. A
request is a program over these calls; an action is a request that may fail.
-/

namespace Gatehouse

/-- A call to one of the stores. -/
inductive StoreCall where
  /-- A call to the shared entries. -/
  | keyValue (call : KeyValue.Call)
  /-- A call to the refresh sessions. -/
  | session (call : Session.Call)
  /-- A call to the directory. -/
  | directory (call : Directory.Call)
  deriving DecidableEq

/-- What a call to a store gives when it succeeds. -/
def StoreCall.Value : StoreCall → Type
  | keyValue call => call.Value
  | session call => call.Value
  | directory call => call.Value

/-- A call to what lies outside the service and its stores. -/
inductive OutsideCall where
  /-- The time of the calendar. -/
  | now
  /-- Lets time pass. -/
  | pause (duration : Duration)
  /-- Sixteen random bytes for the name of an access token. -/
  | tokenEntropy
  /-- Thirty-two random bytes for a refresh token. -/
  | refreshEntropy
  /-- Makes a stored hash of a password. -/
  | hashPassword (password : String)
  /-- Checks a password against a stored hash. -/
  | checkPassword (password stored : String)
  /-- Has the identity provider verify a token of its own. -/
  | verifyIdentity (token : String)
  deriving DecidableEq

/-- What a call to the outside gives. -/
def OutsideCall.Reply : OutsideCall → Type
  | now => Timestamp
  | pause _ => Unit
  | tokenEntropy => Token.Entropy
  | refreshEntropy => Bytes
  | hashPassword _ => Except String String
  | checkPassword _ _ => Bool
  | verifyIdentity _ => Except AuthError Directory.Identity

/-- The stores: every call may fail. -/
def stores : Interface where
  Call := StoreCall
  Reply call := Except StorageError call.Value

/-- A call that a request makes. -/
inductive RequestCall where
  /-- A call to one of the stores. -/
  | store (call : StoreCall)
  /-- A call to the outside. -/
  | outside (call : OutsideCall)
  deriving DecidableEq

/-- What a call that a request makes gives. -/
def RequestCall.Reply : RequestCall → Type
  | store call => Except StorageError call.Value
  | outside call => call.Reply

/-- All that a request can ask. -/
def requests : Interface where
  Call := RequestCall
  Reply := RequestCall.Reply

/-- A request: a program over the stores and the outside. -/
abbrev Request (α : Type) : Type := Program requests α

/-- A request that may fail. -/
abbrev Action (α : Type) : Type := ExceptT AuthError (Program requests) α

namespace Request

/-- Calls the shared entries. -/
def keyValue (call : KeyValue.Call) : Request (Except StorageError call.Value) :=
  Program.call (I := requests) (.store (.keyValue call))

/-- Calls the refresh sessions. -/
def session (call : Session.Call) : Request (Except StorageError call.Value) :=
  Program.call (I := requests) (.store (.session call))

/-- Calls the directory. -/
def directory (call : Directory.Call) : Request (Except StorageError call.Value) :=
  Program.call (I := requests) (.store (.directory call))

/-- Calls the outside. -/
def outside (call : OutsideCall) : Request call.Reply :=
  Program.call (I := requests) (.outside call)

end Request

namespace Action

variable {α : Type}

/-- The request behind an action. -/
def request (action : Action α) : Request (Except AuthError α) := action.run

/-- An action from a request with an outcome, whose failure becomes the action's. -/
def ofRequest {ε : Type} (failure : ε → AuthError) (request : Request (Except ε α)) : Action α :=
  ExceptT.mk (do
    match ← request with
    | .ok value => pure (.ok value)
    | .error error => pure (.error (failure error)))

/-- A request that cannot fail. -/
def always (request : Request α) : Action α :=
  ExceptT.mk (do return .ok (← request))

/-- Calls a session store; its failure fails the action. -/
def session (call : Session.Call) : Action call.Value :=
  ofRequest .storage (Request.session call)

/-- Calls the directory; its failure fails the action. -/
def directory (call : Directory.Call) : Action call.Value :=
  ofRequest .storage (Request.directory call)

/-- Calls the outside. -/
def outside (call : OutsideCall) : Action call.Reply :=
  always (Request.outside call)

/-- Changes the failure of an action. -/
def mapFailure (change : AuthError → AuthError) (action : Action α) : Action α :=
  ofRequest change action.request

/-- Goes on if there is a value, and fails otherwise. -/
def require (error : AuthError) : Option α → Action α
  | some value => pure value
  | none => throw error

end Action

end Gatehouse
