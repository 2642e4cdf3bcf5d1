import Gatehouse.Files
import Gatehouse.Wire

/-!
# The catalog of error texts

What a client is told about each kind of failure: a stable code, a status and a message. A catalog
is a list of entries in which every kind is found: the built-in one has an entry for each
(`Catalog.covers_builtIn`), and overrides replace entries and never remove one
(`Catalog.entries_override`). Only the detail of an invalid request is passed on.
-/

namespace Gatehouse

/-- An entry of the catalog. -/
structure Descriptor where
  /-- The stable code. -/
  code : String
  /-- The status of the response. -/
  status : Nat
  /-- The message for the client. -/
  message : String
  deriving DecidableEq, Repr

namespace Descriptor

/-- The members of an entry. -/
def members : List (Json.Reader.Member Descriptor) :=
  [ { key := "code", mayLack := false, mayEnd := false
      read := fun entry => do return { entry with code := ← .string "a string" } },
    { key := "status", mayLack := false, mayEnd := false
      read := fun entry => do
        return { entry with status := (← .integer 0 65535 "u16").toNat } },
    { key := "message", mayLack := false, mayEnd := false
      read := fun entry => do return { entry with message := ← .string "a string" } } ]

/-- Reads an entry. -/
def read : Json.Reader Descriptor := .record "ErrorDescriptor" members ⟨"", 0, ""⟩

/-- Writes an entry. -/
def write (entry : Descriptor) : Bytes :=
  Json.Write.object
    [ ("code", Json.Write.string entry.code),
      ("status", Json.Write.integer entry.status),
      ("message", Json.Write.string entry.message) ]

end Descriptor

/-- A catalog: entries for kinds of failure, in which every kind is found. -/
structure Catalog where
  /-- The entries, of which the first one for a kind counts. -/
  entries : List (ErrorKind × Descriptor)
  /-- Every kind has an entry. -/
  covers : ∀ kind, (entries.lookup kind).isSome = true

namespace Catalog

/-- The entry of a kind. -/
def describe (catalog : Catalog) (kind : ErrorKind) : Descriptor :=
  (catalog.entries.lookup kind).get (catalog.covers kind)

instance : CoeFun Catalog (fun _ => ErrorKind → Descriptor) := ⟨describe⟩

/-- The entry of a kind is the one that is found for it. -/
theorem lookup_entries (catalog : Catalog) (kind : ErrorKind) :
    catalog.entries.lookup kind = some (catalog kind) :=
  (Option.some_get (catalog.covers kind)).symm

/-- The entries of the built-in catalog. -/
def builtIn : List (ErrorKind × Descriptor) :=
  [ (.invalidCredentials, ⟨"AUTH_INVALID_CREDENTIALS", 401, "invalid username or password"⟩),
    (.unauthenticated, ⟨"AUTH_UNAUTHENTICATED", 401, "authentication required"⟩),
    (.tokenInvalid, ⟨"AUTH_TOKEN_INVALID", 401, "access token is invalid"⟩),
    (.tokenExpired, ⟨"AUTH_TOKEN_EXPIRED", 401, "access token has expired"⟩),
    (.tokenMalformed, ⟨"AUTH_TOKEN_MALFORMED", 401, "access token is malformed"⟩),
    (.refreshTokenInvalid,
      ⟨"AUTH_REFRESH_TOKEN_INVALID", 401, "refresh token is invalid or expired"⟩),
    (.permissionDenied, ⟨"AUTH_PERMISSION_DENIED", 403, "permission denied"⟩),
    (.principalNotFound, ⟨"AUTH_PRINCIPAL_NOT_FOUND", 404, "account not found"⟩),
    (.invalidRequest, ⟨"REQUEST_INVALID", 400, "invalid request"⟩),
    (.storageError, ⟨"SYS_STORAGE_ERROR", 500, "storage unavailable"⟩),
    (.internalError, ⟨"SYS_INTERNAL_ERROR", 500, "internal server error"⟩) ]

/-- Every kind is found among the built-in entries. -/
theorem covers_builtIn (kind : ErrorKind) : (builtIn.lookup kind).isSome = true := by
  have hall : ∀ kind ∈ ErrorKind.all, (builtIn.lookup kind).isSome = true := by decide
  exact hall kind kind.mem_all

/-- The built-in catalog. -/
def standard : Catalog := ⟨builtIn, covers_builtIn⟩

/-- Every kind is still found behind a further entry. -/
theorem covers_cons {entries : List (ErrorKind × Descriptor)}
    (h : ∀ kind, (entries.lookup kind).isSome = true) (entry : ErrorKind × Descriptor)
    (kind : ErrorKind) : ((entry :: entries).lookup kind).isSome = true := by
  rw [List.lookup_cons]
  split
  · rfl
  · exact h kind

/-- Replaces the entry of one kind: the new one is found first. -/
def set (catalog : Catalog) (kind : ErrorKind) (entry : Descriptor) : Catalog :=
  ⟨(kind, entry) :: catalog.entries, covers_cons catalog.covers (kind, entry)⟩

/-- Replaces entries one after another, so that the last one for a kind counts. -/
def override (catalog : Catalog) (entries : List (ErrorKind × Descriptor)) : Catalog :=
  entries.foldl (fun catalog (kind, entry) => catalog.set kind entry) catalog

/-- Overrides stand before the entries that they replace, the last one first. -/
theorem entries_override (catalog : Catalog) (overrides : List (ErrorKind × Descriptor)) :
    (catalog.override overrides).entries = overrides.reverse ++ catalog.entries := by
  -- over the overrides: each one comes before what there was until then
  induction overrides generalizing catalog with
  | nil => rfl
  | cons entry overrides ih =>
    rw [List.reverse_cons, List.append_assoc]
    exact ih (catalog.set entry.1 entry.2)

/-- The built-in catalog with the overrides of a JSON object, whose keys are kinds. -/
def ofJson (text : Bytes) : Except Json.Problem Catalog :=
  match (Json.Reader.entryList ErrorKind.read Descriptor.read).document text with
  | .ok entries => .ok (standard.override entries)
  | .error problem => .error problem

end Catalog

/-- Why a catalog cannot be loaded. -/
inductive CatalogError where
  /-- The file cannot be read. -/
  | unreadable (path : String) (fault : FileFault)
  /-- The file does not hold overrides. -/
  | invalid (problem : Json.Problem)

/-- The text of a catalog's failure. -/
def CatalogError.message : CatalogError → String
  | unreadable path fault => "failed to read error catalog " ++ path ++ ": " ++ fault.message
  | invalid problem => "invalid error catalog: " ++ problem.message

namespace Catalog

/-- Loads the overrides in a file, given what reading it gives. -/
def load (path : String) (content : FileContent) : Except CatalogError Catalog :=
  match content with
  | .error fault => .error (.unreadable path fault)
  | .ok text =>
    match ofJson (utf8 text) with
    | .ok catalog => .ok catalog
    | .error problem => .error (.invalid problem)

end Catalog

/-- What a client gets to see of a failure. -/
structure Rendered where
  /-- The status of the response. -/
  status : Nat
  /-- The stable code. -/
  code : String
  /-- The message. -/
  message : String
  deriving DecidableEq, Repr

namespace Catalog

/-- What a client gets to see of a failure. The detail of an invalid request follows the message of
its entry. -/
def render (catalog : Catalog) (error : AuthError) : Rendered :=
  let entry := catalog error.kind
  let message :=
    match error with
    | .invalidRequest detail => entry.message ++ ": " ++ detail
    | _ => entry.message
  ⟨entry.status, entry.code, message⟩

/-- The status that is sent: statuses outside three digits are sent as 500. -/
def sentStatus (status : Nat) : Nat :=
  if 100 ≤ status ∧ status ≤ 999 then status else 500

/-- The body of the response to a failure. -/
def errorBody (rendered : Rendered) : Bytes :=
  Json.Write.object
    [("error", Json.Write.object
      [ ("code", Json.Write.string rendered.code),
        ("message", Json.Write.string rendered.message) ])]

end Catalog

end Gatehouse
