import Gatehouse.Json.Record
import Gatehouse.Json.Writer
import Gatehouse.Failure
import Gatehouse.Principal

/-!
# The JSON forms of roles, kinds, stores and contexts

How the values that describe a principal are read from JSON and written to it. Roles, kinds and
kinds of failure are names; a set of stores is a list of ids, written in ascending order and read
in any; a context is an object of five members.
-/

namespace Gatehouse

namespace Role

/-- Reads a role. -/
def read : Json.Reader Role :=
  .variant (all.map (fun role => (role.name, role))) name

/-- Writes a role. -/
def write (role : Role) : Bytes := Json.Write.string role.name

end Role

namespace PrincipalKind

/-- Reads a kind of principal. -/
def read : Json.Reader PrincipalKind :=
  .variant (all.map (fun kind => (kind.name, kind))) name

/-- Writes a kind of principal. -/
def write (kind : PrincipalKind) : Bytes := Json.Write.string kind.name

end PrincipalKind

namespace ErrorKind

/-- Reads a kind of failure. -/
def read : Json.Reader ErrorKind :=
  .variant (all.map (fun kind => (kind.name, kind))) name

/-- Writes a kind of failure. -/
def write (kind : ErrorKind) : Bytes := Json.Write.string kind.name

end ErrorKind

namespace StoreSet

/-- Reads a set of stores. -/
def read : Json.Reader StoreSet := ofList <$> .list .int64

/-- Writes a set of stores. -/
def write (stores : StoreSet) : Bytes :=
  Json.Write.list (stores.ids.map (fun id => Json.Write.integer id.toInt))

end StoreSet

namespace Context

/-- The context from which reading one starts. -/
def blank : Context := ⟨0, .staff, "", none, .empty⟩

/-- The members of a context. -/
def members : List (Json.Reader.Member Context) :=
  [ { key := "principalId", mayLack := false, mayEnd := false
      read := fun context => do return { context with principalId := ← .int64 } },
    { key := "kind", mayLack := false, mayEnd := false
      read := fun context => do return { context with kind := ← PrincipalKind.read } },
    { key := "username", mayLack := false, mayEnd := false
      read := fun context => do return { context with username := ← .string "a string" } },
    { key := "role", mayLack := true, mayEnd := false
      read := fun context => do return { context with role := ← .optional Role.read } },
    { key := "storeList", mayLack := false, mayEnd := false
      read := fun context => do return { context with stores := ← StoreSet.read } } ]

/-- Reads a context. -/
def read : Json.Reader Context := .record "AuthorizationContext" members blank

/-- Writes a context. -/
def write (context : Context) : Bytes :=
  Json.Write.object
    [ ("principalId", Json.Write.integer context.principalId.toInt),
      ("kind", context.kind.write),
      ("username", Json.Write.string context.username),
      ("role", Json.Write.optional Role.write context.role),
      ("storeList", context.stores.write) ]

end Context

end Gatehouse
