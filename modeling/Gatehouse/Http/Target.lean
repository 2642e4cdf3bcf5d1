import Gatehouse.Bytes

/-!
# Targets of requests

What a request names: a path with a query, or a whole address, of which only the path matters here,
or the name of a host alone, which has no path. A fragment is never part of what is asked for.
-/

namespace Gatehouse.Http.Target

/-- The longest target, in bytes. -/
def longest : Nat := 65534

/-- The longest scheme, in bytes. -/
def longestScheme : Nat := 64

/-- Whether a byte is a letter or a digit. -/
def isAlphanumeric (byte : UInt8) : Bool :=
  (48 ≤ byte && byte ≤ 57) || (65 ≤ byte && byte ≤ 90) || (97 ≤ byte && byte ≤ 122)

/-- Whether a byte may stand in a scheme. -/
def isSchemeByte (byte : UInt8) : Bool := isAlphanumeric byte || (utf8 "+-.~").contains byte

/-- Whether a byte may stand in the part of an address that names a host. -/
def isHostByte (byte : UInt8) : Bool :=
  isAlphanumeric byte || (utf8 "!$&'()*+,-.;=_~").contains byte

/-- Whether a byte ends the part of an address that names a host. -/
def endsHost (byte : UInt8) : Bool := byte == 47 || byte == 63 || byte == 35

/-- Whether a byte may stand in a path. -/
def isPathByte (byte : UInt8) : Bool :=
  byte == 33 || byte == 34 || (36 ≤ byte && byte ≤ 59) || byte == 61 ||
    (64 ≤ byte && byte ≤ 95) || (97 ≤ byte && byte ≤ 255)

/-- Whether a byte may stand in a query. -/
def isQueryByte (byte : UInt8) : Bool :=
  byte == 33 || (36 ≤ byte && byte ≤ 59) || byte == 61 || (63 ≤ byte && byte ≤ 255)

/-- What has been seen of the part of an address that names a host. -/
structure HostState where
  /-- The number of colons that may stand before a port. -/
  colons : Nat := 0
  /-- Whether there is a bracket that opens. -/
  isOpened : Bool := false
  /-- Whether there is a bracket that closes. -/
  isClosed : Bool := false
  /-- Whether there is an escape in the name of the host. -/
  hasEscape : Bool := false
  /-- Whether the last byte was the sign behind the name of a user. -/
  isAtUser : Bool := false

namespace HostState

/-- Goes on by a byte. What stands before the name of the host is forgotten with its end. -/
def step (state : HostState) (byte : UInt8) : Option HostState :=
  let state := { state with isAtUser := false }
  if byte = 58 then
    if 8 ≤ state.colons then none else some { state with colons := state.colons + 1 }
  else if byte = 91 then
    if state.hasEscape || state.isOpened then none else some { state with isOpened := true }
  else if byte = 93 then
    if !state.isOpened || state.isClosed then none
    else some { state with isClosed := true, colons := 0, hasEscape := false }
  else if byte = 64 then some { state with colons := 0, hasEscape := false, isAtUser := true }
  else if byte = 37 then some { state with hasEscape := true }
  else if isHostByte byte then some state
  else none

/-- Whether the part may end here. -/
def mayEnd (state : HostState) : Bool :=
  state.isOpened == state.isClosed && state.colons ≤ 1 && !state.isAtUser && !state.hasEscape

end HostState

/-- Whether bytes name a host, perhaps with a user and a port. -/
def namesHost (bytes : Bytes) : Bool := (bytes.foldlM HostState.step {}).any HostState.mayEnd

/-- What stands behind the scheme of an address and its marks, if the target begins with a
scheme. -/
def behindScheme? (target : Bytes) : Option (Bytes × Bytes) :=
  let scheme := target.takeWhile isSchemeByte
  match target.drop scheme.length with
  | 58 :: 47 :: 47 :: rest =>
    if scheme.isEmpty && rest.isEmpty then none else some (scheme, rest)
  | _ => none

/-- The path before a query and a fragment, if path and query are well formed. -/
def pathBefore? (bytes : Bytes) : Option Bytes :=
  let path := bytes.takeWhile (fun byte => byte != 63 && byte != 35)
  let query := ((bytes.drop path.length).drop 1).takeWhile (· != 35)
  let hasQuery := (bytes.drop path.length).head? == some 63
  if path.all isPathByte && (!hasQuery || query.all isQueryByte) then some path else none

/-- The path of a target, if the target is well formed. A name of a host alone has an empty path; an
address without a path has the path of a slash. -/
def path? (target : Bytes) : Option Bytes :=
  if longest < target.length then none
  else
    match target with
    | [] => none
    | [42] => some [42]
    | 47 :: _ => pathBefore? target
    | target =>
      match behindScheme? target with
      | none => if !target.any endsHost && namesHost target then some [] else none
      | some (scheme, rest) =>
        let host := rest.takeWhile (fun byte => !endsHost byte)
        if longestScheme < scheme.length || host.isEmpty || !namesHost host then none
        else
          (pathBefore? (rest.drop host.length)).map (fun path =>
            if path.isEmpty then [47] else path)

end Gatehouse.Http.Target
