import Gatehouse.Directory
import Gatehouse.Failure
import Gatehouse.Http.Chunked
import Gatehouse.Http.Form
import Gatehouse.Json.Record
import Gatehouse.Text.Cut

/-!
# The identity provider

How a customer's token of the identity provider is verified: it is sent as a form to the provider,
whose answer tells who the customer is. A token that the provider turns down is taken for wrong
credentials, and all else that goes wrong is on our side.
-/

namespace Gatehouse.Provider

/-- Where tokens are verified, and for whom. -/
structure Endpoint where
  /-- The address of the provider. -/
  url : String
  /-- Who we are to the provider. -/
  channelId : String
  deriving DecidableEq, Repr

/-- The path of an address, with its query. -/
def pathOf (url : String) : String :=
  let behindScheme := (Text.behind? "http://".toList url.toList).or
    (Text.behind? "https://".toList url.toList)
  let path := (behindScheme.getD []).dropWhile (· != '/')
  if path.isEmpty then "/" else String.ofList path

/-- The request that verifies a token. -/
def Endpoint.request (endpoint : Endpoint) (token : String) : Http.Request where
  method := "POST"
  target := utf8 (pathOf endpoint.url)
  headers := [("content-type", utf8 Http.Form.mediaType)]
  body := some (Http.Form.encode [("id_token", token), ("client_id", endpoint.channelId)])
  peer := none

/-- What the provider sends back. -/
structure Reply where
  /-- The status. -/
  status : Nat
  /-- The body, if all of it arrives. -/
  body : Option Bytes
  deriving DecidableEq, Repr

/-- The status in the first line of a reply. A phrase may follow. -/
def statusOf? (line : Bytes) : Option Nat :=
  match (utf8 "HTTP/1.1 ").isPrefixOf line || (utf8 "HTTP/1.0 ").isPrefixOf line, line.drop 9 with
  | true, a :: b :: c :: phrase => do
    let status ← Http.Head.digits? [a, b, c]
    let isPhrase := phrase.isEmpty || phrase.head? == some 32 && phrase.all Http.Head.isValueByte
    if isPhrase && 100 ≤ status then some status else none
  | _, _ => none

/-- The body behind a head: in chunks or as long as the head tells, or else all that follows. The
older version of the protocol knows no codings of a body. -/
def bodyOf? (isOlder : Bool) (fields : List (String × Bytes)) (rest : Bytes) :
    Option (Option Bytes) :=
  match Http.Head.chunked? fields with
  | some isChunked =>
    if isOlder then none else some (if isChunked then Http.Chunked.read? rest else some rest)
  | none =>
    let told := (Http.Head.values "content-length" fields).flatMap Http.Head.listed
    match Http.Head.length? told with
    | .error _ => none
    | .ok none => some (some rest)
    | .ok (some length) => some (if rest.length < length then none else some (rest.take length))

/-- Reads the reply in what a connection gives. Statuses that only announce another are passed over,
except for the one that changes the protocol, and a reply without content has no body. -/
def Reply.read? : Nat → Bytes → Option Reply
  | 0, _ => none
  | fuel + 1, input => do
    let (line, rest) ← Http.Head.takeLine input
    if line.isEmpty then read? fuel rest
    else
      let status ← statusOf? line
      let (fields, rest) ← (Http.Head.fields Http.Head.mostFields rest).toOption
      if status = 101 || status = 204 || status = 304 then return ⟨status, some []⟩
      else if status < 200 then read? fuel rest
      else
        let isOlder := (utf8 "HTTP/1.0").isPrefixOf line
        return ⟨status, ← bodyOf? isOlder fields rest⟩

/-- The reply as it is met. Behind a status that only announces another, the other is looked for in
what was sent as the body. -/
def Reply.met? (reply : Reply) : Option Reply :=
  if reply.status = 204 then some { reply with body := some [] }
  else if reply.status = 101 ∨ 200 ≤ reply.status ∧ reply.status ≤ 999 then some reply
  else if 100 ≤ reply.status ∧ reply.status < 200 then
    reply.body.bind (fun body => Reply.read? body.length body)
  else none

/-- The phrases of the statuses that are neither a success nor the fault of the one who asks. -/
def phrases : List (Nat × String) :=
  [ (101, "Switching Protocols"),
    (300, "Multiple Choices"),
    (301, "Moved Permanently"),
    (302, "Found"),
    (303, "See Other"),
    (304, "Not Modified"),
    (305, "Use Proxy"),
    (307, "Temporary Redirect"),
    (308, "Permanent Redirect"),
    (500, "Internal Server Error"),
    (501, "Not Implemented"),
    (502, "Bad Gateway"),
    (503, "Service Unavailable"),
    (504, "Gateway Timeout"),
    (505, "HTTP Version Not Supported"),
    (506, "Variant Also Negotiates"),
    (507, "Insufficient Storage"),
    (508, "Loop Detected"),
    (510, "Not Extended"),
    (511, "Network Authentication Required") ]

/-- A status with its phrase. -/
def statusText (status : Nat) : String :=
  toString status ++ " " ++ (phrases.lookup status).getD "<unknown status code>"

/-- The identity from which reading one starts. -/
def blankIdentity : Directory.Identity := ⟨"", "", none⟩

/-- The members of an identity. A missing name is empty. -/
def members : List (Json.Reader.Member Directory.Identity) :=
  [ { key := "sub", mayLack := false, mayEnd := false
      read := fun identity => do return { identity with providerUid := ← .string "a string" } },
    { key := "name", mayLack := true, mayEnd := true
      read := fun identity => do
        let name ← .optional (.string "a string")
        return { identity with name := name.getD "" } },
    { key := "email", mayLack := true, mayEnd := true
      read := fun identity => do
        return { identity with email := ← .optional (.string "a string") } } ]

/-- Reads an identity. -/
def readIdentity : Json.Reader Directory.Identity :=
  .record "LineVerifyResponse" members blankIdentity

/-- What a reply says about the customer. -/
def Reply.identity (reply : Reply) : Except AuthError Directory.Identity :=
  if 400 ≤ reply.status ∧ reply.status ≤ 499 then .error .invalidCredentials
  else if 200 ≤ reply.status ∧ reply.status ≤ 299 then
    match reply.body.bind (fun body => (readIdentity.document body).toOption) with
    | some identity => .ok identity
    | none => .error (.internal "LINE verify response: error decoding response body")
  else .error (.internal ("LINE verify returned " ++ statusText reply.status))

/-- Verifies a token, given what the provider sends back to a request, if anything. -/
def Endpoint.verify (endpoint : Endpoint) (send : Http.Request → Option Reply) (token : String) :
    Except AuthError Directory.Identity :=
  match (send (endpoint.request token)).bind Reply.met? with
  | some reply => reply.identity
  | none =>
    .error (.internal
      ("LINE verify request failed: error sending request for url (" ++ endpoint.url ++ ")"))

end Gatehouse.Provider
