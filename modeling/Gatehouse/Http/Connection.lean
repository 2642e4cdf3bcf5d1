import Gatehouse.Http.Api
import Gatehouse.Http.Chunked

/-!
# Connections

What becomes of requests and responses on their way over a connection: a request is written and read
again, which takes the blanks around the values of its headers away and refuses what is not well
formed, and a response without content loses its body.
-/

namespace Gatehouse.Http

/-- The bytes of a request. The length of the body is told behind the other headers. -/
def Request.write (request : Request) : Bytes :=
  let first := utf8 request.method ++ utf8 " " ++ request.target ++ utf8 " HTTP/1.1"
  let body := request.body.getD []
  let length := ("content-length", utf8 (toString body.length))
  Head.write first (request.headers ++ [length]) ++ body

/-- The versions of the protocol that are understood, and whether a body may come in chunks. -/
def versions : List (Bytes × Bool) := [(utf8 "HTTP/1.1", true), (utf8 "HTTP/1.0", false)]

/-- Reads the method and the target in the first line of a request, and whether its version lets a
body come in chunks. -/
def requestLine? (line : Bytes) : Option (Bytes × Bytes × Bool) :=
  let method := line.takeWhile Head.isToken
  match line.drop method.length with
  | 32 :: rest =>
    let target := rest.takeWhile (fun byte => 32 < byte && byte != 127)
    match rest.drop target.length with
    | 32 :: version =>
      if method.isEmpty || target.isEmpty then none
      else (versions.lookup version).map (fun mayChunk => (method, target, mayChunk))
    | _ => none
  | _ => none

/-- The body of a request with some headers, in what follows them. A length that is told behind the
coding of the body is not looked at. -/
def requestBody (mayChunk : Bool) (headers : List (String × Bytes)) (rest : Bytes) :
    Except Head.Fault (Option Bytes) := do
  let front := headers.takeWhile (fun header => lowerAscii header.1 != "transfer-encoding")
  let length ← Head.length? (Head.values "content-length" front)
  match Head.chunked? headers with
  | none => return some (rest.take (length.getD 0))
  | some isChunked =>
    if mayChunk && isChunked then return Chunked.read? rest else throw .malformed

/-- Reads a request that comes from a peer. -/
def Request.read (peer : Option String) (input : Bytes) : Except Head.Fault Request := do
  match (Head.takeLine input).bind (fun (line, rest) =>
      (requestLine? line).map (fun found => (found, rest))) with
  | none => throw .malformed
  | some ((method, target, mayChunk), rest) =>
    let (headers, rest) ← Head.fields Head.mostFields rest
    if Target.longest < target.length then throw .targetTooLong
    if (Target.path? target).isNone then throw .malformed
    return {
      method := Bytes.asciiText method
      target, headers, peer
      body := ← requestBody mayChunk headers rest }

/-- The response to a request that cannot be read. -/
def refusal (fault : Head.Fault) : Response :=
  match fault with
  | .malformed => .empty 400
  | .targetTooLong => .empty 414
  | .tooManyFields => .empty 431

/-- A response as it is sent. A status that only announces another response cannot be sent as the
response itself, except for the one that changes the protocol. -/
def Response.sent (method : String) (response : Response) : Response :=
  if 100 ≤ response.status ∧ response.status < 200 ∧ response.status ≠ 101 then .empty 500
  else if method == "HEAD" || [101, 204, 304].contains response.status then
    { response with body := [] }
  else response

/-- Answers a request that comes over a connection from a peer. -/
def Api.converse (api : Api) (peer : String) (request : Request) : Gatehouse.Request Response :=
  match Request.read (some peer) request.write with
  | .error fault => pure (refusal fault)
  | .ok request => do return (← api.respond request).sent request.method

end Gatehouse.Http
