import Gatehouse.Bytes
import Gatehouse.Text.Blank

/-!
# Requests and responses

What comes over the wire and what goes back: a request with its headers and body, and a response
with the two headers that the program decides on.
-/

namespace Gatehouse.Http

/-- A request. -/
structure Request where
  /-- The method. -/
  method : String
  /-- The target: the path, and possibly a query. -/
  target : Bytes
  /-- The headers, in order. -/
  headers : List (String × Bytes)
  /-- The body, if all of it arrives. -/
  body : Option Bytes
  /-- The address of the other side, if it is known. -/
  peer : Option String

/-- A response. -/
structure Response where
  /-- The status. -/
  status : Nat
  /-- The type of the body, if there is a body. -/
  contentType : Option String
  /-- The methods that would have been allowed, where the one used is not. -/
  allow : Option String
  /-- The body. -/
  body : Bytes

/-- A response with a status and nothing else. -/
def Response.empty (status : Nat) : Response := ⟨status, none, none, []⟩

/-- A response with a JSON body. -/
def Response.json (status : Nat) (body : Bytes) : Response :=
  ⟨status, some "application/json", none, body⟩

/-- A response with a text. -/
def Response.text (status : Nat) (text : String) : Response :=
  ⟨status, some "text/plain; charset=utf-8", none, utf8 text⟩

/-- Lower-case letters for the upper-case ones of ASCII. -/
def lowerAscii (text : String) : String :=
  String.ofList (text.toList.map Char.toLower)

/-- The first value of a header, whose name is given in lower case. -/
def Request.header? (request : Request) (name : String) : Option Bytes :=
  (request.headers.find? (fun header => lowerAscii header.1 == name)).map Prod.snd

/-- The text of a header's value, if it holds only visible ASCII characters, blanks and tabs. -/
def headerText? (value : Bytes) : Option String :=
  if value.all (fun byte => byte == 9 || (32 ≤ byte && byte < 127)) then
    some (Bytes.asciiText value)
  else none

/-- Takes blanks off both ends of the text of a header. -/
def trimmed (text : String) : String := String.ofList (Text.strip Text.isBlank text.toList)

end Gatehouse.Http
