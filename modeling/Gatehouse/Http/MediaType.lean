import Gatehouse.Http.Head

/-!
# Media types

Which types of body are JSON: `application/json` and every `application/…+json`, with any parameters
and in any letter case.
-/

namespace Gatehouse.Http.MediaType

/-- Whether a byte may stand between quotes. -/
def isQuotable (byte : UInt8) : Bool := 31 < byte && byte != 127

/-- Reads what may follow a quoted value: blanks and the mark before the next parameter. The rest
after the mark is given, or nothing at the end. -/
def afterQuoted : Bytes → Option (Option Bytes)
  | [] => some none
  | 59 :: rest => some (some rest)
  | 32 :: rest => afterQuoted rest
  | _ :: _ => none

/-- Reads the value of a parameter and what follows it. The rest after the next mark is given, or
nothing at the end. -/
def parameterValue (input : Bytes) : Option (Option Bytes) :=
  match input with
  | 34 :: first :: quoted =>
    -- A quoted value is not empty, so a quote at its front belongs to it.
    let value := quoted.takeWhile (fun byte => isQuotable byte && byte != 34)
    match quoted.drop value.length with
    | 34 :: rest => if isQuotable first then afterQuoted rest else none
    | _ => none
  | input =>
    let value := input.takeWhile Head.isToken
    match input.drop value.length with
    | [] => some none
    | 59 :: rest => if value.isEmpty then none else some (some rest)
    | _ => none

/-- Whether parameters are well formed. -/
def parametersOk : Nat → Bytes → Bool
  | 0, _ => false
  | fuel + 1, input =>
    match input with
    | [] => true
    | 32 :: rest => parametersOk fuel rest
    | input =>
      let name := input.takeWhile Head.isToken
      match input.drop name.length with
      | 61 :: rest =>
        if name.isEmpty then false
        else
          match parameterValue rest with
          | none => false
          | some none => true
          | some (some rest) => parametersOk fuel rest
      | _ => false

/-- Whether the name after the slash names JSON: its part before the last plus sign is `json`, or
its part after it. A plus sign at the front belongs to the name. -/
def isJsonName (name : Bytes) : Bool :=
  let suffix := (name.reverse.takeWhile (· != 43)).reverse
  let front := name.take (name.length - suffix.length - 1)
  if front.isEmpty then name == utf8 "json"
  else front == utf8 "json" || suffix == utf8 "json"

/-- Whether a media type is one of JSON. -/
def isJson (text : String) : Bool :=
  let input := utf8 (lowerAscii text)
  let family := input.takeWhile Head.isToken
  match input.drop family.length with
  | 47 :: rest =>
    let name := rest.takeWhile Head.isToken
    let known := family == utf8 "application" && isJsonName name
    match rest.drop name.length with
    | [] => known
    | 59 :: parameters =>
      known && !name.isEmpty && parametersOk (parameters.length + 1) parameters
    | _ => false
  | _ => false

end Gatehouse.Http.MediaType
