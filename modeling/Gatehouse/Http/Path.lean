import Gatehouse.Http.Message
import Gatehouse.Text.Integer

/-!
# Paths

Taking a path apart and reading a number out of it. Escapes are read only in the part that stands
for a number; an escape that is none stays as it is.
-/

namespace Gatehouse.Http.Path

/-- The parts of a path that starts with a slash. -/
def segments (path : Bytes) : Option (List Bytes) :=
  match path with
  | 47 :: rest => some (rest.splitOn 47)
  | _ => none

/-- Reads the escapes in a part of a path. -/
def unescape : Bytes → Bytes
  | 37 :: high :: low :: rest =>
    match Bytes.hexValue? high, Bytes.hexValue? low with
    | some high, some low => (16 * high + low).toUInt8 :: unescape rest
    | _, _ => 37 :: unescape (high :: low :: rest)
  | byte :: rest => byte :: unescape rest
  | [] => []

/-- Reads a signed number of 64 bits: digits after an optional sign. -/
def int64? (text : String) : Option Int64 :=
  (Text.signed 0x8000000000000000 0x7FFFFFFFFFFFFFFF text).toOption.map Int64.ofInt

/-- Reads the number in a part of a path, or says what is wrong with it. -/
def id (segment : Bytes) : Except String Int64 :=
  match Bytes.text? (unescape segment) with
  | none => .error "Invalid URL: Invalid UTF-8 in `id`"
  | some text =>
    match int64? text with
    | some id => .ok id
    | none => .error ("Invalid URL: Cannot parse `" ++ text ++ "` to a `i64`")

end Gatehouse.Http.Path
