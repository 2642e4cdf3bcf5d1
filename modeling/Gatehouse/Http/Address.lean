import Gatehouse.Text.Quoted

/-!
# Addresses of the other side

The text of the host part of a socket address: four numbers, or eight groups of which the longest
run of zeros is left out.
-/

namespace Gatehouse.Http.Address

/-- The value of a group of up to four hexadecimal digits. -/
def group? (text : List Char) : Option Nat :=
  if text.isEmpty || 4 < text.length then none
  else
    text.foldlM (fun value c =>
      if c.isDigit then some (16 * value + (c.toNat - 48))
      else if 'a' ≤ c ∧ c ≤ 'f' then some (16 * value + (c.toNat - 87))
      else if 'A' ≤ c ∧ c ≤ 'F' then some (16 * value + (c.toNat - 55))
      else none) 0

/-- The four numbers of a short address as two groups. -/
def shortGroups? (text : List Char) : Option (List Nat) := do
  let numbers ← (text.splitOn '.').mapM (fun part =>
    if part.isEmpty || 3 < part.length || !part.all Char.isDigit then none
    else some (part.foldl (fun value c => 10 * value + (c.toNat - 48)) 0))
  match numbers with
  | [a, b, c, d] => if [a, b, c, d].all (· < 256) then some [256 * a + b, 256 * c + d] else none
  | _ => none

/-- The groups between colons, the last of which may be a short address. -/
def groups? (text : List Char) : Option (List Nat) :=
  if text.isEmpty then some []
  else do
    let parts := text.splitOn ':'
    let lists ← parts.mapM (fun part =>
      if part.contains '.' then shortGroups? part else (group? part).map (fun value => [value]))
    return lists.flatten

/-- Splits a text at the first pair of colons. -/
def splitGap : List Char → List Char → Option (List Char × List Char)
  | _, [] => none
  | front, ':' :: ':' :: rest => some (front.reverse, rest)
  | front, c :: rest => splitGap (c :: front) rest

/-- The eight groups of a long address. -/
def longGroups? (text : List Char) : Option (List Nat) :=
  match splitGap [] text with
  | none => (groups? text).filter (fun groups => groups.length = 8)
  | some (front, rest) => do
    let front ← groups? front
    let rest ← groups? rest
    if front.length + rest.length < 8 then
      return front ++ List.replicate (8 - front.length - rest.length) 0 ++ rest
    else none

/-- The start and the length of the longest run of zeros; of several the first. -/
def longestZeros (groups : List Nat) : Nat × Nat :=
  let runs := (List.range groups.length).map (fun start =>
    (start, ((groups.drop start).takeWhile (· == 0)).length))
  runs.foldl (fun best run => if best.2 < run.2 then run else best) (0, 0)

/-- Groups between colons. -/
def joined (groups : List Nat) : String :=
  String.intercalate ":" (groups.map Text.hexText)

/-- The text of eight groups. -/
def longText (groups : List Nat) : String :=
  match groups with
  | [0, 0, 0, 0, 0, 0xffff, high, low] =>
    "::ffff:" ++ String.intercalate "."
      ([high / 256, high % 256, low / 256, low % 256].map toString)
  | groups =>
    let (start, count) := longestZeros groups
    if 1 < count then joined (groups.take start) ++ "::" ++ joined (groups.drop (start + count))
    else joined groups

/-- The text of the host part of a socket address. -/
def host (address : String) : String :=
  match address.toList with
  | '[' :: rest =>
    let inner := rest.takeWhile (fun c => c != ']' && c != '%')
    match longGroups? inner with
    | some groups => longText groups
    | none => String.ofList inner
  | letters => String.ofList (letters.takeWhile (· != ':'))

end Gatehouse.Http.Address
