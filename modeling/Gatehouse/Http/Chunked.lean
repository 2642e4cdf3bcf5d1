import Gatehouse.Http.Head

/-!
# Bodies in chunks

A body whose length is not known when it begins is sent in chunks, each behind a line with its size;
a chunk without bytes ends them, and fields may follow.
-/

namespace Gatehouse.Http.Chunked

/-- Passes the end of a line. -/
def passEnd : Bytes → Option Bytes
  | 13 :: 10 :: rest => some rest
  | _ => none

/-- Whether a byte is a digit of a size. -/
def isDigit (byte : UInt8) : Bool := (Bytes.hexValue? byte).isSome

/-- The number that digits of base sixteen stand for. -/
def sizeOf (digits : Bytes) : Nat :=
  digits.foldl (fun size digit => 16 * size + (Bytes.hexValue? digit).getD 0) 0

/-- Takes a line with a size off the front of the input. Blanks may follow the size, and a semicolon
with anything. -/
def takeSize (input : Bytes) : Option (Nat × Bytes) :=
  let digits := input.takeWhile isDigit
  let rest := (input.drop digits.length).dropWhile Head.isBlank
  let rest :=
    if rest.head? = some 59 then rest.dropWhile (fun byte => byte != 13 && byte != 10) else rest
  if digits.isEmpty || 0x10000000000000000 ≤ sizeOf digits then none
  else (passEnd rest).map (fun rest => (sizeOf digits, rest))

/-- Reads at most `count` chunks, what ends them and the fields behind it. -/
def readChunks : Nat → Bytes → Option Bytes
  | 0, _ => none
  | count + 1, input => do
    let (size, rest) ← takeSize input
    if size = 0 then
      discard (Head.fields Head.mostFields rest).toOption
      return []
    else if rest.length < size then none
    else
      let others ← readChunks count (← passEnd (rest.drop size))
      return rest.take size ++ others

/-- Reads a body in chunks, if it is well formed. Every chunk takes a byte or more, so there are no
more chunks than bytes. -/
def read? (input : Bytes) : Option Bytes := readChunks input.length input

end Gatehouse.Http.Chunked
