import Gatehouse.Bytes

/-!
# The hash SHA-256 and its keyed form

The 32-byte digest of a byte string (FIPS 180-4), and the authentication code of a message under a
key that is built from it (RFC 2104).
-/

namespace Gatehouse.Sha256

/-- The chaining value: eight words. -/
structure State where
  /-- The first word. -/
  a : UInt32
  /-- The second word. -/
  b : UInt32
  /-- The third word. -/
  c : UInt32
  /-- The fourth word. -/
  d : UInt32
  /-- The fifth word. -/
  e : UInt32
  /-- The sixth word. -/
  f : UInt32
  /-- The seventh word. -/
  g : UInt32
  /-- The eighth word. -/
  h : UInt32

/-- The round constants: the first bits of the cube roots of the first 64 primes. -/
def roundConstants : List UInt32 :=
  [0x428a2f98, 0x71374491, 0xb5c0fbcf, 0xe9b5dba5, 0x3956c25b, 0x59f111f1, 0x923f82a4, 0xab1c5ed5,
   0xd807aa98, 0x12835b01, 0x243185be, 0x550c7dc3, 0x72be5d74, 0x80deb1fe, 0x9bdc06a7, 0xc19bf174,
   0xe49b69c1, 0xefbe4786, 0x0fc19dc6, 0x240ca1cc, 0x2de92c6f, 0x4a7484aa, 0x5cb0a9dc, 0x76f988da,
   0x983e5152, 0xa831c66d, 0xb00327c8, 0xbf597fc7, 0xc6e00bf3, 0xd5a79147, 0x06ca6351, 0x14292967,
   0x27b70a85, 0x2e1b2138, 0x4d2c6dfc, 0x53380d13, 0x650a7354, 0x766a0abb, 0x81c2c92e, 0x92722c85,
   0xa2bfe8a1, 0xa81a664b, 0xc24b8b70, 0xc76c51a3, 0xd192e819, 0xd6990624, 0xf40e3585, 0x106aa070,
   0x19a4c116, 0x1e376c08, 0x2748774c, 0x34b0bcb5, 0x391c0cb3, 0x4ed8aa4a, 0x5b9cca4f, 0x682e6ff3,
   0x748f82ee, 0x78a5636f, 0x84c87814, 0x8cc70208, 0x90befffa, 0xa4506ceb, 0xbef9a3f7, 0xc67178f2]

/-- The first chaining value: the first bits of the square roots of the first eight primes. -/
def initial : State :=
  ⟨0x6a09e667, 0xbb67ae85, 0x3c6ef372, 0xa54ff53a, 0x510e527f, 0x9b05688c, 0x1f83d9ab, 0x5be0cd19⟩

/-- Rotates a word to the right by a number of bits between 1 and 31. -/
def rotate (word count : UInt32) : UInt32 :=
  word >>> count ||| word <<< (32 - count)

/-- One round, with the round's constant and its word of the message schedule. -/
def round (s : State) (constant word : UInt32) : State :=
  let choice := (s.e &&& s.f) ^^^ ((~~~ s.e) &&& s.g)
  let majority := (s.a &&& s.b) ^^^ (s.a &&& s.c) ^^^ (s.b &&& s.c)
  let first := s.h + (rotate s.e 6 ^^^ rotate s.e 11 ^^^ rotate s.e 25) + choice + constant + word
  let second := (rotate s.a 2 ^^^ rotate s.a 13 ^^^ rotate s.a 22) + majority
  ⟨first + second, s.a, s.b, s.c, s.d + first, s.e, s.f, s.g⟩

/-- The word sixteen places after the first word of a window of the message schedule. -/
def nextWord (window : List UInt32) : UInt32 :=
  let word (i : Nat) := window.getD i 0
  let w1 := word 1
  let w14 := word 14
  (rotate w14 17 ^^^ rotate w14 19 ^^^ w14 >>> 10) + word 9 +
    (rotate w1 7 ^^^ rotate w1 18 ^^^ w1 >>> 3) + word 0

/-- Runs the rounds that are left, over a window of sixteen words of the message schedule. -/
def rounds : List UInt32 → List UInt32 → State → State
  | [], _, state => state
  | _ :: _, [], state => state
  | constant :: constants, word :: window, state =>
    rounds constants (window ++ [nextWord (word :: window)]) (round state constant word)

/-- The big-endian words of a byte string of whole words. -/
def words : Bytes → List UInt32
  | a :: b :: c :: d :: rest =>
    (a.toUInt32 <<< 24 ||| b.toUInt32 <<< 16 ||| c.toUInt32 <<< 8 ||| d.toUInt32) :: words rest
  | _ => []

/-- Takes one block of 64 bytes into the chaining value. -/
def compress (s : State) (block : Bytes) : State :=
  let t := rounds roundConstants (words block) s
  ⟨s.a + t.a, s.b + t.b, s.c + t.c, s.d + t.d, s.e + t.e, s.f + t.f, s.g + t.g, s.h + t.h⟩

/-- The eight big-endian bytes of a number below 2⁶⁴. -/
def lengthBytes (value : Nat) : Bytes :=
  (List.range 8).map (fun i => (value >>> (8 * (7 - i))).toUInt8)

/-- Fills a message up to whole blocks: a one bit, zeros, and the length in bits. -/
def padded (message : Bytes) : Bytes :=
  message ++ [0x80] ++ List.replicate ((119 - message.length % 64) % 64) 0 ++
    lengthBytes (8 * message.length)

/-- Takes the first `count` blocks of 64 bytes into the chaining value. -/
def absorb : Nat → State → Bytes → State
  | 0, state, _ => state
  | count + 1, state, message =>
    absorb count (compress state (message.take 64)) (message.drop 64)

/-- The four big-endian bytes of a word. -/
def wordBytes (word : UInt32) : Bytes :=
  [(word >>> 24).toUInt8, (word >>> 16).toUInt8, (word >>> 8).toUInt8, word.toUInt8]

/-- The digest of a message: 32 bytes. -/
def hash (message : Bytes) : Bytes :=
  let input := padded message
  let s := absorb (input.length / 64) initial input
  [s.a, s.b, s.c, s.d, s.e, s.f, s.g, s.h].flatMap wordBytes

/-- The key as one block: hashed first when it is longer, and filled up with zeros. -/
def keyBlock (key : Bytes) : Bytes :=
  let key := if 64 < key.length then hash key else key
  key ++ List.replicate (64 - key.length) 0

/-- The authentication code of a message under a key: 32 bytes. -/
def mac (key message : Bytes) : Bytes :=
  let block := keyBlock key
  hash (block.map (· ^^^ 0x5c) ++ hash (block.map (· ^^^ 0x36) ++ message))

/-- A digest has 32 bytes. -/
@[simp]
theorem length_hash (message : Bytes) : (hash message).length = 32 := by
  simp [hash, wordBytes]

/-- An authentication code has 32 bytes. -/
@[simp]
theorem length_mac (key message : Bytes) : (mac key message).length = 32 := by
  simp [mac]

end Gatehouse.Sha256
