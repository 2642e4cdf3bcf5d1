import Gatehouse.Bytes

/-!
# The hash BLAKE2b

The digest of a byte string, of any length from 1 to 64 bytes and without a key (RFC 7693).
-/

namespace Gatehouse.Blake2b

/-- The first chaining value: the first bits of the square roots of the first eight primes. -/
def initial : Array UInt64 :=
  #[0x6a09e667f3bcc908, 0xbb67ae8584caa73b, 0x3c6ef372fe94f82b, 0xa54ff53a5f1d36f1,
    0x510e527fade682d1, 0x9b05688c2b3e6c1f, 0x1f83d9abfb41bd6b, 0x5be0cd19137e2179]

/-- The order in which each of the twelve rounds takes the words of the message. -/
def orders : List (List Nat) :=
  [ [0, 1, 2, 3, 4, 5, 6, 7, 8, 9, 10, 11, 12, 13, 14, 15],
    [14, 10, 4, 8, 9, 15, 13, 6, 1, 12, 0, 2, 11, 7, 5, 3],
    [11, 8, 12, 0, 5, 2, 15, 13, 10, 14, 3, 6, 7, 1, 9, 4],
    [7, 9, 3, 1, 13, 12, 11, 14, 2, 6, 5, 10, 4, 0, 15, 8],
    [9, 0, 5, 7, 2, 4, 10, 15, 14, 1, 11, 12, 6, 8, 3, 13],
    [2, 12, 6, 10, 0, 11, 8, 3, 4, 13, 7, 5, 15, 14, 1, 9],
    [12, 5, 1, 15, 14, 13, 4, 10, 0, 7, 6, 3, 9, 2, 8, 11],
    [13, 11, 7, 14, 12, 1, 3, 9, 5, 0, 15, 4, 8, 6, 2, 10],
    [6, 15, 14, 9, 11, 3, 0, 8, 12, 2, 13, 7, 1, 4, 10, 5],
    [10, 2, 8, 4, 7, 6, 1, 5, 15, 11, 9, 14, 3, 12, 13, 0],
    [0, 1, 2, 3, 4, 5, 6, 7, 8, 9, 10, 11, 12, 13, 14, 15],
    [14, 10, 4, 8, 9, 15, 13, 6, 1, 12, 0, 2, 11, 7, 5, 3] ]

/-- The places of the working vector that each of the eight steps of a round mixes. -/
def places : List (Nat × Nat × Nat × Nat) :=
  [ (0, 4, 8, 12), (1, 5, 9, 13), (2, 6, 10, 14), (3, 7, 11, 15),
    (0, 5, 10, 15), (1, 6, 11, 12), (2, 7, 8, 13), (3, 4, 9, 14) ]

/-- Rotates a word to the right by a number of bits between 1 and 63. -/
def rotate (word count : UInt64) : UInt64 :=
  word >>> count ||| word <<< (64 - count)

/-- Mixes four words of the working vector with two words of the message. -/
def mix (v : Array UInt64) (place : Nat × Nat × Nat × Nat) (x y : UInt64) : Array UInt64 :=
  let (ia, ib, ic, id) := place
  let a := v.getD ia 0 + v.getD ib 0 + x
  let d := rotate (v.getD id 0 ^^^ a) 32
  let c := v.getD ic 0 + d
  let b := rotate (v.getD ib 0 ^^^ c) 24
  let a := a + b + y
  let d := rotate (d ^^^ a) 16
  let c := c + d
  let b := rotate (b ^^^ c) 63
  (((v.setIfInBounds ia a).setIfInBounds ib b).setIfInBounds ic c).setIfInBounds id d

/-- One round, with the order in which it takes the words of the message. -/
def round (message v : Array UInt64) (order : List Nat) : Array UInt64 :=
  (places.zipIdx).foldl (fun v (place, step) =>
    mix v place (message.getD (order.getD (2 * step) 0) 0)
      (message.getD (order.getD (2 * step + 1) 0) 0)) v

/-- The little-endian words of a byte string of whole words. -/
def words : Bytes → List UInt64
  | a :: b :: c :: d :: e :: f :: g :: h :: rest =>
    (a.toUInt64 ||| b.toUInt64 <<< 8 ||| c.toUInt64 <<< 16 ||| d.toUInt64 <<< 24 |||
      e.toUInt64 <<< 32 ||| f.toUInt64 <<< 40 ||| g.toUInt64 <<< 48 ||| h.toUInt64 <<< 56) ::
      words rest
  | _ => []

/-- The eight little-endian bytes of a word. -/
def wordBytes (word : UInt64) : Bytes :=
  [word.toUInt8, (word >>> 8).toUInt8, (word >>> 16).toUInt8, (word >>> 24).toUInt8,
    (word >>> 32).toUInt8, (word >>> 40).toUInt8, (word >>> 48).toUInt8, (word >>> 56).toUInt8]

/-- Takes one block of 128 bytes into the chaining value; `count` bytes have been read with it. -/
def compress (h : Array UInt64) (block : Bytes) (count : Nat) (last : Bool) : Array UInt64 :=
  let message := (words block).toArray
  let v := h ++ initial
  let v := v.modify 12 (· ^^^ count.toUInt64)
  let v := v.modify 13 (· ^^^ (count >>> 64).toUInt64)
  let v := if last then v.modify 14 (fun word => ~~~ word) else v
  let v := orders.foldl (round message) v
  h.mapIdx (fun i word => word ^^^ v.getD i 0 ^^^ v.getD (i + 8) 0)

/-- Takes a message into the chaining value, block by block; the last block is filled with
zeros. -/
def absorb : Nat → Array UInt64 → Nat → Bytes → Array UInt64
  | 0, h, _, _ => h
  | fuel + 1, h, count, message =>
    if message.length ≤ 128 then
      let block := message ++ List.replicate (128 - message.length) 0
      compress h block (count + message.length) true
    else absorb fuel (compress h (message.take 128) (count + 128) false) (count + 128)
      (message.drop 128)

/-- The digest of a message, of the length asked for. -/
def hash (length : Nat) (message : Bytes) : Bytes :=
  let h := initial.modify 0 (· ^^^ (0x01010000 ^^^ length.toUInt64))
  let h := absorb (message.length / 128 + 1) h 0 message
  (h.toList.flatMap wordBytes).take length

end Gatehouse.Blake2b
