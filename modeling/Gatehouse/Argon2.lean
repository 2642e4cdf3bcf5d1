import Gatehouse.Blake2b

/-!
# The password hash Argon2

The memory-hard hash of a password and a salt (RFC 9106): the kinds d, i and id, in the versions 16
and 19. A memory of blocks of 1024 bytes is filled, each block from the one before it and one
chosen by the kind's rule, and the last blocks are hashed.
-/

namespace Gatehouse.Argon2

/-- The kinds: by how the other block is chosen. -/
inductive Kind where
  /-- By the contents of the memory. -/
  | d
  /-- By the place in the memory alone. -/
  | i
  /-- By the place in the first half of the first pass, and by the contents after it. -/
  | id
  deriving DecidableEq, Repr

/-- The number of a kind. -/
def Kind.number : Kind → Nat
  | d => 0
  | i => 1
  | id => 2

/-- The versions: whether a later pass adds to the memory or writes over it. -/
inductive Version where
  /-- Version 16: later passes write over the memory. -/
  | sixteen
  /-- Version 19: later passes add to the memory. -/
  | nineteen
  deriving DecidableEq, Repr

/-- The number of a version. -/
def Version.number : Version → Nat
  | sixteen => 16
  | nineteen => 19

/-- Sixteen words: an eighth of a block. -/
structure Row where
  /-- Word 0. -/
  w0 : UInt64
  /-- Word 1. -/
  w1 : UInt64
  /-- Word 2. -/
  w2 : UInt64
  /-- Word 3. -/
  w3 : UInt64
  /-- Word 4. -/
  w4 : UInt64
  /-- Word 5. -/
  w5 : UInt64
  /-- Word 6. -/
  w6 : UInt64
  /-- Word 7. -/
  w7 : UInt64
  /-- Word 8. -/
  w8 : UInt64
  /-- Word 9. -/
  w9 : UInt64
  /-- Word 10. -/
  w10 : UInt64
  /-- Word 11. -/
  w11 : UInt64
  /-- Word 12. -/
  w12 : UInt64
  /-- Word 13. -/
  w13 : UInt64
  /-- Word 14. -/
  w14 : UInt64
  /-- Word 15. -/
  w15 : UInt64

/-- A block: 1024 bytes as eight rows. -/
structure Block where
  /-- Row 0. -/
  r0 : Row
  /-- Row 1. -/
  r1 : Row
  /-- Row 2. -/
  r2 : Row
  /-- Row 3. -/
  r3 : Row
  /-- Row 4. -/
  r4 : Row
  /-- Row 5. -/
  r5 : Row
  /-- Row 6. -/
  r6 : Row
  /-- Row 7. -/
  r7 : Row

/-- The sum of two rows. -/
def Row.xor (x y : Row) : Row :=
    ⟨x.w0 ^^^ y.w0, x.w1 ^^^ y.w1, x.w2 ^^^ y.w2, x.w3 ^^^ y.w3, x.w4 ^^^ y.w4, x.w5 ^^^ y.w5, x.w6
    ^^^ y.w6, x.w7 ^^^ y.w7, x.w8 ^^^ y.w8, x.w9 ^^^ y.w9, x.w10 ^^^ y.w10, x.w11 ^^^ y.w11, x.w12
    ^^^ y.w12, x.w13 ^^^ y.w13, x.w14 ^^^ y.w14, x.w15 ^^^ y.w15⟩

/-- The row of zeros. -/
def Row.zero : Row := ⟨0, 0, 0, 0, 0, 0, 0, 0, 0, 0, 0, 0, 0, 0, 0, 0⟩

/-- The block of zeros. -/
def Block.zero : Block := ⟨.zero, .zero, .zero, .zero, .zero, .zero, .zero, .zero⟩

/-- The sum of two blocks. -/
def Block.xor (x y : Block) : Block :=
  ⟨x.r0.xor y.r0, x.r1.xor y.r1, x.r2.xor y.r2, x.r3.xor y.r3,
    x.r4.xor y.r4, x.r5.xor y.r5, x.r6.xor y.r6, x.r7.xor y.r7⟩

/-- Four words that are mixed together. -/
structure Quad where
  /-- The first word. -/
  a : UInt64
  /-- The second word. -/
  b : UInt64
  /-- The third word. -/
  c : UInt64
  /-- The fourth word. -/
  d : UInt64

/-- The sum of two words and twice the product of their lower halves. -/
@[inline]
def blend (x y : UInt64) : UInt64 :=
  x + y + 2 * (x &&& 0xffffffff) * (y &&& 0xffffffff)

/-- Mixes four words. -/
@[inline]
def mix (q : Quad) : Quad :=
  let a := blend q.a q.b
  let d := Blake2b.rotate (q.d ^^^ a) 32
  let c := blend q.c d
  let b := Blake2b.rotate (q.b ^^^ c) 24
  let a := blend a b
  let d := Blake2b.rotate (d ^^^ a) 16
  let c := blend c d
  let b := Blake2b.rotate (b ^^^ c) 63
  ⟨a, b, c, d⟩

/-- Mixes the sixteen words of a row: four columns, then four diagonals. -/
def Row.mix (row : Row) : Row :=
  let ⟨w0, w1, w2, w3, w4, w5, w6, w7, w8, w9, w10, w11, w12, w13, w14, w15⟩ := row
  let ⟨w0, w4, w8, w12⟩ := Argon2.mix ⟨w0, w4, w8, w12⟩
  let ⟨w1, w5, w9, w13⟩ := Argon2.mix ⟨w1, w5, w9, w13⟩
  let ⟨w2, w6, w10, w14⟩ := Argon2.mix ⟨w2, w6, w10, w14⟩
  let ⟨w3, w7, w11, w15⟩ := Argon2.mix ⟨w3, w7, w11, w15⟩
  let ⟨w0, w5, w10, w15⟩ := Argon2.mix ⟨w0, w5, w10, w15⟩
  let ⟨w1, w6, w11, w12⟩ := Argon2.mix ⟨w1, w6, w11, w12⟩
  let ⟨w2, w7, w8, w13⟩ := Argon2.mix ⟨w2, w7, w8, w13⟩
  let ⟨w3, w4, w9, w14⟩ := Argon2.mix ⟨w3, w4, w9, w14⟩
  ⟨w0, w1, w2, w3, w4, w5, w6, w7, w8, w9, w10, w11, w12, w13, w14, w15⟩

/-- The block whose rows are the columns of pairs of words of a block. -/
def Block.columns (b : Block) : Block :=
  ⟨⟨b.r0.w0, b.r0.w1, b.r1.w0, b.r1.w1, b.r2.w0, b.r2.w1, b.r3.w0, b.r3.w1, b.r4.w0, b.r4.w1,
      b.r5.w0, b.r5.w1, b.r6.w0, b.r6.w1, b.r7.w0, b.r7.w1⟩,
    ⟨b.r0.w2, b.r0.w3, b.r1.w2, b.r1.w3, b.r2.w2, b.r2.w3, b.r3.w2, b.r3.w3, b.r4.w2, b.r4.w3,
      b.r5.w2, b.r5.w3, b.r6.w2, b.r6.w3, b.r7.w2, b.r7.w3⟩,
    ⟨b.r0.w4, b.r0.w5, b.r1.w4, b.r1.w5, b.r2.w4, b.r2.w5, b.r3.w4, b.r3.w5, b.r4.w4, b.r4.w5,
      b.r5.w4, b.r5.w5, b.r6.w4, b.r6.w5, b.r7.w4, b.r7.w5⟩,
    ⟨b.r0.w6, b.r0.w7, b.r1.w6, b.r1.w7, b.r2.w6, b.r2.w7, b.r3.w6, b.r3.w7, b.r4.w6, b.r4.w7,
      b.r5.w6, b.r5.w7, b.r6.w6, b.r6.w7, b.r7.w6, b.r7.w7⟩,
    ⟨b.r0.w8, b.r0.w9, b.r1.w8, b.r1.w9, b.r2.w8, b.r2.w9, b.r3.w8, b.r3.w9, b.r4.w8, b.r4.w9,
      b.r5.w8, b.r5.w9, b.r6.w8, b.r6.w9, b.r7.w8, b.r7.w9⟩,
    ⟨b.r0.w10, b.r0.w11, b.r1.w10, b.r1.w11, b.r2.w10, b.r2.w11, b.r3.w10, b.r3.w11, b.r4.w10,
      b.r4.w11, b.r5.w10, b.r5.w11, b.r6.w10, b.r6.w11, b.r7.w10, b.r7.w11⟩,
    ⟨b.r0.w12, b.r0.w13, b.r1.w12, b.r1.w13, b.r2.w12, b.r2.w13, b.r3.w12, b.r3.w13, b.r4.w12,
      b.r4.w13, b.r5.w12, b.r5.w13, b.r6.w12, b.r6.w13, b.r7.w12, b.r7.w13⟩,
    ⟨b.r0.w14, b.r0.w15, b.r1.w14, b.r1.w15, b.r2.w14, b.r2.w15, b.r3.w14, b.r3.w15, b.r4.w14,
      b.r4.w15, b.r5.w14, b.r5.w15, b.r6.w14, b.r6.w15, b.r7.w14, b.r7.w15⟩⟩

/-- Mixes every row of a block. -/
def Block.mixRows (b : Block) : Block :=
  ⟨b.r0.mix, b.r1.mix, b.r2.mix, b.r3.mix, b.r4.mix, b.r5.mix, b.r6.mix, b.r7.mix⟩

/-- Compresses two blocks into one. -/
def compress (x y : Block) : Block :=
  let sum := x.xor y
  sum.mixRows.columns.mixRows.columns.xor sum

/-- The words of a row. -/
def Row.toList (row : Row) : List UInt64 :=
  [row.w0, row.w1, row.w2, row.w3, row.w4, row.w5, row.w6, row.w7,
    row.w8, row.w9, row.w10, row.w11, row.w12, row.w13, row.w14, row.w15]

/-- The words of a block. -/
def Block.toList (b : Block) : List UInt64 :=
  [b.r0, b.r1, b.r2, b.r3, b.r4, b.r5, b.r6, b.r7].flatMap Row.toList

/-- The row of the sixteen words from a place on. -/
def Row.ofWords (words : Array UInt64) (start : Nat) : Row :=
  let w (i : Nat) := words.getD (start + i) 0
  ⟨w 0, w 1, w 2, w 3, w 4, w 5, w 6, w 7, w 8, w 9, w 10, w 11, w 12, w 13, w 14, w 15⟩

/-- The block of 128 words. -/
def Block.ofWords (words : Array UInt64) : Block :=
  ⟨.ofWords words 0, .ofWords words 16, .ofWords words 32, .ofWords words 48,
    .ofWords words 64, .ofWords words 80, .ofWords words 96, .ofWords words 112⟩

/-- The costs of a hash. -/
structure Cost where
  /-- The memory in KiB. -/
  memory : Nat
  /-- The number of passes. -/
  passes : Nat
  /-- The number of lanes. -/
  lanes : Nat
  deriving DecidableEq, Repr

/-- Everything besides the password that decides a hash. -/
structure Parameters where
  /-- The kind. -/
  kind : Kind
  /-- The version. -/
  version : Version
  /-- The costs. -/
  cost : Cost
  /-- Data that is hashed along. -/
  data : Bytes
  /-- The length of the hash in bytes. -/
  length : Nat

/-- The four little-endian bytes of a number below 2³². -/
def numberBytes (value : Nat) : Bytes :=
  [value.toUInt8, (value >>> 8).toUInt8, (value >>> 16).toUInt8, (value >>> 24).toUInt8]

/-- A byte string after its length. -/
def sized (bytes : Bytes) : Bytes := numberBytes bytes.length ++ bytes

/-- The chain of digests of which a long hash takes the first half each. -/
def longTail : Nat → Nat → Bytes → Bytes
  | 0, length, digest => Blake2b.hash length digest
  | count + 1, length, digest =>
    let next := Blake2b.hash 64 digest
    next.take 32 ++ longTail count (length - 32) next

/-- A hash of any length. -/
def longHash (length : Nat) (message : Bytes) : Bytes :=
  let input := numberBytes length ++ message
  if length ≤ 64 then Blake2b.hash length input
  else
    let first := Blake2b.hash 64 input
    let count := (length + 31) / 32 - 2
    first.take 32 ++ longTail (count - 1) (length - 32) first

/-- The digest of all the inputs. -/
def seed (p : Parameters) (password salt : Bytes) : Bytes :=
  Blake2b.hash 64
    (numberBytes p.cost.lanes ++ numberBytes p.length ++ numberBytes p.cost.memory ++
      numberBytes p.cost.passes ++ numberBytes p.version.number ++ numberBytes p.kind.number ++
      sized password ++ sized salt ++ sized [] ++ sized p.data)

/-- The shape of the memory: lanes of four segments each. -/
structure Shape where
  /-- The number of lanes. -/
  lanes : Nat
  /-- The number of blocks of a segment. -/
  segment : Nat

/-- The number of blocks of a lane. -/
def Shape.lane (shape : Shape) : Nat := 4 * shape.segment

/-- The shape that a cost asks for. -/
def Cost.shape (cost : Cost) : Shape := ⟨cost.lanes, cost.memory / (4 * cost.lanes)⟩

/-- A place on the way through the memory. -/
structure Place where
  /-- The pass. -/
  pass : Nat
  /-- The segment of the lane. -/
  slice : Nat
  /-- The lane. -/
  lane : Nat

/-- Whether the other block is chosen by the place alone. -/
def byPlace (kind : Kind) (place : Place) : Bool :=
  match kind with
  | .d => false
  | .i => true
  | .id => place.pass == 0 && place.slice < 2

/-- The pseudo-random words of the `counter`-th 128 blocks of a segment. -/
def addresses (p : Parameters) (shape : Shape) (place : Place) (counter : Nat) : Array UInt64 :=
  let input : Row :=
    { Row.zero with
      w0 := place.pass.toUInt64, w1 := place.lane.toUInt64, w2 := place.slice.toUInt64,
      w3 := (shape.lanes * shape.lane).toUInt64, w4 := p.cost.passes.toUInt64,
      w5 := p.kind.number.toUInt64, w6 := counter.toUInt64 }
  (compress .zero (compress .zero { Block.zero with r0 := input })).toList.toArray

/-- The place in the memory of the other block, chosen by a pseudo-random word for the block
`index` of a segment. -/
def otherBlock (shape : Shape) (place : Place) (index : Nat) (word : UInt64) : Nat :=
  let low := word.toNat % 0x100000000
  let high := word.toNat / 0x100000000
  let lane := if place.pass = 0 ∧ place.slice = 0 then place.lane else high % shape.lanes
  let done := if place.pass = 0 then place.slice * shape.segment else shape.lane - shape.segment
  let area :=
    if lane = place.lane then done + index - 1
    else if index = 0 then done - 1
    else done
  -- Squaring favours blocks that were filled lately.
  let distance := (area * (low * low / 0x100000000)) / 0x100000000
  let start := if place.pass = 0 ∨ place.slice = 3 then 0 else (place.slice + 1) * shape.segment
  lane * shape.lane + (start + (area - 1 - distance)) % shape.lane

/-- Fills the block `index` of a segment. -/
def fillBlock (p : Parameters) (shape : Shape) (place : Place) (table : Array UInt64)
    (memory : Array Block) (index : Nat) : Array Block :=
  let column := place.slice * shape.segment + index
  let base := place.lane * shape.lane
  let before := if column = 0 then base + shape.lane - 1 else base + column - 1
  let previous := memory.getD before .zero
  let word := if byPlace p.kind place then table.getD (index % 128) 0 else previous.r0.w0
  let other := memory.getD (otherBlock shape place index word) .zero
  let block := compress previous other
  -- From the second pass on, the later version adds to what is there instead of replacing it.
  let block :=
    if place.pass ≠ 0 ∧ p.version = .nineteen then block.xor (memory.getD (base + column) .zero)
    else block
  memory.setIfInBounds (base + column) block

/-- Fills the rest of a segment from the block `index` on. -/
def fillFrom (p : Parameters) (shape : Shape) (place : Place) :
    Nat → Nat → Array UInt64 → Array Block → Array Block
  | 0, _, _, memory => memory
  | count + 1, index, table, memory =>
    let table :=
      if byPlace p.kind place && index % 128 = 0 then addresses p shape place (index / 128 + 1)
      else table
    fillFrom p shape place count (index + 1) table
      (fillBlock p shape place table memory index)

/-- Fills a segment. The first two blocks of a lane are there from the start. -/
def fillSegment (p : Parameters) (shape : Shape) (memory : Array Block) (place : Place) :
    Array Block :=
  let first := if place.pass = 0 ∧ place.slice = 0 then 2 else 0
  let table := if byPlace p.kind place then addresses p shape place 1 else #[]
  fillFrom p shape place (shape.segment - first) first table memory

/-- The segments in the order in which they are filled. -/
def places (p : Parameters) : List Place :=
  (List.range p.cost.passes).flatMap (fun pass =>
    (List.range 4).flatMap (fun slice =>
      (List.range p.cost.lanes).map (fun lane => ⟨pass, slice, lane⟩)))

/-- The memory before the first pass: two blocks in every lane. -/
def start (shape : Shape) (digest : Bytes) : Array Block :=
  let memory := Array.replicate (shape.lanes * shape.lane) Block.zero
  (List.range shape.lanes).foldl (fun memory lane =>
    let block (column : Nat) :=
      Block.ofWords
        (Blake2b.words (longHash 1024 (digest ++ numberBytes column ++ numberBytes lane))).toArray
    (memory.setIfInBounds (lane * shape.lane) (block 0)).setIfInBounds (lane * shape.lane + 1)
      (block 1)) memory

/-- The hash of a password and a salt. -/
def hash (p : Parameters) (password salt : Bytes) : Bytes :=
  let shape := p.cost.shape
  let memory := start shape (seed p password salt)
  let memory := (places p).foldl (fillSegment p shape) memory
  let last := (List.range shape.lanes).foldl (fun sum lane =>
    sum.xor (memory.getD (lane * shape.lane + shape.lane - 1) .zero)) Block.zero
  longHash p.length (last.toList.flatMap Blake2b.wordBytes)

/-- Why a cost is refused. -/
inductive CostError where
  /-- There is too little memory, altogether or for the lanes. -/
  | memoryTooSmall
  /-- There is no pass. -/
  | timeTooSmall
  /-- There is no lane. -/
  | threadsTooFew
  /-- There are too many lanes. -/
  | threadsTooMany
  deriving DecidableEq, Repr

/-- The text of a refusal. -/
def CostError.message : CostError → String
  | memoryTooSmall => "memory cost is too small"
  | timeTooSmall => "time cost is too small"
  | threadsTooFew => "not enough threads"
  | threadsTooMany => "too many threads"

/-- Checks a cost: at least eight blocks for every lane, at least one pass and one lane. -/
def Cost.check (cost : Cost) : Except CostError Unit :=
  if cost.memory < 8 ∨ cost.memory < 8 * cost.lanes then .error .memoryTooSmall
  else if cost.passes < 1 then .error .timeTooSmall
  else if cost.lanes < 1 then .error .threadsTooFew
  else if 0x1000000 ≤ cost.lanes then .error .threadsTooMany
  else .ok ()

end Gatehouse.Argon2
