import SessionAuth.Text.Utf8

/-!
# BLAKE2b

The hash function BLAKE2b without a key, for digests of one to sixty-four bytes. Words are read and
written least significant byte first.
-/

namespace SessionAuth.Digest.Blake2b

/-- Rotates a word to the right. -/
def rotate (x : UInt64) (distance : UInt64) : UInt64 :=
  (x >>> distance) ||| (x <<< (64 - distance))

/-- The initial value, shared with SHA-512. -/
def initialValue : Vector UInt64 8 :=
  #v[0x6a09e667f3bcc908, 0xbb67ae8584caa73b, 0x3c6ef372fe94f82b, 0xa54ff53a5f1d36f1,
     0x510e527fade682d1, 0x9b05688c2b3e6c1f, 0x1f83d9abfb41bd6b, 0x5be0cd19137e2179]

/-- The order in which each round takes the words of a block. -/
def permutations : List (Vector (Fin 16) 16) :=
  [#v[0, 1, 2, 3, 4, 5, 6, 7, 8, 9, 10, 11, 12, 13, 14, 15],
   #v[14, 10, 4, 8, 9, 15, 13, 6, 1, 12, 0, 2, 11, 7, 5, 3],
   #v[11, 8, 12, 0, 5, 2, 15, 13, 10, 14, 3, 6, 7, 1, 9, 4],
   #v[7, 9, 3, 1, 13, 12, 11, 14, 2, 6, 5, 10, 4, 0, 15, 8],
   #v[9, 0, 5, 7, 2, 4, 10, 15, 14, 1, 11, 12, 6, 8, 3, 13],
   #v[2, 12, 6, 10, 0, 11, 8, 3, 4, 13, 7, 5, 15, 14, 1, 9],
   #v[12, 5, 1, 15, 14, 13, 4, 10, 0, 7, 6, 3, 9, 2, 8, 11],
   #v[13, 11, 7, 14, 12, 1, 3, 9, 5, 0, 15, 4, 8, 6, 2, 10],
   #v[6, 15, 14, 9, 11, 3, 0, 8, 12, 2, 13, 7, 1, 4, 10, 5],
   #v[10, 2, 8, 4, 7, 6, 1, 5, 15, 11, 9, 14, 3, 12, 13, 0],
   #v[0, 1, 2, 3, 4, 5, 6, 7, 8, 9, 10, 11, 12, 13, 14, 15],
   #v[14, 10, 4, 8, 9, 15, 13, 6, 1, 12, 0, 2, 11, 7, 5, 3]]

/-- The four words that each of the eight mixing steps of a round works on: columns, then
diagonals. -/
def quarters : List (Fin 16 × Fin 16 × Fin 16 × Fin 16) :=
  [(0, 4, 8, 12), (1, 5, 9, 13), (2, 6, 10, 14), (3, 7, 11, 15),
   (0, 5, 10, 15), (1, 6, 11, 12), (2, 7, 8, 13), (3, 4, 9, 14)]

/-- Mixes two words of the block into four words of the state. -/
def mix (v : Vector UInt64 16) (places : Fin 16 × Fin 16 × Fin 16 × Fin 16) (x y : UInt64) :
    Vector UInt64 16 :=
  let (i, j, k, l) := places
  let a := v[i] + v[j] + x
  let d := rotate (v[l] ^^^ a) 32
  let c := v[k] + d
  let b := rotate (v[j] ^^^ c) 24
  let a := a + b + y
  let d := rotate (d ^^^ a) 16
  let c := c + d
  let b := rotate (b ^^^ c) 63
  (((v.set i a).set j b).set k c).set l d

/-- One round: eight mixing steps with the words of the block in the round's order. -/
def round (block : Vector UInt64 16) (v : Vector UInt64 16) (order : Vector (Fin 16) 16) :
    Vector UInt64 16 :=
  let steps := quarters.zip (List.finRange 8)
  steps.foldl (fun v step =>
    let n := step.2.val
    have : n < 8 := step.2.isLt
    mix v step.1 block[order[2 * n]] block[order[2 * n + 1]]) v

/-- Takes one block into the state. `total` counts the bytes up to the end of this block. -/
def compress (h : Vector UInt64 8) (block : Vector UInt64 16) (total : Nat) (isLast : Bool) :
    Vector UInt64 8 :=
  let start : Vector UInt64 16 := h ++ initialValue
  let start := start.set 12 (start[12] ^^^ UInt64.ofNat total)
  let start := start.set 13 (start[13] ^^^ UInt64.ofNat (total / UInt64.size))
  let start := if isLast then start.set 14 (~~~start[14]) else start
  let v := permutations.foldl (round block) start
  Vector.ofFn fun i => h[i] ^^^ v[i.val] ^^^ v[i.val + 8]

/-- A word from its bytes, least significant first. -/
def wordOfBytes (bytes : Bytes) : UInt64 :=
  bytes.foldr (fun b n => n <<< 8 ||| b.toUInt64) 0

/-- The bytes of a word, least significant first. -/
def bytesOfWord (x : UInt64) : Bytes :=
  (List.range 8).map fun i => (x >>> UInt64.ofNat (8 * i)).toUInt8

/-- The words of a block; missing bytes are zero. -/
def blockOfBytes (bytes : Bytes) : Vector UInt64 16 :=
  Vector.ofFn fun i => wordOfBytes ((bytes.drop (8 * i.val)).take 8)

/-- Takes the rest of a message into the state, with `count` blocks before the last one. -/
def absorb : (count : Nat) → (total : Nat) → Vector UInt64 8 → Bytes → Vector UInt64 8
  | 0, total, h, bytes => compress h (blockOfBytes bytes) (total + bytes.length) true
  | count + 1, total, h, bytes =>
    absorb count (total + 128) (compress h (blockOfBytes (bytes.take 128)) (total + 128) false)
      (bytes.drop 128)

end Blake2b

/-- The BLAKE2b digest of `size` bytes. -/
def blake2b (size : Nat) (message : Bytes) : Bytes :=
  let h := Blake2b.initialValue.set 0
    (Blake2b.initialValue[0] ^^^ 0x01010000 ^^^ UInt64.ofNat size)
  let h := Blake2b.absorb ((message.length - 1) / 128) 0 h message
  (h.toList.flatMap Blake2b.bytesOfWord).take size

end SessionAuth.Digest
