import SessionAuth.Text.Utf8

/-!
# SHA-2

The SHA-2 family over words of 32 or 64 bits. Its constants are the first bits of the fractional
parts of square and cube roots of the first primes, and are computed as such.
-/

namespace SessionAuth.Digest.Sha2

/-! ### Constants -/

/-- The first eighty primes. -/
def primes : List Nat :=
  (List.range 410).filter fun n => 2 ≤ n && (List.range n).all fun d => d < 2 || n % d != 0

/-- The greatest number below `2 ^ bits` whose power is at most `n`. -/
def floorRoot (degree n bits : Nat) : Nat :=
  (List.range bits).reverse.foldl (fun r i =>
    let s := r + Nat.pow 2 i
    if Nat.pow s degree ≤ n then s else r) 0

/-- The first `w` bits of the fractional part of a root of a prime. -/
def rootFraction (w degree prime : Nat) : BitVec w :=
  BitVec.ofNat w (floorRoot degree (prime * Nat.pow 2 (degree * w)) (w + 9))

/-! ### The compression function -/

/-- The eight working words. -/
structure State (w : Nat) where
  a : BitVec w
  b : BitVec w
  c : BitVec w
  d : BitVec w
  e : BitVec w
  f : BitVec w
  g : BitVec w
  h : BitVec w

namespace State

/-- The state with the given words. -/
def ofList {w : Nat} (words : List (BitVec w)) : State w :=
  let word := fun i => words.getD i 0
  ⟨word 0, word 1, word 2, word 3, word 4, word 5, word 6, word 7⟩

/-- The words in order. -/
def toList {w : Nat} (s : State w) : List (BitVec w) := [s.a, s.b, s.c, s.d, s.e, s.f, s.g, s.h]

/-- Adds word by word. -/
def add {w : Nat} (s t : State w) : State w := ofList (List.zipWith (· + ·) s.toList t.toList)

end State

/-- A word size with its round constants and its distances of rotation. In the small sigmas the
last distance is a shift. -/
structure Variant (w : Nat) where
  constants : List (BitVec w)
  bigSigma0 : Nat × Nat × Nat
  bigSigma1 : Nat × Nat × Nat
  smallSigma0 : Nat × Nat × Nat
  smallSigma1 : Nat × Nat × Nat

/-- Three rotations, added bit by bit. -/
def bigSigma {w : Nat} (distances : Nat × Nat × Nat) (x : BitVec w) : BitVec w :=
  x.rotateRight distances.1 ^^^ x.rotateRight distances.2.1 ^^^ x.rotateRight distances.2.2

/-- Two rotations and a shift, added bit by bit. -/
def smallSigma {w : Nat} (distances : Nat × Nat × Nat) (x : BitVec w) : BitVec w :=
  x.rotateRight distances.1 ^^^ x.rotateRight distances.2.1 ^^^ x >>> distances.2.2

namespace Variant

/-- The word that follows sixteen words of the schedule. -/
def nextWord {w : Nat} (v : Variant w) (window : List (BitVec w)) : BitVec w :=
  smallSigma v.smallSigma1 (window.getD 14 0) + window.getD 9 0 +
    smallSigma v.smallSigma0 (window.getD 1 0) + window.getD 0 0

/-- The schedule: `count` words that begin with the sixteen of the block. -/
def schedule {w : Nat} (v : Variant w) : (count : Nat) → List (BitVec w) → List (BitVec w)
  | 0, _ => []
  | count + 1, window =>
    window.getD 0 0 :: v.schedule count (window.drop 1 ++ [v.nextWord window])

/-- One round with a round constant and a word of the schedule. -/
def round {w : Nat} (v : Variant w) (s : State w) (constant word : BitVec w) : State w :=
  let choice := (s.e &&& s.f) ^^^ (~~~s.e &&& s.g)
  let majority := (s.a &&& s.b) ^^^ (s.a &&& s.c) ^^^ (s.b &&& s.c)
  let t1 := s.h + bigSigma v.bigSigma1 s.e + choice + constant + word
  let t2 := bigSigma v.bigSigma0 s.a + majority
  ⟨t1 + t2, s.a, s.b, s.c, s.d + t1, s.e, s.f, s.g⟩

/-- The number that bytes stand for, most significant first. -/
def wordOfBytes (w : Nat) (bytes : Bytes) : BitVec w :=
  bytes.foldl (fun n b => n <<< 8 ||| BitVec.ofNat w b.toNat) 0

/-- The bytes of a word, most significant first. -/
def bytesOfWord {w : Nat} (x : BitVec w) : Bytes :=
  (List.range (w / 8)).map fun i => UInt8.ofNat (x >>> (w - 8 * (i + 1))).toNat

/-- Takes one block into the state. -/
def compress {w : Nat} (v : Variant w) (s : State w) (block : Bytes) : State w :=
  let words := (List.range 16).map fun i => wordOfBytes w ((block.drop (i * (w / 8))).take (w / 8))
  let rounds := v.constants.zip (v.schedule v.constants.length words)
  s.add (rounds.foldl (fun s r => v.round s r.1 r.2) s)

/-- The message with a one bit, zeros and its length in bits, a whole number of blocks. -/
def pad (w : Nat) (message : Bytes) : Bytes :=
  let block := 2 * w
  let lengthBytes := w / 4
  let zeros := (2 * block - 1 - lengthBytes - message.length % block) % block
  let bits := 8 * message.length
  message ++ 0x80 :: List.replicate zeros 0 ++
    (List.range lengthBytes).reverse.map fun i => UInt8.ofNat (bits / Nat.pow 256 i % 256)

/-- Takes `count` blocks into the state. -/
def absorb {w : Nat} (v : Variant w) : (count : Nat) → State w → Bytes → State w
  | 0, s, _ => s
  | count + 1, s, bytes =>
    v.absorb count (v.compress s (bytes.take (2 * w))) (bytes.drop (2 * w))

/-- The digest of a message from an initial state. -/
def digest {w : Nat} (v : Variant w) (initial : State w) (message : Bytes) : Bytes :=
  let padded := pad w message
  (v.absorb (padded.length / (2 * w)) initial padded).toList.flatMap bytesOfWord

end Variant

/-! ### The members of the family -/

/-- The variant over words of 32 bits. -/
def narrow : Variant 32 where
  constants := (primes.take 64).map (rootFraction 32 3)
  bigSigma0 := (2, 13, 22)
  bigSigma1 := (6, 11, 25)
  smallSigma0 := (7, 18, 3)
  smallSigma1 := (17, 19, 10)

/-- The variant over words of 64 bits. -/
def wide : Variant 64 where
  constants := primes.map (rootFraction 64 3)
  bigSigma0 := (28, 34, 39)
  bigSigma1 := (14, 18, 41)
  smallSigma0 := (1, 8, 7)
  smallSigma1 := (19, 61, 6)

def initial256 : State 32 := .ofList ((primes.take 8).map (rootFraction 32 2))
def initial512 : State 64 := .ofList ((primes.take 8).map (rootFraction 64 2))
def initial384 : State 64 := .ofList (((primes.drop 8).take 8).map (rootFraction 64 2))

end Sha2

/-- SHA-256. -/
def sha256 (message : Bytes) : Bytes := Sha2.narrow.digest Sha2.initial256 message

/-- SHA-512. -/
def sha512 (message : Bytes) : Bytes := Sha2.wide.digest Sha2.initial512 message

/-- SHA-384, the first 48 bytes of the wide variant from a state of its own. -/
def sha384 (message : Bytes) : Bytes := (Sha2.wide.digest Sha2.initial384 message).take 48

end SessionAuth.Digest
