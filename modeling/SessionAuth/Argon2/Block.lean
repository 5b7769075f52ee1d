import SessionAuth.Digest.Blake2b

/-!
# Blocks of Argon2

A block holds 128 words. The compression function sees it as eight lines of eight pairs of words,
mixes each line, then each column.
-/

namespace SessionAuth.Argon2

/-- Two neighbouring words of a block. -/
structure Pair where
  lo : UInt64
  hi : UInt64

instance : Inhabited Pair := ⟨⟨0, 0⟩⟩

/-- Sixteen words. -/
abbrev Line := Vector Pair 8

/-- The 128 words of a block, line by line. -/
abbrev Block := Vector Line 8

/-- Adds bit by bit. -/
def Pair.xor (p q : Pair) : Pair := ⟨p.lo ^^^ q.lo, p.hi ^^^ q.hi⟩

/-- Four words that are mixed together. -/
structure Quad where
  a : UInt64
  b : UInt64
  c : UInt64
  d : UInt64

/-- Adds two words and twice the product of their lower halves. -/
@[inline] def blend (x y : UInt64) : UInt64 :=
  x + y + 2 * ((x &&& 0xffffffff) * (y &&& 0xffffffff))

/-- Rotates a word to the right. -/
@[inline] def rotate (x distance : UInt64) : UInt64 :=
  (x >>> distance) ||| (x <<< (64 - distance))

/-- Mixes four words. -/
@[inline] def mix (a b c d : UInt64) : Quad :=
  let a := blend a b
  let d := rotate (d ^^^ a) 32
  let c := blend c d
  let b := rotate (b ^^^ c) 24
  let a := blend a b
  let d := rotate (d ^^^ a) 16
  let c := blend c d
  let b := rotate (b ^^^ c) 63
  ⟨a, b, c, d⟩

/-- Mixes the sixteen words of a line: as a square of four by four, first its columns, then its
diagonals. -/
def Line.permute (l : Line) : Line :=
  let c0 := mix (l.get 0).lo (l.get 2).lo (l.get 4).lo (l.get 6).lo
  let c1 := mix (l.get 0).hi (l.get 2).hi (l.get 4).hi (l.get 6).hi
  let c2 := mix (l.get 1).lo (l.get 3).lo (l.get 5).lo (l.get 7).lo
  let c3 := mix (l.get 1).hi (l.get 3).hi (l.get 5).hi (l.get 7).hi
  let d0 := mix c0.a c1.b c2.c c3.d
  let d1 := mix c1.a c2.b c3.c c0.d
  let d2 := mix c2.a c3.b c0.c c1.d
  let d3 := mix c3.a c0.b c1.c c2.d
  #v[⟨d0.a, d1.a⟩, ⟨d2.a, d3.a⟩, ⟨d3.b, d0.b⟩, ⟨d1.b, d2.b⟩,
     ⟨d2.c, d3.c⟩, ⟨d0.c, d1.c⟩, ⟨d1.d, d2.d⟩, ⟨d3.d, d0.d⟩]

namespace Block

/-- The block of zeros. -/
def zero : Block := Vector.replicate 8 (Vector.replicate 8 ⟨0, 0⟩)

instance : Inhabited Block := ⟨zero⟩

/-- Adds bit by bit. -/
def xor (x y : Block) : Block := Vector.zipWith (Vector.zipWith Pair.xor) x y

/-- Swaps lines and columns. -/
def transpose (x : Block) : Block := Vector.ofFn fun i => Vector.ofFn fun j => (x.get j).get i

/-- Mixes two blocks into one. -/
def compress (x y : Block) : Block :=
  let sum := x.xor y
  let lines := Vector.map Line.permute sum
  let columns := Vector.map Line.permute (transpose lines)
  (transpose columns).xor sum

/-- The word with the given number, below 128. -/
def word (x : Block) (n : Fin 128) : UInt64 :=
  have : n.val / 16 < 8 := by omega
  have : n.val % 16 / 2 < 8 := by omega
  let pair := x[n.val / 16][n.val % 16 / 2]
  if n.val % 2 = 0 then pair.lo else pair.hi

/-- The block of the given words; missing words are zero. -/
def ofWords (words : Array UInt64) : Block :=
  Vector.ofFn fun i => Vector.ofFn fun j =>
    let n := 16 * i.val + 2 * j.val
    ⟨words.getD n 0, words.getD (n + 1) 0⟩

/-- The words of groups of eight bytes, least significant byte first. -/
def wordsOfBytes : Bytes → List UInt64
  | a :: b :: c :: d :: e :: f :: g :: h :: rest =>
    Digest.Blake2b.wordOfBytes [a, b, c, d, e, f, g, h] :: wordsOfBytes rest
  | _ => []

/-- The block of 1024 bytes. -/
def ofBytes (bytes : Bytes) : Block := ofWords (wordsOfBytes bytes).toArray

/-- The 1024 bytes of a block. -/
def toBytes (x : Block) : Bytes :=
  x.toList.flatMap fun line => line.toList.flatMap fun pair =>
    Digest.Blake2b.bytesOfWord pair.lo ++ Digest.Blake2b.bytesOfWord pair.hi

end Block

end SessionAuth.Argon2
