import SessionAuth.Argon2.Block

/-!
# Argon2

The memory-hard function Argon2 in its three kinds and two versions. A digest of all inputs seeds
the first two blocks of every lane; each further block mixes the block before it with an earlier
one, several times over the whole memory; the last blocks of all lanes give the tag.
-/

namespace SessionAuth.Argon2

/-- How earlier blocks are chosen: by what the memory holds, by position alone, or by position
first and by content later. -/
inductive Kind where
  | dependent
  | independent
  | hybrid
deriving DecidableEq, Repr

/-- The number of a kind. -/
def Kind.code : Kind → Nat
  | dependent => 0
  | independent => 1
  | hybrid => 2

/-- The version that overwrites blocks in later passes, or the one that mixes into them. -/
inductive Version where
  | overwriting
  | mixing
deriving DecidableEq, Repr

/-- The number of a version. -/
def Version.code : Version → Nat
  | overwriting => 16
  | mixing => 19

/-- Memory in KiB, passes over it, and lanes. -/
structure Cost where
  memory : Nat
  passes : Nat
  lanes : Nat
deriving DecidableEq, Repr

/-- Everything the tag depends on, its length included. -/
structure Input where
  kind : Kind
  version : Version
  cost : Cost
  password : Bytes
  salt : Bytes
  associated : Bytes
  tagLength : Nat

/-! ### Hashing to any length -/

/-- A number in four bytes, least significant first. -/
def fourBytes (n : Nat) : Bytes :=
  (List.range 4).map fun i => UInt8.ofNat (n / Nat.pow 256 i % 256)

/-- Digests that each hash the one before: the first half of each is kept, the last is kept
whole. -/
def chain : (count : Nat) → (last : Nat) → Bytes → Bytes
  | 0, last, v => Digest.blake2b last v
  | count + 1, last, v =>
    let v := Digest.blake2b 64 v
    v.take 32 ++ chain count last v

/-- A digest of any length. -/
def longDigest (size : Nat) (message : Bytes) : Bytes :=
  let message := fourBytes size ++ message
  if size ≤ 64 then Digest.blake2b size message
  else
    let count := (size + 31) / 32 - 2
    chain count (size - 32 * count) message

namespace Input

/-- A byte string after its length. -/
def counted (bytes : Bytes) : Bytes := fourBytes bytes.length ++ bytes

/-- The digest that stands for all inputs. There is no secret beside the password. -/
def seed (input : Input) : Bytes :=
  Digest.blake2b 64 <|
    fourBytes input.cost.lanes ++ fourBytes input.tagLength ++ fourBytes input.cost.memory ++
      fourBytes input.cost.passes ++ fourBytes input.version.code ++ fourBytes input.kind.code ++
      counted input.password ++ counted input.salt ++ counted [] ++ counted input.associated

/-! ### Filling the memory -/

/-- Blocks in a quarter of a lane. -/
def segmentLength (input : Input) : Nat := input.cost.memory / (4 * input.cost.lanes)

/-- Blocks in a lane. -/
def laneLength (input : Input) : Nat := 4 * input.segmentLength

/-- All blocks. -/
def blockCount (input : Input) : Nat := input.cost.lanes * input.laneLength

/-- The memory before the first pass: the first two blocks of every lane, zeros elsewhere. -/
def initialMemory (input : Input) : Array Block :=
  let seed := input.seed
  (List.range input.cost.lanes).foldl (fun memory lane =>
    (List.range 2).foldl (fun memory column =>
      memory.setIfInBounds (lane * input.laneLength + column) <|
        .ofBytes (longDigest 1024 (seed ++ fourBytes column ++ fourBytes lane))) memory)
    (Array.replicate input.blockCount .zero)

/-- A quarter of a lane in one pass. -/
structure Segment where
  pass : Nat
  slice : Nat
  lane : Nat

namespace Segment

/-- Earlier blocks are chosen by position alone. -/
def isIndependent (s : Segment) : Kind → Bool
  | .dependent => false
  | .independent => true
  | .hybrid => s.pass == 0 && s.slice < 2

/-- How many blocks may be chosen for the block `index` of the segment: those of finished segments
and, in the same lane, those before it, without the block just before it. -/
def candidates (s : Segment) (segmentLength index : Nat) (isSameLane : Bool) : Nat :=
  let finished := if s.pass = 0 then s.slice * segmentLength else 3 * segmentLength
  if isSameLane then finished + index - 1
  else if index = 0 then finished - 1
  else finished

/-- The lane and column chosen by two numbers below `2 ^ 32`. Near blocks are likelier than far
ones. -/
def choose (s : Segment) (input : Input) (index : Nat) (j1 j2 : Nat) : Nat × Nat :=
  let lane := if s.pass = 0 && s.slice == 0 then s.lane else j2 % input.cost.lanes
  let count := s.candidates input.segmentLength index (lane == s.lane)
  let distance := count * (j1 * j1 / UInt32.size) / UInt32.size
  let start := if s.pass = 0 || s.slice == 3 then 0 else (s.slice + 1) * input.segmentLength
  (lane, (start + (count - 1 - distance)) % input.laneLength)

/-- The block of choosing numbers for positions from `128 * (counter - 1)` on. -/
def addresses (s : Segment) (input : Input) (counter : Nat) : Block :=
  let numbers := [s.pass, s.lane, s.slice, input.blockCount, input.cost.passes, input.kind.code,
    counter]
  let block := Block.ofWords (numbers.map UInt64.ofNat).toArray
  Block.zero.compress (Block.zero.compress block)

/-- The memory while a segment is filled, and the current block of choosing numbers. -/
structure Progress where
  memory : Array Block
  addresses : Block

/-- Fills the block `index` of the segment. -/
def fillBlock (s : Segment) (input : Input) (start : Progress) (index : Nat) : Progress :=
  let isIndependent := s.isIndependent input.kind
  let base := s.lane * input.laneLength
  let column := s.slice * input.segmentLength + index
  let before := base + (if column = 0 then input.laneLength - 1 else column - 1)
  let addresses :=
    if isIndependent && (index % 128 == 0 || (s.pass == 0 && s.slice == 0 && index == 2)) then
      s.addresses input (index / 128 + 1)
    else start.addresses
  let previous := start.memory.getD before .zero
  let chooser := if isIndependent then
      addresses.word ⟨index % 128, Nat.mod_lt _ (by decide)⟩
    else previous.word 0
  let (lane, chosen) := s.choose input index (chooser &&& 0xffffffff).toNat (chooser >>> 32).toNat
  let mixed := previous.compress (start.memory.getD (lane * input.laneLength + chosen) .zero)
  let block := if s.pass = 0 || input.version == .overwriting then mixed
    else mixed.xor (start.memory.getD (base + column) .zero)
  ⟨start.memory.setIfInBounds (base + column) block, addresses⟩

/-- Fills a segment. The first two blocks of a lane are there from the start. -/
def fill (s : Segment) (input : Input) (memory : Array Block) : Array Block :=
  let first := if s.pass = 0 && s.slice == 0 then 2 else 0
  ((List.range' first (input.segmentLength - first)).foldl (s.fillBlock input)
    ⟨memory, .zero⟩).memory

end Segment

/-- All segments in order: lanes within a slice, slices within a pass. -/
def segments (input : Input) : List Segment :=
  (List.range input.cost.passes).flatMap fun pass =>
    (List.range 4).flatMap fun slice =>
      (List.range input.cost.lanes).map fun lane => ⟨pass, slice, lane⟩

/-- The tag. -/
def tag (input : Input) : Bytes :=
  let memory := input.segments.foldl (fun memory s => s.fill input memory) input.initialMemory
  let last := (List.range input.cost.lanes).foldl (fun sum lane =>
    sum.xor (memory.getD ((lane + 1) * input.laneLength - 1) .zero)) Block.zero
  longDigest input.tagLength last.toBytes

end Input

end SessionAuth.Argon2
