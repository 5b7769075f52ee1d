import SessionAuth.Text.Utf8

/-!
# Strict reading of tagged binary content

Elements are read one by one, each with the tag that is expected. Lengths have their shortest form
and numbers no needless zeros, so that content has one form only.
-/

namespace SessionAuth.Key.Der

/-- The tags that occur. -/
inductive Tag where
  | integer
  | bitString
  | octetString
  | sequence
  | context0
  | context1
  | contextContent1
deriving DecidableEq

/-- The byte of a tag. -/
def Tag.code : Tag → UInt8
  | integer => 0x02
  | bitString => 0x03
  | octetString => 0x04
  | sequence => 0x30
  | context0 => 0xa0
  | context1 => 0xa1
  | contextContent1 => 0x81

/-- Takes a length below `2 ^ 16` in its shortest form. -/
def length? : Bytes → Option (Nat × Bytes)
  | 0x81 :: a :: rest => if a < 128 then none else some (a.toNat, rest)
  | 0x82 :: a :: b :: rest => if a = 0 then none else some (256 * a.toNat + b.toNat, rest)
  | a :: rest => if a < 128 then some (a.toNat, rest) else none
  | [] => none

/-- Takes an element with the given tag. -/
def take? (tag : Tag) : Bytes → Option (Bytes × Bytes)
  | [] => none
  | b :: rest => do
    guard (b = tag.code)
    let (length, rest) ← length? rest
    guard (length ≤ rest.length)
    return (rest.take length, rest.drop length)

/-- The content of an element that is all there is. -/
def whole? (tag : Tag) (bytes : Bytes) : Option Bytes := do
  let (content, rest) ← take? tag bytes
  guard rest.isEmpty
  return content

/-- Takes a natural number. -/
def number? (bytes : Bytes) : Option (Nat × Bytes) := do
  let (content, rest) ← take? .integer bytes
  let isShortest : Bool := match content with
    | [] => false
    | [a] => a < 128
    | a :: b :: _ => a < 128 && (a ≠ 0 || 128 ≤ b)
  guard isShortest
  return (content.foldl (fun n b => 256 * n + b.toNat) 0, rest)

/-- Takes the given count of natural numbers. -/
def numbers? : (count : Nat) → Bytes → Option (List Nat × Bytes)
  | 0, bytes => some ([], bytes)
  | count + 1, bytes => do
    let (n, bytes) ← number? bytes
    let (ns, bytes) ← numbers? count bytes
    return (n :: ns, bytes)

/-- The bytes of a string of bits in which all bits are used. -/
def allBits? : Bytes → Option Bytes
  | 0 :: bytes => some bytes
  | _ => none

end SessionAuth.Key.Der
