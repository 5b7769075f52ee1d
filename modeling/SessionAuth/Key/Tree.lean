import SessionAuth.Time.Stamp

/-!
# Tagged binary trees

The content of a key is a tree of tagged elements. Here only its outline is read, and loosely: the
nested lists, the identifiers of objects, and the strings of bits and bytes. The form of everything
else is checked where it has one.
-/

namespace SessionAuth.Key

/-- An element of the outline. -/
inductive Element where
  | list (elements : List Element)
  | identifier (arcs : List Nat)
  | string (content : Bytes)
  | other

namespace Element

/-- Why content has no outline: it has no such form, or its reading breaks off. -/
inductive Fault where
  | malformed
  | aborted
deriving DecidableEq, Repr

/-! ### Tag and length -/

/-- Takes a number in groups of seven bits, all but the last of them marked. -/
def groups? : (n : Nat) → Bytes → Option (Nat × Bytes)
  | _, [] => none
  | n, b :: rest =>
    let n := 128 * n + b.toNat % 128
    if b < 128 then some (n, rest) else groups? n rest

/-- A tag: whether its class is the universal one, whether it announces parts, and its number. -/
structure Tag where
  isUniversal : Bool
  hasParts : Bool
  number : Nat

/-- Takes a tag. -/
def tag? : Bytes → Option (Tag × Bytes)
  | [] => none
  | b :: rest =>
    let tag : Tag := ⟨b < 64, b &&& 32 ≠ 0, (b &&& 31).toNat⟩
    if tag.number = 31 then
      (groups? 0 rest).map fun (number, rest) => ({ tag with number }, rest)
    else some (tag, rest)

/-- Takes a length of at most eight bytes. -/
def length? : Bytes → Option (Nat × Bytes)
  | [] => none
  | b :: rest =>
    if b < 128 then some (b.toNat, rest)
    else
      let count := b.toNat - 128
      if 8 < count ∨ rest.length < count then none
      else some ((rest.take count).foldl (fun n b => 256 * n + b.toNat) 0, rest.drop count)

/-! ### Contents -/

/-- The numbers after the first two of an identifier. -/
def arcsFrom : (fuel : Nat) → Bytes → Option (List Nat)
  | _, [] => some []
  | 0, _ => none
  | fuel + 1, bytes => do
    let (n, rest) ← groups? 0 bytes
    return n :: (← arcsFrom fuel rest)

/-- The numbers of an identifier; its first byte holds two of them. -/
def arcs? : Bytes → Option (List Nat)
  | [] => none
  | b :: rest => do
    let first := min (b.toNat / 40) 2
    return first :: (b.toNat - 40 * first) :: (← arcsFrom rest.length rest)

/-- A character of the restricted set for names. -/
def isPlainCharacter (b : UInt8) : Bool :=
  let c := Char.ofNat b.toNat
  c.isAlphanum || " '()+,-./:=?".toList.contains c

/-- Bytes as characters, each with the code of its byte. -/
def characters (content : Bytes) : List Char := content.map fun b => Char.ofNat b.toNat

/-- Whether a long stamp is well-formed. One that cannot be completed breaks the reading off. -/
def isLongStamp (content : Bytes) : Except Fault Bool :=
  if content.length < 15 then .ok false
  else
    match Stamp.complete? (characters content) with
    | some stamp => .ok (Stamp.isComplete stamp)
    | none => .error .aborted

/-- Whether content without parts is well-formed under its tag. -/
def isContent (tag : Nat) (content : Bytes) : Except Fault Bool :=
  match tag with
  | 0x01 => .ok (content.length = 1)
  | 0x0c | 0x14 | 0x1c | 0x1e => .ok (Text.ofUtf8? content).isSome
  | 0x13 => .ok (content.all isPlainCharacter)
  | 0x17 => .ok (content.length = 13 && Stamp.isShort (characters content))
  | 0x18 => isLongStamp content
  | _ => .ok true

/-- The bytes of a string of bits, of which the last ones may be unused. -/
def bits? : Bytes → Option Bytes
  | [] => some []
  | unused :: bytes => if unused.toNat ≤ 8 * bytes.length then some bytes else none

/-- What content amounts to that has no parts to look into. -/
def simple (tag : Nat) (content : Bytes) : Except Fault Element :=
  let read := fun element : Option Element => element.elim (.error .malformed) .ok
  match tag with
  | 0x03 => read ((bits? content).map string)
  | 0x04 => .ok (string content)
  | 0x06 => read ((arcs? content).map identifier)
  | tag => do if ← isContent tag content then return other else throw .malformed

/-- What content amounts to with parts that count for nothing. They may be malformed where their
class is not the universal one. -/
def ignoreParts (isUniversal : Bool) : Except Fault (List Element) → Except Fault Element
  | .ok _ => .ok other
  | .error .malformed => if isUniversal then .error .malformed else .ok other
  | .error .aborted => .error .aborted

/-- Takes tag and content of an element. -/
def take? (bytes : Bytes) : Option (Tag × Bytes × Bytes) := do
  let (tag, rest) ← tag? bytes
  let (length, rest) ← length? rest
  guard (length ≤ rest.length)
  return (tag, rest.take length, rest.drop length)

/-- Reads elements one after the other. There has to be one. -/
def many : (fuel : Nat) → Bytes → Except Fault (List Element)
  | 0, _ => .error .malformed
  | fuel + 1, bytes => do
    let some (tag, content, rest) := take? bytes | throw .malformed
    let element ←
      if !tag.isUniversal then
        if tag.hasParts then ignoreParts false (many fuel content) else pure other
      else if tag.number = 0x10 then list <$> many fuel content
      else if tag.number = 0x11 then ignoreParts true (many fuel content)
      else simple tag.number content
    match rest with
    | [] => return [element]
    | rest => return element :: (← many fuel rest)

/-- Reads the outline of some content. -/
def ofBytes (bytes : Bytes) : Except Fault (List Element) := many (bytes.length + 1) bytes

/-! ### Searching -/

/-- The first result of a search through elements and the lists among them, in order. -/
def search {α : Type} (f : Element → Option α) : (fuel : Nat) → List Element → Option α
  | 0, _ => none
  | _, [] => none
  | fuel + 1, element :: rest =>
    let found := match element with
      | list elements => search f fuel elements
      | e => f e
    found.or (search f fuel rest)

mutual

/-- The size of what an element holds. -/
def innerSize : Element → Nat
  | list elements => size elements
  | _ => 0

/-- The size of an outline, which bounds a search. -/
def size : List Element → Nat
  | [] => 1
  | element :: rest => innerSize element + size rest + 1

end

/-- The first string of bits or bytes. -/
def firstString? (elements : List Element) : Option Bytes :=
  search (fun | string content => some content | _ => none) (size elements) elements

/-- The first identifier that has a meaning. -/
def firstMeaning? {α : Type} (meaning : List Nat → Option α) (elements : List Element) : Option α :=
  search (fun | identifier arcs => meaning arcs | _ => none) (size elements) elements

end Element

end SessionAuth.Key
