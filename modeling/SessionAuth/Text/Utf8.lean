/-!
# Bytes and texts

Bytes are lists of `UInt8`. A text has one byte form, its UTF-8 encoding; the other way round only
well-formed bytes are a text.
-/

namespace SessionAuth

/-- A string of bytes. -/
abbrev Bytes := List UInt8

namespace Text

/-- The UTF-8 form of a text. -/
def utf8 (s : String) : Bytes := s.toList.flatMap String.utf8EncodeChar

/-- The text with the given UTF-8 form. -/
def ofUtf8? (bytes : Bytes) : Option String := String.fromUTF8? (ByteArray.mk bytes.toArray)

/-- How many bytes a text takes. -/
def byteLength (s : String) : Nat := (utf8 s).length

/-- The parts of a text before and behind a number of bytes, unless it ends earlier or the cut would
go through a character. -/
def cutAt? : (bytes : Nat) → List Char → Option (List Char × List Char)
  | 0, cs => some ([], cs)
  | _ + 1, [] => none
  | bytes + 1, c :: cs =>
    if bytes + 1 < c.utf8Size then none
    else (cutAt? (bytes + 1 - c.utf8Size) cs).map fun parts => (c :: parts.1, parts.2)

/-! ### Malformed bytes -/

/-- What stands for bytes that form no character. -/
def replacement : Char := '\uFFFD'

/-- A character of which the first bytes have been met: their value, and the ranges of the bytes
that must follow. -/
structure Partial where
  value : Nat
  next : UInt8 × UInt8
  rest : List (UInt8 × UInt8)

/-- The range of the bytes that go on with a character. -/
def anyTail : UInt8 × UInt8 := (0x80, 0xbf)

/-- The character that begins with a byte, unless the byte is one by itself or none begins with it.
The byte after the first one is further restricted, so that each character has one form only. -/
def Partial.ofFirst? (b : UInt8) : Option Partial :=
  let value := b.toNat
  if 0xc2 ≤ b && b ≤ 0xdf then some ⟨value % 32, anyTail, []⟩
  else if b = 0xe0 then some ⟨value % 16, (0xa0, 0xbf), [anyTail]⟩
  else if b = 0xed then some ⟨value % 16, (0x80, 0x9f), [anyTail]⟩
  else if 0xe1 ≤ b && b ≤ 0xef then some ⟨value % 16, anyTail, [anyTail]⟩
  else if b = 0xf0 then some ⟨value % 8, (0x90, 0xbf), [anyTail, anyTail]⟩
  else if 0xf1 ≤ b && b ≤ 0xf3 then some ⟨value % 8, anyTail, [anyTail, anyTail]⟩
  else if b = 0xf4 then some ⟨value % 8, (0x80, 0x8f), [anyTail, anyTail]⟩
  else none

/-- What is read at a byte where no character is open: the characters so far, last first, and the
one that is open then. -/
def readFirst (done : List Char) (b : UInt8) : List Char × Option Partial :=
  if b < 0x80 then (Char.ofNat b.toNat :: done, none)
  else
    match Partial.ofFirst? b with
    | some p => (done, some p)
    | none => (replacement :: done, none)

/-- What is read at a byte. One that does not go on with the open character breaks it off. -/
def readByte : List Char × Option Partial → UInt8 → List Char × Option Partial
  | (done, none), b => readFirst done b
  | (done, some p), b =>
    if p.next.1 ≤ b && b ≤ p.next.2 then
      let value := 64 * p.value + b.toNat % 64
      match p.rest with
      | [] => (Char.ofNat value :: done, none)
      | next :: rest => (done, some ⟨value, next, rest⟩)
    else readFirst (replacement :: done) b

/-- The text that bytes form, with a replacement for each stretch that begins no character or breaks
off within one. -/
def ofUtf8Lossy (bytes : Bytes) : List Char :=
  match bytes.foldl readByte ([], none) with
  | (done, none) => done.reverse
  | (done, some _) => (replacement :: done).reverse

end Text

end SessionAuth
