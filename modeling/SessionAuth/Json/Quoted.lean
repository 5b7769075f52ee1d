import SessionAuth.Json.Reader
import SessionAuth.Text.Hexadecimal

/-!
# Strings in JSON

A string stands between quotes. Quotes, backslashes and control characters are written as escapes;
reading accepts an escape for any character, in UTF-16 units where it is numeric.
-/

namespace SessionAuth.Json

/-! ### Writing -/

/-- One character of a string. -/
def escape (c : Char) : List Char :=
  if c = '"' then ['\\', '"']
  else if c = '\\' then ['\\', '\\']
  else if c = '\x08' then ['\\', 'b']
  else if c = '\x0c' then ['\\', 'f']
  else if c = '\n' then ['\\', 'n']
  else if c = '\r' then ['\\', 'r']
  else if c = '\t' then ['\\', 't']
  else if c.toNat < 0x20 then '\\' :: 'u' :: Text.Hexadecimal.digits 4 c.toNat
  else [c]

/-- The JSON text of a string. -/
def quote (s : String) : String := String.ofList ('"' :: s.toList.flatMap escape ++ ['"'])

/-! ### Reading -/

/-- The character that a letter after a backslash stands for. -/
def unescape? (b : UInt8) : Option UInt8 :=
  if b = code '"' ∨ b = code '\\' ∨ b = code '/' then some b
  else if b = code 'b' then some 0x08
  else if b = code 'f' then some 0x0c
  else if b = code 'n' then some 0x0a
  else if b = code 'r' then some 0x0d
  else if b = code 't' then some 0x09
  else none

/-- The number of four hexadecimal digits. -/
def unit? (bytes : Bytes) : Option Nat :=
  Text.Hexadecimal.value? (bytes.map fun b => Char.ofNat b.toNat)

/-- Where a reader stands in a string: between characters, after a backslash, among the four digits
of a unit, or before the backslash or the `u` of a second unit. A unit may follow the first half of
a pair. -/
inductive Place where
  | plain
  | backslash
  | digits (lead : Option Nat) (taken : Bytes)
  | pairBackslash (lead : Nat)
  | pairLetter (lead : Nat)

/-- What a complete unit means: a place to go on from and the bytes it adds. Halves of pairs must
come in pairs. -/
def takeUnit (lead : Option Nat) (unit : Nat) : Option (Place × Bytes) :=
  match lead with
  | some lead =>
    if 0xdc00 ≤ unit ∧ unit ≤ 0xdfff then
      let n := 0x10000 + (lead - 0xd800) * 0x400 + (unit - 0xdc00)
      some (.plain, String.utf8EncodeChar (Char.ofNat n))
    else none
  | none =>
    if 0xdc00 ≤ unit ∧ unit ≤ 0xdfff then none
    else if 0xd800 ≤ unit ∧ unit ≤ 0xdbff then some (.pairBackslash unit, [])
    else some (.plain, String.utf8EncodeChar (Char.ofNat unit))

/-- Reads a string from within. The bytes read so far are kept in reverse. -/
def stringFrom : Place → (taken : Bytes) → Bytes → Except Fault Bytes × Bytes
  | _, _, [] => (.error .truncated, [])
  | .plain, taken, b :: rest =>
    if b = code '"' then (.ok taken.reverse, rest)
    else if b = code '\\' then stringFrom .backslash taken rest
    else if b < 0x20 then (.error .malformed, rest)
    else stringFrom .plain (b :: taken) rest
  | .backslash, taken, b :: rest =>
    match unescape? b with
    | some c => stringFrom .plain (c :: taken) rest
    | none =>
      if b = code 'u' then stringFrom (.digits none []) taken rest else (.error .malformed, rest)
  | .digits lead ds, taken, b :: rest =>
    let ds := ds ++ [b]
    if ds.length < 4 then stringFrom (.digits lead ds) taken rest
    else
      match unit? ds with
      | none => (.error .malformed, rest)
      | some unit =>
        match takeUnit lead unit with
        | none => (.error .malformed, rest)
        | some (place, bytes) => stringFrom place (bytes.reverse ++ taken) rest
  | .pairBackslash lead, taken, b :: rest =>
    if b = code '\\' then stringFrom (.pairLetter lead) taken rest else (.error .malformed, rest)
  | .pairLetter lead, taken, b :: rest =>
    if b = code 'u' then stringFrom (.digits (some lead) []) taken rest
    else (.error .malformed, rest)

/-- Reads the rest of a string after its opening quote. -/
def stringBody : Reader String := do
  let bytes ← Reader.ofFunction (stringFrom .plain [])
  match Text.ofUtf8? bytes with
  | some s => return s
  | none => throw .malformed

/-- Passes over the rest of a string after its opening quote, or over the rest of an escape in it:
`pending` digits of a unit have been taken. Neither pairs nor the encoding are checked. -/
def skipStringFrom : (isEscape : Bool) → (pending : Option Bytes) → Bytes →
    Except Fault Unit × Bytes
  | _, _, [] => (.error .truncated, [])
  | isEscape, some ds, b :: rest =>
    let ds := ds ++ [b]
    if ds.length < 4 then skipStringFrom isEscape (some ds) rest
    else if (unit? ds).isSome then skipStringFrom false none rest
    else (.error .malformed, rest)
  | true, none, b :: rest =>
    if (unescape? b).isSome then skipStringFrom false none rest
    else if b = code 'u' then skipStringFrom false (some []) rest
    else (.error .malformed, rest)
  | false, none, b :: rest =>
    if b = code '"' then (.ok (), rest)
    else if b = code '\\' then skipStringFrom true none rest
    else if b < 0x20 then (.error .malformed, rest)
    else skipStringFrom false none rest

/-- Passes over the rest of a string after its opening quote. -/
def skipString : Reader Unit := .ofFunction (skipStringFrom false none)

end SessionAuth.Json
