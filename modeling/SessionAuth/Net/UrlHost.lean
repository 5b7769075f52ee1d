import SessionAuth.Net.Domain
import SessionAuth.Net.SocketAddress
import SessionAuth.Text.Escape

/-!
# Hosts in URLs

A host is an address of version 6 in brackets or a name. Most schemes leave its meaning open; where
it is a domain name or an address of version 4, its form is checked. Such an address has up to four
numbers, in base 8, 10 or 16, and the last one fills the bytes that are left.
-/

namespace SessionAuth.UrlHost

/-- The characters that no host holds. -/
def dividers : List Char := " #/:<>?@[\\]^|".toList

/-- An address of version 6 behind its opening bracket. -/
def isBracketed (cs : List Char) : Bool :=
  cs.getLast? = some ']' && (SocketAddress.v6? cs.dropLast).any (·.2.isEmpty)

/-- A host of a meaning that is left open. -/
def isOpen : List Char → Bool
  | '[' :: cs => isBracketed cs
  | cs => cs.all fun c => c ≠ '\x00' && !dividers.contains c

/-! ### Addresses of version 4 -/

/-- The base of a number, and its digits. -/
def baseAndDigits : List Char → Nat × List Char
  | '0' :: 'x' :: cs | '0' :: 'X' :: cs => (16, cs)
  | '0' :: c :: cs => (8, c :: cs)
  | cs => (10, cs)

/-- A number of an address. A base without digits stands for zero. -/
def number? (cs : List Char) : Option Nat := do
  guard (cs ≠ [])
  let (base, digits) := baseAndDigits cs
  digits.foldlM (fun n c => do
    let digit ← Text.Hexadecimal.digitValue? c
    if digit < base then some (base * n + digit) else none) 0

/-- The numbers of an address: all but the last one are bytes. -/
def isAddress (parts : List (List Char)) : Bool :=
  match parts.mapM number? with
  | none => false
  | some numbers =>
    numbers.length ≤ 4 && numbers.dropLast.all (· < 256) &&
      (numbers.getLast?).all (· < Nat.pow 256 (5 - numbers.length))

/-- The parts of a name; an empty one at its end does not count. -/
def parts (name : List Char) : List (List Char) :=
  let parts := Text.split '.' name
  if 1 < parts.length ∧ parts.getLast? = some [] then parts.dropLast else parts

/-- The last part is a number, or written in digits like one. -/
def endsInNumber (parts : List (List Char)) : Bool :=
  (parts.getLast?).any fun part =>
    part ≠ [] && part.all Text.Decimal.isDigit || (number? part).isSome

/-- A host that is a domain name or an address. -/
def isDomain : List Char → Bool
  | '[' :: cs => isBracketed cs
  | cs =>
    (Text.unescape? cs).any fun name =>
      (Domain.ofText? name.toList).any fun name =>
        name ≠ [] && (!endsInNumber (parts name) || isAddress (parts name))

end SessionAuth.UrlHost
