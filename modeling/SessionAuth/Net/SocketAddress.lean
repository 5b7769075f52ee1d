import SessionAuth.Text.Decimal
import SessionAuth.Text.Hexadecimal

/-!
# Socket addresses

An address of the Internet Protocol in version 4 or 6 with a port. Addresses of version 6 stand in
brackets, may leave out one run of zeros, may end in the form of version 4, and may name a scope.
-/

namespace SessionAuth

/-- An address with a port. -/
inductive SocketAddress where
  | v4 (octets : List Nat) (port : Nat)
  | v6 (groups : List Nat) (scope port : Nat)
deriving DecidableEq, Repr

namespace SocketAddress

/-! ### Reading -/

/-- Takes a given character. -/
def char? (c : Char) : List Char → Option (List Char)
  | d :: rest => if d = c then some rest else none
  | [] => none

/-- Takes all decimal digits, which must stand for a number below a bound. -/
def decimal? (bound : Nat) (cs : List Char) : Option (Nat × List Char) := do
  let n ← Text.Decimal.value? (cs.takeWhile Text.Decimal.isDigit)
  if n < bound then some (n, cs.dropWhile Text.Decimal.isDigit) else none

/-- Takes a number of one byte: up to three digits without needless zeros. -/
def octet? (cs : List Char) : Option (Nat × List Char) := do
  let digits := cs.takeWhile Text.Decimal.isDigit
  let n ← Text.Decimal.canonical? digits
  if digits.length ≤ 3 ∧ n < 256 then some (n, cs.drop digits.length) else none

/-- Takes an address of version 4. -/
def v4? (cs : List Char) : Option (List Nat × List Char) := do
  let (a, cs) ← octet? cs
  let (b, cs) ← octet? (← char? '.' cs)
  let (c, cs) ← octet? (← char? '.' cs)
  let (d, cs) ← octet? (← char? '.' cs)
  return ([a, b, c, d], cs)

/-- A hexadecimal digit. -/
def isHexDigit (c : Char) : Bool := (Text.Hexadecimal.digitValue? c).isSome

/-- Takes a group: up to four hexadecimal digits. -/
def group? (cs : List Char) : Option (Nat × List Char) := do
  let digits := cs.takeWhile isHexDigit
  if digits.length = 0 ∨ 4 < digits.length then none
  else return (← Text.Hexadecimal.value? digits, cs.drop digits.length)

/-- Takes what a reader takes, after a colon unless it comes first. -/
def separated {α : Type} (isFirst : Bool) (read : List Char → Option (α × List Char))
    (cs : List Char) : Option (α × List Char) :=
  if isFirst then read cs else (char? ':' cs).bind read

/-- Takes at most `limit` groups. Where two of them may follow, an address of version 4 may stand
for the last two; the result tells whether it does. -/
def groups : (limit : Nat) → (isFirst : Bool) → List Char → List Nat × Bool × List Char
  | 0, _, cs => ([], false, cs)
  | limit + 1, isFirst, cs =>
    let embedded := if limit = 0 then none else separated isFirst v4? cs
    match embedded with
    | some ([a, b, c, d], rest) => ([256 * a + b, 256 * c + d], true, rest)
    | _ =>
      match separated isFirst group? cs with
      | none => ([], false, cs)
      | some (g, rest) =>
        let (gs, isEmbedded, rest) := groups limit false rest
        (g :: gs, isEmbedded, rest)

/-- Takes an address of version 6. -/
def v6? (cs : List Char) : Option (List Nat × List Char) :=
  let (front, isEmbedded, rest) := groups 8 true cs
  if front.length = 8 then some (front, rest)
  else if isEmbedded then none
  else do
    let rest ← char? ':' (← char? ':' rest)
    let (back, _, rest) := groups (7 - front.length) true rest
    return (front ++ List.replicate (8 - front.length - back.length) 0 ++ back, rest)

/-- Takes a scope, if there is one. -/
def scope? (cs : List Char) : Option (Nat × List Char) :=
  match cs with
  | '%' :: rest => decimal? UInt32.size rest
  | cs => some (0, cs)

/-- Reads a port after a colon, up to the end. -/
def port? (cs : List Char) : Option Nat := do
  let (port, rest) ← decimal? UInt16.size (← char? ':' cs)
  if rest.isEmpty then some port else none

/-- Reads an address with a port. -/
def parse? (s : String) : Option SocketAddress :=
  match s.toList with
  | '[' :: cs => do
    let (groups, rest) ← v6? cs
    let (scope, rest) ← scope? rest
    return .v6 groups scope (← port? (← char? ']' rest))
  | cs => do
    let (octets, rest) ← v4? cs
    return .v4 octets (← port? rest)

/-! ### Writing -/

/-- Numbers with points between them. -/
def pointed (ns : List Nat) : String := ".".intercalate (ns.map toString)

/-- Groups with colons between them. -/
def colons (gs : List Nat) : String :=
  ":".intercalate (gs.map fun g => String.ofList (Nat.toDigits 16 g))

/-- How many zeros a list begins with. -/
def leadingZeros (gs : List Nat) : Nat := (gs.takeWhile (· = 0)).length

/-- Start and length of the longest run of zeros, of equal ones the first. -/
def longestRun (gs : List Nat) : Nat × Nat :=
  (List.range gs.length).foldl (fun best i =>
    let length := leadingZeros (gs.drop i)
    if best.2 < length then (i, length) else best) (0, 0)

/-- The text of an address of version 6: an embedded one of version 4 as such, and otherwise
without the longest run of several zeros. -/
def v6Text (gs : List Nat) : String :=
  match gs with
  | [0, 0, 0, 0, 0, 0xffff, a, b] => "::ffff:" ++ pointed [a / 256, a % 256, b / 256, b % 256]
  | gs =>
    let (start, length) := longestRun gs
    if 1 < length then colons (gs.take start) ++ "::" ++ colons (gs.drop (start + length))
    else colons gs

/-- The text of an address. -/
def text : SocketAddress → String
  | v4 octets port => pointed octets ++ ":" ++ toString port
  | v6 groups scope port =>
    "[" ++ v6Text groups ++ (if scope = 0 then "" else "%" ++ toString scope) ++ "]:" ++
      toString port

/-- The port. -/
def port : SocketAddress → Nat
  | v4 _ port | v6 _ _ port => port

end SocketAddress

end SessionAuth
