import SessionAuth.Text.Decimal
import SessionAuth.Text.Split

/-!
# Punycode

A name in letters, digits and hyphens that stands for one in any characters: the plain characters
come first, and after the last hyphen follow numbers that tell which other character is inserted
next, and where. Numbers are written in base 36, the least digit first; a digit below its threshold
ends the number, and the thresholds adapt to the numbers before.
-/

namespace SessionAuth.Text.Punycode

/-- The value of a digit: letters come before digits. -/
def digitValue? (c : Char) : Option Nat :=
  if c.isLower then some (c.toNat - 'a'.toNat)
  else if c.isUpper then some (c.toNat - 'A'.toNat)
  else if Decimal.isDigit c then some (c.toNat - '0'.toNat + 26)
  else none

/-- The threshold of a digit at a position, which is a multiple of 36. -/
def threshold (bias position : Nat) : Nat := min 26 (max 1 (position - bias))

/-- Takes a number; its digits so far stand for `n`, and the next one counts `weight`. -/
def number? (bias : Nat) : (position weight n : Nat) → List Char → Option (Nat × List Char)
  | _, _, _, [] => none
  | position, weight, n, c :: cs => do
    let digit ← digitValue? c
    let n := n + digit * weight
    let t := threshold bias position
    if digit < t then return (n, cs)
    else number? bias (position + 36) (weight * (36 - t)) n cs

/-- Divides by 35 down to 455, and counts 36 for each time. -/
def reduce : (fuel delta : Nat) → Nat × Nat
  | 0, delta => (delta, 0)
  | fuel + 1, delta =>
    if 455 < delta then
      let (delta, count) := reduce fuel (delta / 35)
      (delta, count + 36)
    else (delta, 0)

/-- The bias after a number, of which the first one counts less, in a name of the given length. -/
def adapt (isFirst : Bool) (delta length : Nat) : Nat :=
  let delta := if isFirst then delta / 700 else delta / 2
  let (delta, count) := reduce delta (delta + delta / length)
  count + 36 * delta / (delta + 38)

/-- Inserts the characters that numbers tell. The place of the next one is counted on from the last
one, through all places of the name for each code point. -/
def insert? : (fuel code place bias : Nat) → (name : List Char) → List Char → Option (List Char)
  | _, _, _, _, name, [] => some name
  | 0, _, _, _, _, _ => none
  | fuel + 1, code, place, bias, name, cs => do
    let (delta, cs) ← number? bias 36 1 0 cs
    let length := name.length + 1
    let next := code + (place + delta) / length
    let index := (place + delta) % length
    guard next.isValidChar
    insert? fuel next (index + 1) (adapt (place = 0) delta length)
      (name.take index ++ Char.ofNat next :: name.drop index) cs

/-- The name that a plain one stands for. -/
def decode? (cs : List Char) : Option (List Char) :=
  let (plain, numbers) := (splitLast? '-' cs).getD ([], cs)
  insert? (numbers.length + 1) 0x80 0 72 plain numbers

end SessionAuth.Text.Punycode
