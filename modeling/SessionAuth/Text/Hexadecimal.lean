import SessionAuth.Text.Utf8

/-!
# Hexadecimal digits

Numbers as a fixed count of lower-case hexadecimal digits, and the reading of digits in either
case. Bytes are written with two digits each.
-/

namespace SessionAuth.Text.Hexadecimal

/-- The lower-case digit of a number below sixteen. -/
def digit (n : Nat) : Char := Char.ofNat (if n < 10 then 48 + n else 87 + n)

/-- The value of a digit, in either case. -/
def digitValue? (c : Char) : Option Nat :=
  let n := c.toNat
  if 48 ≤ n ∧ n ≤ 57 then some (n - 48)
  else if 97 ≤ n ∧ n ≤ 102 then some (n - 87)
  else if 65 ≤ n ∧ n ≤ 70 then some (n - 55)
  else none

/-- The last `count` digits of a number. -/
def digits : (count : Nat) → Nat → List Char
  | 0, _ => []
  | count + 1, n => digits count (n / 16) ++ [digit (n % 16)]

/-- The number that digits stand for; no digit stands for zero. -/
def value? (cs : List Char) : Option Nat :=
  cs.foldlM (fun n c => (digitValue? c).map (n * 16 + ·)) 0

/-- Bytes, two digits each. -/
def ofBytes (bytes : Bytes) : String :=
  String.ofList (bytes.flatMap fun b => digits 2 b.toNat)

/-- The bytes that pairs of digits stand for. -/
def toBytes? : List Char → Option Bytes
  | [] => some []
  | a :: b :: rest => do
    let n ← value? [a, b]
    return UInt8.ofNat n :: (← toBytes? rest)
  | [_] => none

end SessionAuth.Text.Hexadecimal
