import SessionAuth.Json.Reader

/-!
# Numbers in JSON

A number without fraction and exponent is an integer if 64 bits hold it, as an unsigned number or,
after a minus sign, as a negative one. All others are floating point numbers, of which the program
only needs to know that they are in range.
-/

namespace SessionAuth.Json

/-- An integer that fits 64 bits, or a floating point number. -/
inductive Number where
  | integer (n : Int)
  | real
deriving DecidableEq, Repr

/-! ### Range -/

/-- The nearest number with at most 53 significant bits, of two the even one. -/
def roundTo53 (n : Nat) : Nat :=
  let spare := Nat.log2 n - 52
  let unit := Nat.pow 2 spare
  let low := n / unit
  let rest := 2 * (n % unit)
  (if rest > unit ∨ (rest = unit ∧ low % 2 = 1) then low + 1 else low) * unit

/-- Whether a significand times a power of ten is too large for a floating point number of 64 bits,
when both factors are rounded first. -/
def isTooLarge (significand : Nat) (exponent : Int) : Bool :=
  significand ≠ 0 && (exponent > 308 ||
    exponent ≥ 0 &&
      roundTo53 significand * roundTo53 (Nat.pow 10 exponent.toNat) ≥
        Nat.pow 2 1024 - Nat.pow 2 970)

/-- Appends digits to a significand as long as it fits 64 bits. Gives it and the number of digits
appended. -/
def absorb : (significand : Nat) → (count : Nat) → Bytes → Nat × Nat
  | significand, count, [] => (significand, count)
  | significand, count, d :: ds =>
    let longer := 10 * significand + digitValue d
    if longer < UInt64.size then absorb longer (count + 1) ds else (significand, count)

/-! ### Parts of a number -/

/-- Reads the floating point number with the given significand and exponent if it is in range. -/
def scaled (significand : Nat) (exponent : Int) : Reader Number :=
  if isTooLarge significand exponent then throw .malformed else return .real

/-- The longest exponent that is added up. -/
def exponentLimit : Nat := 2147483647

/-- Adds up the digits of an exponent. The digits behind the limit are left. -/
def exponentFrom : (n : Nat) → Bytes → Option Nat × Bytes
  | n, [] => (some n, [])
  | n, d :: ds =>
    if isDigit d then
      let longer := 10 * n + digitValue d
      if longer ≤ exponentLimit then exponentFrom longer ds else (none, ds)
    else (some n, d :: ds)

/-- Looks at the next byte, which must be a digit. Any other one is taken. -/
def digitAhead : Reader UInt8 := do
  match ← peekRaw with
  | none => throw .truncated
  | some d =>
    if isDigit d then return d
    else
      advance
      throw .malformed

/-- Takes the sign of an exponent if there is one, and tells whether it is a minus. -/
def powerSign : Reader Bool := do
  let mark ← peekRaw
  if mark = some (code '+') ∨ mark = some (code '-') then advance
  return mark = some (code '-')

/-- Reads an exponent from its letter on. -/
def exponentPart (significand : Nat) (exponent : Int) : Reader Number := do
  advance
  let isNegative ← powerSign
  let _ ← digitAhead
  match ← Reader.ofFunction fun input => let (n, rest) := exponentFrom 0 input; (.ok n, rest) with
  | some n => scaled significand (if isNegative then exponent - n else exponent + n)
  | none =>
    if significand ≠ 0 ∧ ¬isNegative then throw .malformed
    else
      let _ ← digits
      return .real

/-- Whether a byte starts an exponent. -/
def isExponentMark (b : Option UInt8) : Bool := b = some (code 'e') || b = some (code 'E')

/-- Reads an exponent if there is one. -/
def exponentOrEnd (significand : Nat) (exponent : Int) : Reader Number := do
  if isExponentMark (← peekRaw) then exponentPart significand exponent
  else scaled significand exponent

/-- Reads a fraction from its point on. -/
def fractionPart (significand : Nat) (exponent : Int) : Reader Number := do
  advance
  let ds ← digits
  if ds = [] then
    match ← peekRaw with
    | none => throw .truncated
    | some _ => throw .malformed
  else
    let (significand, count) := absorb significand 0 ds
    exponentOrEnd significand (exponent - count)

/-- The integer with the given sign, if 64 bits hold it. There is no negative zero. -/
def signed? (isNegative : Bool) (n : Nat) : Option Int :=
  if isNegative then (if 0 < n ∧ n ≤ Nat.pow 2 63 then some (-n) else none)
  else if n < UInt64.size then some n
  else none

/-- Reads what is behind the digits before the point. -/
def behindWhole (isNegative : Bool) (significand : Nat) (exponent : Int) : Reader Number := do
  let follower ← peekRaw
  if follower = some (code '.') then fractionPart significand exponent
  else if isExponentMark follower then exponentPart significand exponent
  else
    match if exponent = 0 then signed? isNegative significand else none with
    | some n => return .integer n
    | none => scaled significand exponent

/-- Takes the minus sign of a number if there is one, and tells whether there is. -/
def minusSign : Reader Bool := do
  let mark ← peekRaw
  if mark = some (code '-') then advance
  return mark = some (code '-')

/-- Reads a number. -/
def number : Reader Number := do
  let isNegative ← minusSign
  let first ← digitAhead
  let ds ← digits
  if first = code '0' ∧ 1 < ds.length then throw .malformed
  else
    let (significand, count) := absorb 0 0 ds
    behindWhole isNegative significand (ds.length - count)

/-! ### Passing over -/

/-- Passes over the digits before the point. A zero in front stands alone. -/
def skipWhole : Reader Unit := do
  let first ← peekRaw
  let ds ← digits
  if ds = [] ∨ first = some (code '0') ∧ 1 < ds.length then throw .malformed

/-- Passes over one digit or more. -/
def skipDigits : Reader Unit := do
  if (← digits) = [] then throw .malformed

/-- Passes over a fraction if there is one. -/
def skipFraction : Reader Unit := do
  if (← peekRaw) = some (code '.') then
    advance
    skipDigits

/-- Passes over an exponent if there is one. -/
def skipPower : Reader Unit := do
  if isExponentMark (← peekRaw) then
    advance
    let _ ← powerSign
    skipDigits

/-- Passes over a number without looking at its size. -/
def skipNumber : Reader Unit := do
  let _ ← minusSign
  skipWhole
  skipFraction
  skipPower

end SessionAuth.Json
