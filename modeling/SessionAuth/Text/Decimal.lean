/-!
# Decimal numbers

Natural numbers in decimal digits, and the form of real ones.
-/

namespace SessionAuth.Text.Decimal

/-- A decimal digit. -/
def isDigit (c : Char) : Bool := '0' ≤ c && c ≤ '9'

/-- The number that digits stand for. -/
def ofDigits (cs : List Char) : Nat := cs.foldl (fun n c => 10 * n + (c.toNat - '0'.toNat)) 0

/-- The number that some digits and nothing else stand for. -/
def value? (cs : List Char) : Option Nat :=
  if cs ≠ [] ∧ cs.all isDigit then some (ofDigits cs) else none

/-- The number whose shortest digits these are. -/
def canonical? (cs : List Char) : Option Nat :=
  if cs.head? = some '0' ∧ cs ≠ ['0'] then none else value? cs

/-- Why a text is no number below a bound. -/
inductive Error where
  | digit
  | overflow
deriving DecidableEq, Repr

/-- The words of an error. -/
def Error.message : Error → String
  | digit => "invalid digit found in string"
  | overflow => "number too large to fit in target type"

/-- The number below a bound that is written by further digits behind some. They are read from left
to right, so that the first fault counts: a character that is no digit, or digits up to there that
are too many. -/
def append (bound : Nat) : (n : Nat) → List Char → Except Error Nat
  | n, [] => .ok n
  | n, c :: cs =>
    let next := 10 * n + (c.toNat - '0'.toNat)
    if !isDigit c then .error .digit
    else if next < bound then append bound next cs
    else .error .overflow

/-- The number below a bound that digits stand for, after a plus sign or none. -/
def ofText (bound : Nat) (cs : List Char) : Except Error Nat :=
  match if cs.head? = some '+' then cs.drop 1 else cs with
  | [] => .error .digit
  | digits => append bound 0 digits

/-! ### Real numbers -/

/-- An exponent, or nothing. -/
def isExponent : List Char → Bool
  | [] => true
  | mark :: cs =>
    let digits := if cs.head? = some '+' ∨ cs.head? = some '-' then cs.drop 1 else cs
    (mark = 'e' || mark = 'E') && digits ≠ [] && digits.all isDigit

/-- Digits, with a point among or around them or without, and perhaps an exponent. -/
def isUnsigned (cs : List Char) : Bool :=
  let whole := cs.takeWhile isDigit
  let rest := cs.dropWhile isDigit
  let fraction := if rest.head? = some '.' then (rest.drop 1).takeWhile isDigit else []
  let rest := if rest.head? = some '.' then (rest.drop 1).dropWhile isDigit else rest
  (whole ≠ [] || fraction ≠ []) && isExponent rest

/-- A real number in decimal, or a word for one that has no digits, after a sign or none. -/
def isReal (cs : List Char) : Bool :=
  let unsigned := if cs.head? = some '+' ∨ cs.head? = some '-' then cs.drop 1 else cs
  ["inf", "infinity", "nan"].contains (String.ofList (unsigned.map Char.toLower)) ||
    isUnsigned unsigned

end SessionAuth.Text.Decimal
