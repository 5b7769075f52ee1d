import SessionAuth.Text.Decimal
import SessionAuth.Text.Split
import SessionAuth.Text.Utf8

/-!
# Time stamps

A stamp is date and time in digits with nothing between them, then a `Z`. A short stamp leaves out
the century; a long one may have a fraction of a second and a sign before the year.
-/

namespace SessionAuth.Stamp

/-! ### The calendar -/

/-- A year with a leap day. -/
def isLeap (year : Nat) : Bool := year % 4 == 0 && (year % 100 != 0 || year % 400 == 0)

/-- The days of each month. -/
def monthLengths (year : Nat) : List Nat :=
  [31, if isLeap year then 29 else 28, 31, 30, 31, 30, 31, 31, 30, 31, 30, 31]

/-- The day is one of the month and year. -/
def isDate (year month day : Nat) : Bool :=
  1 ≤ month && 1 ≤ day && ((monthLengths year)[month - 1]?).any (day ≤ ·)

/-- The time is one of a day without leap seconds. -/
def isTime (hour minute second : Nat) : Bool := hour < 24 && minute < 60 && second < 60

/-! ### Reading -/

/-- Takes a number of exactly so many digits. -/
def number? (count : Nat) (cs : List Char) : Option (Nat × List Char) := do
  guard (count ≤ cs.length)
  return (← Text.Decimal.value? (cs.take count), cs.drop count)

/-- Takes date and time, from the year down to the second. -/
def skipMoment? (cs : List Char) : Option (List Char) := do
  let (year, cs) ← number? 4 cs
  let (month, cs) ← number? 2 cs
  let (day, cs) ← number? 2 cs
  let (hour, cs) ← number? 2 cs
  let (minute, cs) ← number? 2 cs
  let (second, cs) ← number? 2 cs
  guard (isDate year month day ∧ isTime hour minute second)
  return cs

/-- A short stamp. Years from 50 on belong to the twentieth century, those before to the next. -/
def isShort (cs : List Char) : Bool :=
  match number? 2 cs with
  | some (year, _) =>
    let century := if 50 ≤ year then "19" else "20"
    skipMoment? (century.toList ++ cs) = some ['Z']
  | none => false

/-- The bytes of a long stamp with all digits that its fraction may need. -/
def fullLength : Nat := 25

/-- A long stamp with its fraction, which is filled up with zeros. The places to fill in are counted
in bytes and may lie within a character; then there is no such stamp. -/
def complete? (cs : List Char) : Option (List Char) := do
  let cs ← if cs.contains '.' then some cs
    else (Text.cutAt? 14 cs).map fun (front, back) => front ++ '.' :: back
  let length := Text.byteLength (String.ofList cs)
  if fullLength ≤ length then return cs
  else
    let (front, back) ← Text.cutAt? (length - 1) cs
    return front ++ List.replicate (fullLength - length) '0' ++ back

/-- A long stamp with its fraction. -/
def isComplete (cs : List Char) : Bool :=
  let unsigned := if cs.head? = some '+' ∨ cs.head? = some '-' then cs.drop 1 else cs
  match skipMoment? unsigned with
  | some ('.' :: d :: rest) =>
    Text.Decimal.isDigit d && rest.dropWhile Text.Decimal.isDigit = ['Z']
  | _ => false

end SessionAuth.Stamp
