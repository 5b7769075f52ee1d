import SessionAuth.Text.LowerCase.Table

/-!
# Lower-casing

Full lower-casing of the Unicode standard without a language. Each capital becomes its small
letter, `İ` becomes two characters, and a capital sigma becomes `ς` at the end of a word and `σ`
elsewhere.
-/

namespace SessionAuth.Text

/-- The character takes part in case distinctions. -/
def isCased (c : Char) : Bool := cased.contains c

/-- Case rules look through the character. -/
def isCaseIgnorable (c : Char) : Bool := caseIgnorable.contains c

/-- The small letter of a code point, or the code point itself. -/
def lowerCode (n : Nat) : Nat :=
  match lowerRuns.find? (·.covers n) with
  | some run => run.small n
  | none => n

/-- What a character becomes where its neighbours do not matter. -/
def lowerChar (c : Char) : List Char :=
  if c = 'İ' then ['i', '\u0307'] else [Char.ofNat (lowerCode c.toNat)]

/-- The first character that case rules do not look through is cased. -/
def meetsCased (cs : List Char) : Bool :=
  match cs.dropWhile isCaseIgnorable with
  | [] => false
  | c :: _ => isCased c

/-- Lower-cases what follows the characters `before`, which are given last first. A sigma ends its
word if a cased letter comes before it and none after it. -/
def lowerAfter (before : List Char) : List Char → List Char
  | [] => []
  | c :: rest =>
    (if c = 'Σ' then [if meetsCased before && !meetsCased rest then 'ς' else 'σ'] else lowerChar c)
      ++ lowerAfter (c :: before) rest

/-- Lower-cases a text. -/
def toLower (s : String) : String := String.ofList (lowerAfter [] s.toList)

end SessionAuth.Text
