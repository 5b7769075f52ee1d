/-!
# Splitting texts

`split` cuts a text at every occurrence of a character, `splitFirst?` and `splitLast?` at one.
Joining the parts with the character gives the text back.
-/

namespace SessionAuth.Text

/-- The parts between occurrences of a character; there is always at least one. -/
def split (separator : Char) : List Char → List (List Char)
  | [] => [[]]
  | c :: cs =>
    if c = separator then [] :: split separator cs
    else
      match split separator cs with
      | [] => [[c]]
      | part :: parts => (c :: part) :: parts

/-- The parts around the first occurrence of a character. -/
def splitFirst? (separator : Char) (cs : List Char) : Option (List Char × List Char) :=
  match cs.dropWhile (· ≠ separator) with
  | [] => none
  | _ :: rest => some (cs.takeWhile (· ≠ separator), rest)

/-- The parts around the last occurrence of a character. -/
def splitLast? (separator : Char) (cs : List Char) : Option (List Char × List Char) :=
  (splitFirst? separator cs.reverse).map fun parts => (parts.2.reverse, parts.1.reverse)

end SessionAuth.Text
