import Std.Data.HashMap
import SessionAuth.Text.Compatibility.Table
import SessionAuth.Text.Split

/-!
# Compatibility normalisation

Normalisation form KC: every character is decomposed for compatibility, the marks after a starter
are put in the order of their combining classes, and starters are composed again with the marks
that follow them. Texts that look alike and mean the same thus become equal.
-/

namespace SessionAuth.Text.Compatibility

/-- The number of hexadecimal digits. -/
def hexadecimal (digits : List Char) : Nat :=
  digits.foldl (fun n c => n * 16 + if c.isDigit then c.toNat - 48 else c.toNat - 87) 0

/-- The numbers of each entry in a line of a packed table: entries end in semicolons, numbers are in
hexadecimal digits with blanks between them. -/
def entriesOf (line : String) : List (List Nat) :=
  (split ';' line.toList).map fun entry =>
    ((split ' ' entry).filter fun digits => !digits.isEmpty).map hexadecimal

/-- The entries of a packed table. -/
def entries (table : List String) : List (List Nat) := table.flatMap entriesOf

/-- Maps the first number of an entry to the characters of the others. -/
def addDecomposition (entry : List Nat) (map : Std.HashMap Nat (List Char)) :
    Std.HashMap Nat (List Char) :=
  match entry with
  | n :: image => map.insert n (image.map Char.ofNat)
  | [] => map

/-- The decomposition of each code point that has one in the table. -/
def decompositions : Std.HashMap Nat (List Char) :=
  (entries decompositionTable).foldr addDecomposition ∅

/-- The primary composite of two code points. -/
def compositions : Std.HashMap (Nat × Nat) Char :=
  (entries compositionTable).foldr (fun entry map =>
    match entry with
    | [first, second, whole] => map.insert (first, second) (Char.ofNat whole)
    | _ => map) ∅

/-- The combining class of each mark. -/
def combiningClasses : Std.HashMap Nat Nat :=
  (entries combiningClassTable).foldr (fun entry map =>
    match entry with
    | [first, last, value] =>
      (List.range' first (last + 1 - first)).foldr (fun n map => map.insert n value) map
    | _ => map) ∅

/-- The first code point that has a decomposition. -/
def firstDecomposed : Nat := 0xa0

/-- The first code point of a mark. None before it has another combining class than zero, or
composes with one before it. -/
def firstMark : Nat := 0x300

/-- The combining class of a character; starters have class zero. -/
def combiningClass (c : Char) : Nat :=
  if c.toNat < firstMark then 0 else combiningClasses.getD c.toNat 0

/-! ### Hangul syllables

A syllable is one of 19 leading consonants with one of 21 vowels and one of 27 trailing consonants
or none, so that its decomposition is arithmetic. -/

def firstSyllable : Nat := 0xac00
def firstLeading : Nat := 0x1100
def firstVowel : Nat := 0x1161
/-- One before the first trailing consonant: the offset zero stands for none. -/
def beforeTrailing : Nat := 0x11a7

/-- The consonants and the vowel of a syllable. -/
def hangulParts (c : Char) : Option (List Char) :=
  let index := c.toNat - firstSyllable
  if c.toNat < firstSyllable || 19 * 21 * 28 ≤ index then none
  else
    let leading := Char.ofNat (firstLeading + index / (21 * 28))
    let vowel := Char.ofNat (firstVowel + index % (21 * 28) / 28)
    some (if index % 28 = 0 then [leading, vowel]
      else [leading, vowel, Char.ofNat (beforeTrailing + index % 28)])

/-- The syllable of a leading consonant and a vowel, or of an open syllable and a trailing
consonant. -/
def hangulComposite (a b : Char) : Option Char :=
  let leading := a.toNat - firstLeading
  let vowel := b.toNat - firstVowel
  let index := a.toNat - firstSyllable
  let trailing := b.toNat - beforeTrailing
  if firstLeading ≤ a.toNat && leading < 19 && firstVowel ≤ b.toNat && vowel < 21 then
    some (Char.ofNat (firstSyllable + (leading * 21 + vowel) * 28))
  else if firstSyllable ≤ a.toNat && index < 19 * 21 * 28 && index % 28 == 0
      && beforeTrailing < b.toNat && trailing < 28 then
    some (Char.ofNat (a.toNat + trailing))
  else none

/-! ### The three steps -/

/-- The full compatibility decomposition of one character. -/
def decomposeChar (c : Char) : List Char :=
  if c.toNat < firstDecomposed then [c]
  else
    match hangulParts c with
    | some parts => parts
    | none => decompositions.getD c.toNat [c]

/-- Marks in the order of their classes; marks of one class keep their order. -/
def sortMarks (marks : List Char) : List Char :=
  marks.mergeSort fun a b => combiningClass a ≤ combiningClass b

/-- Puts the marks after each starter in order. `marks` are those since the last starter, last
first. -/
def orderAfter (marks : List Char) : List Char → List Char
  | [] => sortMarks marks.reverse
  | c :: rest =>
    if combiningClass c = 0 then sortMarks marks.reverse ++ c :: orderAfter [] rest
    else orderAfter (c :: marks) rest

/-- The composite of two characters. -/
def composite (a b : Char) : Option Char :=
  if b.toNat < firstMark then none
  else
    match hangulComposite a b with
    | some c => some c
    | none => compositions[(a.toNat, b.toNat)]?

/-- A mark between a starter and `c` keeps them apart unless its class is smaller. -/
def isBlocked (marks : List Char) (c : Char) : Bool :=
  match marks with
  | [] => false
  | last :: _ => combiningClass c ≤ combiningClass last

/-- Composes a starter with what follows it. `marks` are the characters since the starter that did
not compose, last first. -/
def composeAfter (starter : Char) (marks : List Char) : List Char → List Char
  | [] => starter :: marks.reverse
  | c :: rest =>
    match if isBlocked marks c then none else composite starter c with
    | some whole => composeAfter whole marks rest
    | none =>
      if combiningClass c = 0 then starter :: marks.reverse ++ composeAfter c [] rest
      else composeAfter starter (c :: marks) rest

/-- Composes from the first starter on; marks before it stay as they are. -/
def compose : List Char → List Char
  | [] => []
  | c :: rest => if combiningClass c = 0 then composeAfter c [] rest else c :: compose rest

/-- The normal form of a text. -/
def normalize (s : String) : String :=
  String.ofList (compose (orderAfter [] (s.toList.flatMap decomposeChar)))

end SessionAuth.Text.Compatibility
