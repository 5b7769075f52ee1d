import SessionAuth.Text.CaseFold
import SessionAuth.Text.Direction
import SessionAuth.Text.Punycode

/-!
# Domain names

A domain name is a list of labels with points between them. Names are compared in a form of their
own, in which letters have one case and one character stands for all that are compatible with it; a
label in that form may be written in Punycode. Only characters that are seen occur in it, apart from
joiners where these make a difference. In a name with characters from the right each label keeps its
order.
-/

namespace SessionAuth.Domain

/-- Characters that do not count. -/
def ignored : CodeRanges :=
  [(0xad, 0xad), (0x34f, 0x34f), (0x115f, 0x1160), (0x17b4, 0x17b5), (0x180b, 0x180f),
   (0x200b, 0x200b), (0x2060, 0x2064), (0x206a, 0x206f), (0x3164, 0x3164), (0xfe00, 0xfe0f),
   (0xfeff, 0xfeff), (0xffa0, 0xffa0), (0x1bca0, 0x1bca3), (0x1d173, 0x1d17a), (0xe0100, 0xe01ef)]

/-- The full stops that divide labels besides the usual one. -/
def fullStops : List Char := ['\u3002', '\uFF0E', '\uFF61']

/-- Characters that belong to no name although they are seen. -/
def excluded : CodeRanges :=
  [(0x2024, 0x2026), (0x2488, 0x249b), (0x2ff0, 0x2fff), (0x31ef, 0x31ef), (0x33c2, 0x33c2),
   (0x33c7, 0x33c7), (0x33d8, 0x33d8), (0xfe12, 0xfe12), (0xfe19, 0xfe19), (0xfe30, 0xfe30),
   (0xfe52, 0xfe52), (0xfffc, 0xfffd), (0x1f100, 0x1f100)]

/-- The characters of the usual set that no name holds: those that divide a URL. Controls and the
space are not among them. -/
def dividers : List Char := "%#/:<>?@[\\]^|".toList

/-- The combining class of marks that suppress a vowel. -/
def virama : Nat := 9

/-- The character may occur in a name in its form for comparison. -/
def isAllowed (c : Char) : Bool :=
  Text.isJoiner c || !(Text.unprintable.contains c || dividers.contains c)

/-- Characters that stand for themselves whatever else they are compatible with: joiners, and the
sigma at the end of a word. -/
def isKept (c : Char) : Bool := Text.isJoiner c || c = 'ς'

/-- The normal form of a text. -/
def composed (cs : List Char) : List Char :=
  (Text.Compatibility.normalize (String.ofList cs)).toList

/-- What a character becomes, unless it belongs to no name. -/
def mapChar? (c : Char) : Option (List Char) :=
  if ignored.contains c then some []
  else if fullStops.contains c then some ['.']
  else if isKept c then some [c]
  else if excluded.contains c || Text.unprintable.contains c then none
  else
    let mapped := composed ((Text.Compatibility.decomposeChar c).flatMap Text.foldChar)
    if mapped.all isAllowed then some mapped else none

/-- The form of a text for comparison. -/
def map? (cs : List Char) : Option (List Char) := do
  let parts ← cs.mapM mapChar?
  return composed parts.flatten

/-- A joiner follows a mark that suppresses a vowel, or it keeps letters apart that would be joined.
The characters before it are given last first. -/
def isJoined (before : List Char) (joiner : Char) (after : List Char) : Bool :=
  (before.head?).any (Text.Compatibility.combiningClass · = virama) ||
    joiner = Text.nonJoiner && Text.areJoining before after

/-- Every joiner makes a difference. -/
def areJoined : (before : List Char) → List Char → Bool
  | _, [] => true
  | before, c :: cs =>
    (!Text.isJoiner c || isJoined before c cs) && areJoined (c :: before) cs

/-- The beginning of a label in Punycode. -/
def encodedStart : List Char := "xn--".toList

/-- A label that does not stand for another one. -/
def isPlainLabel (label : List Char) : Bool :=
  !(label.head?).any Text.isMark && areJoined [] label

/-- The label that one in Punycode stands for: one in the form for comparison that could not be
written otherwise. -/
def encodedLabel? (code : List Char) : Option (List Char) :=
  (Text.Punycode.decode? code).filter fun label =>
    label.any (0x80 ≤ ·.toNat) && map? label = some label && isPlainLabel label

/-- What a label of a name in its form for comparison says. -/
def label? (label : List Char) : Option (List Char) :=
  if encodedStart.isPrefixOf label then encodedLabel? (label.drop encodedStart.length)
  else if isPlainLabel label then some label
  else none

/-- Each of the labels keeps its order, which matters if there are characters from the right. -/
def areOrdered (labels : List (List Char)) : Bool :=
  let directions := labels.map (·.map Text.Direction.ofChar)
  !directions.any (·.any Text.Direction.isRight) || directions.all Text.Direction.areOrdered

/-- The form for comparison of a name, if it is one. Labels may be empty. -/
def ofText? (cs : List Char) : Option (List Char) := do
  let name ← map? cs
  let labels ← (Text.split '.' name).mapM label?
  guard (areOrdered labels)
  return name

end SessionAuth.Domain
