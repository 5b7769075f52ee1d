import SessionAuth.Text.CodeRanges

/-!
# Blank characters and controls

`isBlank` is the property White_Space of the Unicode standard and `isControl` its general category
Cc. `trim` drops the blanks at both ends of a text and nothing else.
-/

namespace SessionAuth.Text

/-- The white space of the Unicode standard. -/
def blanks : CodeRanges :=
  [(0x9, 0xd), (0x20, 0x20), (0x85, 0x85), (0xa0, 0xa0), (0x1680, 0x1680), (0x2000, 0x200a),
   (0x2028, 0x2029), (0x202f, 0x202f), (0x205f, 0x205f), (0x3000, 0x3000)]

/-- The character is white space. -/
def isBlank (c : Char) : Bool := blanks.contains c

/-- The character is a control. -/
def isControl (c : Char) : Bool := c.toNat < 0x20 || (0x7f ≤ c.toNat && c.toNat ≤ 0x9f)

/-- Drops the blanks at the end. -/
def trimEnd (cs : List Char) : List Char := (cs.reverse.dropWhile isBlank).reverse

/-- Drops the blanks at both ends. -/
def trimList (cs : List Char) : List Char := trimEnd (cs.dropWhile isBlank)

/-- Drops the blanks at both ends. -/
def trim (s : String) : String := String.ofList (trimList s.toList)

/-- There is nothing but blanks. -/
def isBlankText (s : String) : Bool := s.toList.all isBlank

end SessionAuth.Text
