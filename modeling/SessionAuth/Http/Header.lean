import SessionAuth.Text.Blank
import SessionAuth.Text.Utf8

/-!
# Header fields

A header field has a name of token characters, which is not case-sensitive, and a value of bytes.
Only values of visible ASCII characters, spaces and tabs can be read as text.
-/

namespace SessionAuth.Http

/-- A header field; the name is in lower case. -/
structure Header where
  name : String
  value : Bytes
deriving DecidableEq

namespace Header

/-- The characters of a name besides letters and digits. -/
def nameMarks : List Char := "!#$%&'*+-.^_`|~".toList

/-- A character of a name. -/
def isNameChar (c : Char) : Bool := c.isAlphanum || nameMarks.contains c

/-- A byte of a value: not a control, but tabs are allowed. -/
def isValueByte (b : UInt8) : Bool := 0x20 ≤ b && b != 0x7f || b == 0x09

/-- A byte of a value that can be read as text. -/
def isTextByte (b : UInt8) : Bool := isValueByte b && b < 0x80

/-- The value that a text is, if it may be one. -/
def value? (s : String) : Option Bytes :=
  let bytes := Text.utf8 s
  if bytes.all isValueByte then some bytes else none

/-- The field with a name and a value, if they may be such. -/
def of? (name value : String) : Option Header :=
  if name ≠ "" ∧ name.toList.all isNameChar then (value? value).map (⟨name.toLower, ·⟩) else none

/-- The value as text. -/
def text? (h : Header) : Option String :=
  if h.value.all isTextByte then Text.ofUtf8? h.value else none

/-- The fields with a name, in order. -/
def named (name : String) (headers : List Header) : List Header := headers.filter (·.name = name)

/-- The first field with a name. -/
def first? (name : String) (headers : List Header) : Option Header :=
  headers.find? (·.name = name)

/-! ### Bearer tokens -/

/-- What stands before a bearer token, in lower case. -/
def bearerScheme : List Char := "bearer ".toList

/-- The token in the first field for authorization: what follows the scheme, which is not
case-sensitive, without blanks around it, if anything. -/
def bearerToken? (headers : List Header) : Option String := do
  let cs := (← (← first? "authorization" headers).text?).toList
  guard ((cs.take 7).map Char.toLower = bearerScheme)
  let token := Text.trimList (cs.drop 7)
  guard (token ≠ [])
  return String.ofList token

end Header

end SessionAuth.Http
