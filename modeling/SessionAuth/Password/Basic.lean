import SessionAuth.Password.Error
import SessionAuth.Text.Blank
import SessionAuth.Text.Compatibility
import SessionAuth.Text.Utf8

/-!
# Passwords

A password is a text in compatibility normal form, so that one password typed on two devices is one
text. It has a limited length in characters and no controls but tabs and line feeds.
-/

namespace SessionAuth

/-- A password that obeys the policy. -/
structure Password where
  text : String
deriving DecidableEq

namespace Password

/-- A character that no password holds. -/
def isForbidden (c : Char) : Bool := Text.isControl c && c != '\t' && c != '\n'

/-- The password that a text is. -/
def ofText (raw : String) : Except PolicyError Password :=
  let normal := Text.Compatibility.normalize raw
  if Text.isBlankText normal then .error .blank
  else if normal.length < minLength then .error (.tooShort normal.length)
  else if maxLength < normal.length then .error (.tooLong normal.length)
  else if normal.toList.any isForbidden then .error .controlCharacter
  else .ok ⟨normal⟩

/-- What a log may show: nothing. -/
def describe (_ : Password) : String := "ClearTextPassword(\"[REDACTED]\")"

end Password

end SessionAuth
