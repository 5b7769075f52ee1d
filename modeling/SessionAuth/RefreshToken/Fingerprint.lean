import SessionAuth.Bytes.ConstantTime
import SessionAuth.Problem
import SessionAuth.Text.Blank

/-!
# Fingerprints

A fingerprint names the device that a session belongs to. It is whatever text the device sends, kept
as it is and only ever compared.
-/

namespace SessionAuth

/-- The name of a device. -/
structure Fingerprint where
  text : String
deriving DecidableEq, Inhabited, Repr

namespace Fingerprint

/-- The most characters of a fingerprint. -/
def maxLength : Nat := 256

/-- Why a text is no fingerprint. -/
inductive Error where
  | empty
  | tooLong
deriving DecidableEq, Repr

/-- The words of an error. -/
def Error.message : Error → String
  | empty => "Fingerprint cannot be empty"
  | tooLong => "Fingerprint must be at most " ++ toString maxLength ++ " characters"

/-- The problem that an error is. -/
def Error.problem (e : Error) : Problem := ⟨.badRequest, e.message, none⟩

/-- The fingerprint that a text is: any text with something to see in it, unless it is too long. -/
def ofText (s : String) : Except Error Fingerprint :=
  if Text.isBlankText s then .error .empty
  else if maxLength < s.length then .error .tooLong
  else .ok ⟨s⟩

/-- Whether two fingerprints are the same, found out in a time that does not depend on where they
differ. -/
def agrees (f g : Fingerprint) : Bool :=
  Bytes.equalInConstantTime (Text.utf8 f.text) (Text.utf8 g.text)

/-- What a log may show: the length alone. -/
def describe (f : Fingerprint) : String := "Fingerprint(" ++ toString f.text.length ++ " chars)"

end Fingerprint

end SessionAuth
