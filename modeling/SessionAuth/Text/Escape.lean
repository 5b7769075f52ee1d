import SessionAuth.Text.Hexadecimal
import SessionAuth.Text.Utf8

/-!
# Escapes in URLs

A byte may be written as a percent sign and two hexadecimal digits. A percent sign without them
stands for itself.
-/

namespace SessionAuth.Text

/-- The bytes that a text with escapes such as `%20` stands for. -/
def unescape : List Char → Bytes
  | [] => []
  | '%' :: a :: b :: cs =>
    match Hexadecimal.digitValue? a, Hexadecimal.digitValue? b with
    | some high, some low => UInt8.ofNat (16 * high + low) :: unescape cs
    | _, _ => UInt8.ofNat '%'.toNat :: unescape (a :: b :: cs)
  | c :: cs => String.utf8EncodeChar c ++ unescape cs

/-- The text that one with escapes stands for, if it is one. -/
def unescape? (cs : List Char) : Option String := ofUtf8? (unescape cs)

end SessionAuth.Text
