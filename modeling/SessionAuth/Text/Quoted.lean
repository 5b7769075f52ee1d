import SessionAuth.Text.Printable

/-!
# Quoted texts

Diagnostic output shows a text between double quotes. Quotes, backslashes and the usual controls
get a short escape, other characters that would not be seen on their own the escape `\u{…}`.
-/

namespace SessionAuth.Text

/-- A code point in the fewest lower-case hexadecimal digits. -/
def hexCode (c : Char) : String := String.ofList (Nat.toDigits 16 c.toNat)

/-- How one character is shown between the quotes. -/
def quoteChar (c : Char) : String :=
  if c = '\x00' then "\\0"
  else if c = '\t' then "\\t"
  else if c = '\r' then "\\r"
  else if c = '\n' then "\\n"
  else if c = '"' then "\\\""
  else if c = '\\' then "\\\\"
  else if isPrintable c then c.toString
  else "\\u\x7b" ++ hexCode c ++ "\x7d"

/-- The text between quotes, with what would not be seen escaped. -/
def quote (s : String) : String := "\"" ++ String.join (s.toList.map quoteChar) ++ "\""

end SessionAuth.Text
