import SessionAuth.Bytes.Base64
import SessionAuth.Text.Blank
import SessionAuth.Text.Split

/-!
# PEM

A text form for binary content: Base64 between a line with `BEGIN` and one with `END`, both with
the same label. Headers may come before the content, and other text around the whole.
-/

namespace SessionAuth.Key

/-- Labelled content. -/
structure Pem where
  label : String
  content : Bytes

namespace Pem

/-- Looks for a marker of which `found` bytes have been met already. A byte that breaks the marker
is not taken for the first one of another. `taken` holds what was passed, last first. -/
def cutFrom (marker : Bytes) : (found : Nat) → (taken : Bytes) → Bytes → Option (Bytes × Bytes)
  | _, _, [] => none
  | found, taken, b :: rest =>
    let found := if marker[found]? = some b then found + 1 else 0
    if found = marker.length then some (((b :: taken).drop found).reverse, rest)
    else cutFrom marker found (b :: taken) rest

/-- What stands before and behind a marker. -/
def cut? (marker : String) (input : Bytes) : Option (Bytes × Bytes) :=
  cutFrom (Text.utf8 marker) 0 [] input

/-- Drops spaces, tabs and line ends. -/
def skipBlanks (input : Bytes) : Bytes :=
  input.dropWhile fun b => b == 0x20 || b == 0x0a || b == 0x0d || b == 0x09

/-- Headers and content of a body; an empty line stands between them. -/
def headersAndContent (body : Bytes) : Bytes × Bytes :=
  match (cut? "\n\n" body).or (cut? "\r\n\r\n" body) with
  | some parts => parts
  | none => ([], body)

/-- Every line of the headers has a name and a value. -/
def areHeaders (headers : String) : Bool :=
  let lines := Text.split '\n' headers.toList
  let lines := if lines.getLast? = some [] then lines.dropLast else lines
  lines.all (·.contains ':')

/-- Reads the first labelled content of a text. -/
def parse? (input : Bytes) : Option Pem := do
  let (_, rest) ← cut? "-----BEGIN " input
  let (opening, rest) ← cut? "-----" rest
  let (body, rest) ← cut? "-----END " (skipBlanks rest)
  let (closing, _) ← cut? "-----" rest
  let label ← Text.ofUtf8? opening
  guard (label ≠ "" ∧ closing = opening)
  let (headers, content) := headersAndContent body
  let digits := (← Text.ofUtf8? content).toList.filter fun c => !Text.isBlank c
  let content ← Base64.standard.decodeList? digits
  guard (areHeaders (← Text.ofUtf8? headers))
  return ⟨label, content⟩

end Pem

end SessionAuth.Key
