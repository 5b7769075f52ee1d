import SessionAuth.Http.Header

/-!
# Media types

The media type of a body is `type/subtype`, perhaps with parameters. A body is JSON if its subtype
is, or if a suffix after `+` says so. Names are not case-sensitive.
-/

namespace SessionAuth.Http.MediaType

/-- A character of a quoted value. -/
def isQuotable (c : Char) : Bool := 0x20 ≤ c.toNat && c.toNat ≠ 0x7f

/-- What follows a value in quotes and its opening quote. A value is never empty, so a quote at its
start is part of it. -/
def afterQuoted? : List Char → Option (List Char)
  | [] => none
  | first :: cs => do
    let value := cs.takeWhile (· ≠ '"')
    guard (isQuotable first ∧ value.all isQuotable)
    match cs.drop value.length with
    | _ :: rest =>
      match rest.dropWhile (· = ' ') with
      | [] => some []
      | c :: next => if c = ';' then some next else none
    | [] => none

/-- What follows a value and its semicolon. -/
def afterValue? : List Char → Option (List Char)
  | '"' :: cs => afterQuoted? cs
  | cs =>
    let value := cs.takeWhile Header.isNameChar
    match cs.drop value.length with
    | [] => some []
    | c :: next => if c = ';' ∧ value ≠ [] then some next else none

/-- What follows a parameter `name=value`. -/
def afterParameter? (cs : List Char) : Option (List Char) :=
  let name := cs.takeWhile Header.isNameChar
  match cs.drop name.length with
  | '=' :: value => if name = [] then none else afterValue? value
  | _ => none

/-- Whether a text holds parameters only, at most as many as said. -/
def areParameters : (most : Nat) → List Char → Bool
  | most, cs =>
    match cs.dropWhile (· = ' ') with
    | [] => true
    | c :: rest =>
      match most with
      | 0 => false
      | most + 1 => (afterParameter? (c :: rest)).any (areParameters most)

/-- Whether a subtype stands for JSON: what precedes the last `+`, or what follows it. -/
def isJsonSubtype (cs : List Char) : Bool :=
  let suffix := (cs.drop 1).reverse.takeWhile (· ≠ '+')
  if suffix.length < (cs.drop 1).length then
    suffix.reverse = "json".toList || cs.take (cs.length - suffix.length - 1) = "json".toList
  else cs = "json".toList

/-- Whether a text is the media type of JSON. -/
def isJson (s : String) : Bool :=
  let cs := s.toList.map Char.toLower
  let kind := cs.takeWhile (· ≠ '/')
  let rest := cs.drop (kind.length + 1)
  let subtype := rest.takeWhile Header.isNameChar
  kind = "application".toList && isJsonSubtype subtype &&
    match rest.drop subtype.length with
    | [] => true
    | c :: parameters => c = ';' && areParameters s.length parameters

end SessionAuth.Http.MediaType
