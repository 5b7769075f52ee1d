import SessionAuth.Net.UrlHost

/-!
# URLs

A URL has a scheme, and then perhaps an authority: who asks, a host and a port. A path and a query
follow; the parts of a query are names with values.
-/

namespace SessionAuth

/-- The parts of a URL that tell whom to reach and how. -/
structure Url where
  scheme : String
  user : List Char := []
  host : Option (List Char) := none
  port : Option Nat := none
  path : List (List Char) := []
  query : List Char := []
deriving DecidableEq, Repr

namespace Url

/-- The names and values of a query. Bytes that form no character are replaced. -/
def parameters (query : List Char) : List (String × String) :=
  let read := fun cs => String.ofList
    (Text.ofUtf8Lossy (Text.unescape (cs.map fun c => if c = '+' then ' ' else c)))
  ((Text.split '&' query).filter (!·.isEmpty)).map fun pair =>
    match Text.splitFirst? '=' pair with
    | some (name, value) => (read name, read value)
    | none => (read pair, "")

/-! ### Schemes -/

/-- How URLs of a scheme are read. -/
inductive Kind where
  | site
  | file
  | other
deriving DecidableEq, Repr

/-- The schemes whose hosts are sites. -/
def siteSchemes : List String := ["http", "https", "ws", "wss", "ftp"]

/-- The kind of a scheme. -/
def Kind.ofScheme (scheme : String) : Kind :=
  if siteSchemes.contains scheme then site else if scheme = "file" then file else other

/-- A character that divides a path. Sites and files admit backslashes. -/
def Kind.isSlash (kind : Kind) (c : Char) : Bool := c = '/' || kind ≠ .other && c = '\\'

/-- A character of a scheme. -/
def isSchemeChar (c : Char) : Bool := c.isAlphanum || c = '+' || c = '-' || c = '.'

/-! ### Paths -/

/-- A name in a path that stands for its directory. -/
def isHere (name : List Char) : Bool :=
  [".", "%2e"].contains (String.ofList (name.map Char.toLower))

/-- A name in a path that stands for the directory above. -/
def isAbove (name : List Char) : Bool :=
  ["..", "%2e.", ".%2e", "%2e%2e"].contains (String.ofList (name.map Char.toLower))

/-- The names in a path that has been divided, with no steps up and down. -/
def resolve (names : List (List Char)) : List (List Char) :=
  (names.foldl (fun done name =>
    if isAbove name then done.drop 1 else if isHere name then done else name :: done) []).reverse

/-- Cuts a text at the characters that satisfy a condition. -/
def cut (isCut : Char → Bool) (cs : List Char) : List (List Char) :=
  Text.split '/' (cs.map fun c => if isCut c then '/' else c)

/-- Adds path and query, which is the rest but for a fragment. A path that does not begin with a
slash is not divided where no host comes before it. -/
def withPath (url : Url) (kind : Kind) (rest : List Char) : Url :=
  let (path, query) := (Text.splitFirst? '?' (rest.takeWhile (· ≠ '#'))).getD
    (rest.takeWhile (· ≠ '#'), [])
  let isDivided := kind ≠ .other || url.host.isSome || path.head? = some '/'
  { url with path := if isDivided then resolve (cut kind.isSlash path) else [path], query }

/-! ### Authorities -/

/-- The host in front of a port, with the colon and all that follows. Colons in brackets are part of
the host. -/
def cutHost : (isInside : Bool) → List Char → List Char × List Char
  | _, [] => ([], [])
  | isInside, c :: cs =>
    if c = ':' && !isInside then ([], c :: cs)
    else
      let (host, rest) := cutHost (c = '[' || isInside && c ≠ ']') cs
      (c :: host, rest)

/-- Takes a port after a colon, if there is one. A backslash may follow it. -/
def port? : List Char → Option (Option Nat × List Char)
  | ':' :: cs => do
    let digits := cs.takeWhile Text.Decimal.isDigit
    let rest := cs.drop digits.length
    guard ((rest.head?).all (· = '\\') ∧ Text.Decimal.ofDigits digits < UInt16.size)
    return (Text.Decimal.value? digits, rest)
  | rest => some (none, rest)

/-- A host of the kind, which may be left out only where its meaning is open. -/
def Kind.isHost (kind : Kind) (host : List Char) : Bool :=
  if kind = .other then UrlHost.isOpen host else host ≠ [] && UrlHost.isDomain host

/-- Reads an authority with path and query. Who asks, or a port, needs a host; a lone sign for who
asks needs one if anything follows. -/
def ofAuthority? (scheme : String) (kind : Kind) (cs : List Char) : Option Url := do
  let authority := cs.takeWhile fun c => !(kind.isSlash c || c = '?' || c = '#')
  let rest := cs.drop authority.length
  let parts := Text.splitLast? '@' authority
  let (user, site) := parts.getD ([], authority)
  let (host, afterHost) := cutHost false site
  let needsHost := !(user.isEmpty || user = [':']) || !afterHost.isEmpty ||
    parts = some ([], []) && !rest.isEmpty
  guard (kind.isHost host ∧ !(host.isEmpty && needsHost))
  let (port, afterPort) ← port? afterHost
  return withPath { scheme, user, host := some host, port } kind (afterPort ++ rest)

/-- A letter and a colon or bar, which name a drive. -/
def isDrive : List Char → Bool
  | [letter, mark] => letter.isAlpha && (mark = ':' || mark = '|')
  | _ => false

/-- Reads what follows the scheme of a file. A host needs two slashes before it. -/
def ofFile? (scheme : String) (cs : List Char) : Option Url := do
  let url : Url := { scheme }
  match cs with
  | a :: b :: rest =>
    if Kind.file.isSlash a && Kind.file.isSlash b then
      let host := rest.takeWhile fun c => !(Kind.file.isSlash c || c = '?' || c = '#')
      guard (host.isEmpty || isDrive host || UrlHost.isDomain host)
      return withPath url .file (if isDrive host then rest else rest.drop host.length)
    else return withPath url .file cs
  | cs => return withPath url .file cs

/-! ### Reading -/

/-- Drops controls and spaces at both ends, and tabs and ends of lines everywhere. -/
def strip (cs : List Char) : List Char :=
  let isEdge := fun c : Char => c.toNat ≤ 0x20
  (((cs.dropWhile isEdge).reverse.dropWhile isEdge).reverse).filter fun c =>
    c ≠ '\t' && c ≠ '\n' && c ≠ '\r'

/-- Reads a URL. -/
def parse? (s : String) : Option Url := do
  let (name, rest) ← Text.splitFirst? ':' (strip s.toList)
  guard ((name.head?).any Char.isAlpha ∧ name.all isSchemeChar)
  let scheme := String.ofList (name.map Char.toLower)
  match Kind.ofScheme scheme with
  | .site => ofAuthority? scheme .site (rest.dropWhile Kind.site.isSlash)
  | .file => ofFile? scheme rest
  | .other =>
    match rest with
    | '/' :: '/' :: rest => ofAuthority? scheme .other rest
    | rest => return withPath { scheme } .other rest

end Url

end SessionAuth
