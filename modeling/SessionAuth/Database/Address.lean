import SessionAuth.Event
import SessionAuth.Net.Url

/-!
# Addresses of databases

A database is addressed by a URL. Who asks and the database itself are named in it, and its query
sets options of the connection, some of which have values of their own kind. Unknown options are
passed over with a warning.
-/

namespace SessionAuth.Database.Address

/-! ### Options -/

/-- How strictly a connection is secured. -/
def securityModes : List String :=
  ["disable", "allow", "prefer", "require", "verify-ca", "verify-full"]

/-- Whether a text is an address of the Internet Protocol without a port. -/
def isIpAddress (s : String) : Bool :=
  (SocketAddress.v4? s.toList).any (·.2.isEmpty) || (SocketAddress.v6? s.toList).any (·.2.isEmpty)

/-- Whether a text is a natural number below a bound. -/
def isNumber (bound : Nat) (s : String) : Bool := (Text.Decimal.ofText bound s.toList).isOk

/-- Whether an option may have a value. -/
def mayBe (name value : String) : Bool :=
  if name = "sslmode" || name = "ssl-mode" then securityModes.contains value.toLower
  else if name = "statement-cache-capacity" then isNumber UInt64.size value
  else if name = "hostaddr" then isIpAddress value
  else if name = "port" then isNumber UInt16.size value
  else true

/-- The names of options. -/
def names : List String :=
  ["sslmode", "ssl-mode", "sslrootcert", "ssl-root-cert", "ssl-ca", "sslcert", "ssl-cert", "sslkey",
    "ssl-key", "statement-cache-capacity", "host", "hostaddr", "port", "dbname", "user", "password",
    "application_name", "options"]

/-- Whether a name is that of an option, or of one among the options of a server. -/
def isKnown (name : String) : Bool := names.contains name || "options[".isPrefixOf name

/-- What is logged about an unknown option. -/
def warning (name value : String) : Event :=
  { level := .warn, message := "ignoring unrecognized connect parameter",
    fields := [("key", name), ("value", value)] }

/-! ### Reading -/

/-- A host whose name begins with a slash is a file, and then its name is a text. -/
def isHost (host : List Char) : Bool :=
  (Text.unescape host).head? ≠ some 0x2f || (Text.unescape? host).isSome

/-- Whether the parts of a URL are texts that have to be. -/
def isReadable (url : Url) : Bool :=
  url.host.all isHost && (Text.unescape? url.user).isSome &&
    url.path.all fun name => (Text.unescape? name).isSome

/-- Warnings about options up to the first one that has no proper value, and whether there is none.
-/
def readOptions : List (String × String) → List Event × Bool
  | [] => ([], true)
  | (name, value) :: options =>
    if !mayBe name value then ([], false)
    else
      let (warnings, isValid) := readOptions options
      (if isKnown name then warnings else warning name value :: warnings, isValid)

/-- Reads a text: warnings, and whether it is the address of a database. -/
def read (s : String) : List Event × Bool :=
  match Url.parse? s with
  | none => ([], false)
  | some url => if isReadable url then readOptions (Url.parameters url.query) else ([], false)

end SessionAuth.Database.Address
