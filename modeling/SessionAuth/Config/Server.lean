import SessionAuth.Bytes.Base64
import SessionAuth.Config.Session
import SessionAuth.Net.SocketAddress

/-!
# Configuration of the server

The server is configured by named variables. A variable that holds nothing but blanks counts as
absent. Values are read one after the other, and the first one that cannot be read is reported.
-/

namespace SessionAuth.Config

/-- The variables. -/
inductive Variable where
  | algorithm
  | quota
  | accessLifetime
  | refreshLifetime
  | pepper
  | sameSite
  | issuer
  | cookieName
  | https
  | origins
  | address
  | database
  | timeout
  | privateKeyFile
  | publicKeyFile
deriving DecidableEq, Repr

namespace Variable

/-- All variables. -/
def all : List Variable :=
  [algorithm, quota, accessLifetime, refreshLifetime, pepper, sameSite, issuer, cookieName, https,
    origins, address, database, timeout, privateKeyFile, publicKeyFile]

/-- The name of a variable. -/
def name : Variable → String
  | algorithm => "AUTH_JWT_ALGORITHM"
  | quota => "AUTH_REFRESH_TOKEN_MAX_COUNT"
  | accessLifetime => "AUTH_JWT_TIME_TO_LIVE_SECS"
  | refreshLifetime => "AUTH_REFRESH_TOKEN_TIME_TO_LIVE_SECS"
  | pepper => "AUTH_PASSWORD_PEPPER"
  | sameSite => "AUTH_REFRESH_TOKEN_SAME_SITE"
  | issuer => "AUTH_JWT_ISSUER"
  | cookieName => "AUTH_REFRESH_TOKEN_COOKIE"
  | https => "AUTH_HTTPS"
  | origins => "FRONTEND_ORIGINS"
  | address => "BIND_ADDR"
  | database => "DATABASE_URL"
  | timeout => "REQUEST_TIMEOUT_SECS"
  | privateKeyFile => "AUTH_JWT_PRIVATE_KEY_FILE"
  | publicKeyFile => "AUTH_JWT_PUBLIC_KEY_FILE"

end Variable

/-- The values of variables. -/
abbrev Environment := Variable → Option String

/-- Why a configuration cannot be read. -/
inductive Error where
  | algorithm (error : AccessToken.Error)
  | invalidValue (v : Variable) (raw cause : String)
  | noQuota
  | lifetimeOutOfRange (v : Variable)
  | pepper
  | unknownSameSite (raw : String)
  | unset (v : Variable)
deriving DecidableEq, Repr

/-- The longest lifetime in seconds: ten years. -/
def maxLifetime : Nat := 10 * 365 * 24 * 3600

namespace Error

/-- The words of an error. -/
def message : Error → String
  | algorithm _ => Variable.algorithm.name
  | invalidValue v raw _ => v.name ++ " has an invalid value: " ++ raw
  | noQuota => Variable.quota.name ++ " must be at least 1"
  | lifetimeOutOfRange v => v.name ++ " must be between 1 and " ++ toString maxLifetime
  | pepper => Variable.pepper.name ++ " must be base64"
  | unknownSameSite raw => Variable.sameSite.name ++ ": unknown policy " ++ raw
  | unset v => v.name ++ " must be set"

/-- The words of what lies behind an error. -/
def causes : Error → List String
  | algorithm e => [e.message]
  | invalidValue _ _ cause => [cause]
  | _ => []

end Error

/-- The configuration of the server. -/
structure Server where
  address : SocketAddress
  databaseUrl : Option String
  timeout : Nat
  origins : List String
  session : Session
  privateKeyFile : String
  publicKeyFile : String
deriving DecidableEq, Repr

namespace Server

/-- The value of a variable, unless it is blank. -/
def lookup (env : Environment) (v : Variable) : Option String :=
  (env v).filter fun raw => !Text.isBlankText raw

/-- The value of a variable, read without the blanks around it. -/
def readOr {α : Type} (env : Environment) (v : Variable) (default : α)
    (read : String → Except String α) : Except Error α :=
  match lookup env v with
  | none => .ok default
  | some raw => (read (Text.trim raw)).mapError (.invalidValue v raw)

/-- Reads a natural number of 64 bits. -/
def readNumber (s : String) : Except String Nat :=
  (Text.Decimal.ofText UInt64.size s.toList).mapError Text.Decimal.Error.message

/-- Reads a truth value. -/
def readBool (s : String) : Except String Bool :=
  if s = "true" then .ok true
  else if s = "false" then .ok false
  else .error "provided string was not `true` or `false`"

/-- Reads an address. -/
def readAddress (s : String) : Except String SocketAddress :=
  match SocketAddress.parse? s with
  | some a => .ok a
  | none => .error "invalid socket address syntax"

/-- A lifetime is at least a second and at most ten years long. -/
def isLifetime (seconds : Nat) : Bool := 1 ≤ seconds && seconds ≤ maxLifetime

/-- The policy with a name, whose letters may be of either case. -/
def readSameSite (raw : String) : Except Error Http.SameSite :=
  let lower := fun (s : String) => s.toList.map Char.toLower
  match Http.SameSite.all.find? fun s => lower s.name = lower raw
  with
  | some s => .ok s
  | none => .error (.unknownSameSite raw)

/-- The address where none is given. -/
def defaultAddress : SocketAddress := .v4 [0, 0, 0, 0] 31113

/-- The origins where none are given. -/
def defaultOrigins : String := "http://localhost:40922,http://127.0.0.1:40922"

/-- The seconds after which a request is given up, where none are given. -/
def defaultTimeout : Nat := 30

/-- The parts of a list with commas between them that may be header values. -/
def readOrigins (s : String) : List String :=
  let origins := (Text.split ',' s.toList).map fun part => String.ofList (Text.trimList part)
  origins.filter fun origin => (Http.Header.value? origin).isSome

/-- The value of a variable that has to be there. -/
def required (env : Environment) (v : Variable) : Except Error String :=
  match lookup env v with
  | some value => .ok value
  | none => .error (.unset v)

/-- Whether the cookie asks for encryption where nothing is said. Only builds for debugging do not ask
for it, and the server is taken as such a build. -/
def isSecureByDefault : Bool := false

/-- Reads the configuration of sessions. -/
def readSession (env : Environment) : Except Error Session := do
  let defaults : Session := {}
  let algorithm ← match lookup env .algorithm with
    | some name => (AccessToken.Algorithm.parse name).mapError .algorithm
    | none => .ok defaults.algorithm
  let quota ← readOr env .quota defaults.quota readNumber
  if quota < 1 then throw .noQuota
  let accessLifetime ← readOr env .accessLifetime defaults.accessLifetime readNumber
  let refreshLifetime ← readOr env .refreshLifetime defaults.refreshLifetime readNumber
  if !isLifetime accessLifetime then throw (.lifetimeOutOfRange .accessLifetime)
  if !isLifetime refreshLifetime then throw (.lifetimeOutOfRange .refreshLifetime)
  let pepper ← match lookup env .pepper with
    | none => .ok none
    | some raw =>
      match Base64.standard.decode? (Text.trim raw) with
      | some bytes => .ok (some bytes)
      | none => .error .pepper
  let sameSite ← match lookup env .sameSite with
    | none => .ok defaults.sameSite
    | some raw => readSameSite raw
  let isCookieSecure ← readOr env .https isSecureByDefault readBool
  return {
    issuer := (lookup env .issuer).getD defaults.issuer
    algorithm, accessLifetime, refreshLifetime, quota
    cookieName := (lookup env .cookieName).getD defaults.cookieName
    isCookieSecure, sameSite, pepper }

/-- Reads the configuration of the server. -/
def read (env : Environment) : Except Error Server := do
  let session ← readSession env
  let address ← readOr env .address defaultAddress readAddress
  let timeout ← readOr env .timeout defaultTimeout readNumber
  let privateKeyFile ← required env .privateKeyFile
  let publicKeyFile ← required env .publicKeyFile
  return {
    address, timeout, session, privateKeyFile, publicKeyFile
    databaseUrl := lookup env .database
    origins := readOrigins ((lookup env .origins).getD defaultOrigins) }

end Server

end SessionAuth.Config
