import SessionAuth.AccessToken.Verifier
import SessionAuth.Config.EnvironmentFile
import SessionAuth.Config.Server
import SessionAuth.Database.Address
import SessionAuth.Log.Filter
import SessionAuth.Service.Session

/-!
# Start of the server

The server reads its configuration and keys, removes expired tokens, and listens. The first step
that fails ends the start. All that happens is logged, and a filter decides what is written.
-/

namespace SessionAuth

/-- What the server is started on: its variables, how files are read, why the database cannot be
reached, why an address cannot be listened on, and the time. -/
structure Host where
  environment : Config.Variables
  file : String → Except String Bytes
  databaseFault : Database.Fault
  listenFault? : SocketAddress → Option String
  now : Instant

namespace Startup

/-- Why the start failed. -/
inductive Error where
  | config (error : Config.Error)
  | file (name cause : String)
  | key (error : AccessToken.Error)
  | databaseAddress
  | database (fault : Database.Fault)
  | listen (cause : String)
deriving DecidableEq, Repr

namespace Error

/-- The words of an error. -/
def message : Error → String
  | config e => e.message
  | file name _ => "reading " ++ name
  | key e => e.message
  | databaseAddress => "error with configuration"
  | database fault => fault.message
  | listen cause => cause

/-- The words of what lies behind an error. -/
def causes : Error → List String
  | config e => e.causes
  | file _ cause => [cause]
  | _ => []

end Error

/-- How the start ends. -/
inductive Ending where
  | failed (e : Error)
  | aborted
  | listening (a : SocketAddress)
deriving DecidableEq, Repr

/-- The exit code, unless the server goes on listening. -/
def Ending.exitCode? : Ending → Option Nat
  | failed _ => some 1
  | aborted => some 101
  | listening _ => none

/-! ### Steps -/

/-- A step may end the start, and logs. -/
abbrev Step := ExceptT Ending (StateM (List Log.Record))

/-- Logs an event of a part of the program. -/
def say (target : String) (e : Event) : Step Unit := modify fun records => records ++ [⟨target, e⟩]

/-- Goes on with a value, or fails. -/
def demand {α ε : Type} (error : ε → Error) : Except ε α → Step α
  | .ok a => return a
  | .error e => throw (.failed (error e))

/-- Goes on with a key, or fails, unless loading it was aborted. -/
def demandKey {α : Type} : Except AccessToken.Error α → Step α
  | .error .aborted => throw .aborted
  | key => demand .key key

/-- The part of the program that starts the server. -/
def serverPart : String := "api"

/-- The part of the program that reads addresses of databases. -/
def addressPart : String := "sqlx_postgres::options::parse"

/-- The part of the program that keeps sessions in memory. -/
def memoryPart : String := "auth::infra::memory"

/-- The variables of the host, and those that a file adds, if all of them can be. -/
def environment? (h : Host) : Option Config.Variables :=
  match h.file ".env" with
  | .ok bytes =>
    match Text.ofUtf8? bytes with
    | some text => Config.EnvironmentFile.load? h.environment text
    | none => some h.environment
  | .error _ => some h.environment

/-- Reads the keys and logs that they can be used. They need not belong together. -/
def loadKeys (h : Host) (c : Config.Server) : Step (AccessToken.Signer × AccessToken.Verifier) := do
  let readFile := fun name => demand (.file name) (h.file name)
  let privatePem ← readFile c.privateKeyFile
  let publicPem ← readFile c.publicKeyFile
  let s := c.session
  let signer ← demandKey
    (AccessToken.Signer.ofPem s.issuer s.algorithm s.accessLifetime privatePem)
  let verifier ← demandKey (AccessToken.Verifier.ofPem s.issuer s.algorithm publicPem)
  say serverPart
    { level := .info, message := "Access token keys loaded",
      fields := [("issuer", s.issuer), ("algorithm", s.algorithm.name),
        ("refresh_token_max_count", toString s.quota)] }
  return (signer, verifier)

/-- Reaches the database, if there is to be one. -/
def connect (h : Host) (c : Config.Server) : Step Unit :=
  match c.databaseUrl with
  | none =>
    say serverPart { level := .warn,
                     message := "DATABASE_URL not set, sessions are kept in memory only" }
  | some url =>
    let (warnings, isValid) := Database.Address.read url
    do
      warnings.forM (say addressPart)
      throw (.failed (if isValid then .database h.databaseFault else .databaseAddress))

/-- Removes expired tokens from a store in memory. A failure does not end the start. -/
def cleanUp (now : Instant) : Step Unit := do
  let run := (Service.cleanUp now).run.run Backend.memory false Vault.empty
  run.events.forM (say memoryPart)
  match run.rest with
  | .finished (.ok count) =>
    say serverPart { level := .info, message := "Refresh token cleanup completed",
                     fields := [("tokens_deleted", toString count)] }
  | .finished (.error f) =>
    say serverPart { level := .warn,
                     message := "Refresh token cleanup failed, continuing anyway",
                     fields := [("error", f.message)] }
  | .pending .. => return ()

/-- The origin that stands for all. -/
def anyOrigin : String := "*"

/-- Lets other sites in with their credentials, which cannot be granted to all of them at once. -/
def admitOrigins (c : Config.Server) : Step Unit :=
  if c.origins.contains anyOrigin then throw .aborted else return ()

/-- Listens on the address. -/
def listen (h : Host) (c : Config.Server) : Step Ending := do
  say serverPart { level := .info, message := "Listening on " ++ c.address.text }
  demand .listen ((h.listenFault? c.address).elim (.ok ()) .error)
  return .listening c.address

/-- All steps, with given variables. -/
def steps (h : Host) (env : Config.Variables) : Step Ending := do
  let c ← demand .config (Config.Server.read fun v => env.lookup v.name)
  discard (loadKeys h c)
  connect h c
  cleanUp h.now
  admitOrigins c
  listen h c

/-- The variables and the filter for the log. The start is aborted where one of them breaks off. -/
def prepare? (h : Host) : Option (Config.Variables × Log.Filter) := do
  let env ← environment? h
  return (env, ← Log.Filter.ofVariable? (env.lookup Log.Filter.variableName))

/-- Starts the server: how that ends, and what is written to the log. -/
def run (h : Host) : Ending × List Log.Record :=
  match prepare? h with
  | none => (.aborted, [])
  | some (env, filter) =>
    let (result, records) := Id.run ((steps h env).run.run [])
    (match result with
      | .ok ending | .error ending => ending,
      records.filter filter.passes)

end Startup

/-! ### Hosts in memory -/

namespace Host

/-- Why a file cannot be read that is not there. -/
def noFile : String := "No such file or directory (os error 2)"

/-- Why a directory cannot be read. -/
def isDirectory : String := "Is a directory (os error 21)"

/-- Why nothing can be read below a file. -/
def notDirectory : String := "Not a directory (os error 20)"

/-- Why a port below 1024 cannot be listened on without the right to. -/
def portDenied : String := "Permission denied (os error 13)"

/-- Why a name cannot be that of a file. -/
def nameTooLong : String := "File name too long (os error 36)"

/-- The most bytes of a name. -/
def nameLimit : Nat := 255

/-- The most bytes of a path. -/
def pathLimit : Nat := 4095

/-- The names in a path; empty ones and single dots do not count. -/
def namesOf (path : String) : List String :=
  ((Text.split '/' path.toList).map String.ofList).filter fun name => name ≠ "" ∧ name ≠ "."

/-- The directories that every host has. -/
def directories : List String :=
  ["bin", "dev", "etc", "home", "lib", "opt", "proc", "root", "run", "sys", "tmp", "usr", "var"]

/-- Reads what lies in no directory of ours: the device that is always empty, a directory, or
nothing that is there. -/
def readOutside : List String → Except String Bytes
  | [] => .error isDirectory
  | ["dev", "null"] => .ok []
  | [name] => .error (if directories.contains name then isDirectory else noFile)
  | _ => .error noFile

/-- Reads a file of a directory that holds nothing but files. A path may pass through the directory
itself, and through those above it only to name them. -/
def readInside (files : List (String × Bytes)) (path : String) : List String → Except String Bytes
  | [] => .error isDirectory
  | name :: below =>
    match files.lookup name with
    | none => .error noFile
    | some bytes =>
      if below.isEmpty && !path.endsWith "/" && !path.endsWith "/." then .ok bytes
      else .error notDirectory

/-- Reads a file that a path names from the directory, from one above it, or from the root. -/
def readFile (files : List (String × Bytes)) (path : String) : Except String Bytes :=
  let names := namesOf path
  let below := names.dropWhile (· = "..")
  if path = "" then .error noFile
  else if pathLimit < Text.byteLength path || below.head?.any (nameLimit < Text.byteLength ·) then
    .error nameTooLong
  else if path.startsWith "/" then readOutside below
  else if below.length < names.length then
    below.head?.elim (.error isDirectory) fun _ => .error noFile
  else readInside files path names

/-- A host with the given variables and files, no database, and no right to listen on ports below
1024. -/
def inMemory (environment : Config.Variables) (files : List (String × Bytes)) : Host where
  environment := environment
  file := readFile files
  databaseFault := .connection
  listenFault? a := if 0 < a.port ∧ a.port < 1024 then some portDenied else none
  now := .epoch

end Host

end SessionAuth
