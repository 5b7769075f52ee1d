import SessionAuth.Startup

/-!
# The server

Starts the server on this machine. Its log goes to the standard output and the reason why it ends to
the standard error. No address of this machine is listened on, so the start always ends, and the
store is empty whatever the time is.
-/

namespace SessionAuth

/-- Why no address can be listened on. -/
def addressUnavailable : String := "Cannot assign requested address (os error 99)"

/-- Why a file cannot be read. -/
def fileFault : IO.Error → String
  | .noFileOrDirectory .. => Host.noFile
  | .inappropriateType .. => Host.isDirectory
  | .permissionDenied .. => Host.portDenied
  | e => toString e

/-- Reads a file. -/
def readFile (name : String) : IO (Except String Bytes) := do
  try
    return .ok (← IO.FS.readBinFile name).toList
  catch e => return .error (fileFault e)

/-- The words that may name variables in a text. -/
def names (text : String) : List String :=
  (text.toList.splitBy fun a b =>
    Config.EnvironmentFile.isNameChar a == Config.EnvironmentFile.isNameChar b).map String.ofList

/-- The values of those names that are variables. -/
def readVariables (names : List String) : IO Config.Variables := do
  let values ← names.eraseDups.mapM fun name => return (name, ← IO.getEnv name)
  return values.filterMap fun v => v.2.map (v.1, ·)

end SessionAuth

open SessionAuth in
/-- Starts the server. -/
def main : IO UInt32 := do
  let environmentFile ← readFile ".env"
  let mentioned := ((environmentFile.toOption.bind Text.ofUtf8?).map names).getD []
  let environment ← readVariables
    (Log.Filter.variableName :: Config.Variable.all.map Config.Variable.name ++ mentioned)
  let known := (Config.EnvironmentFile.load? environment
    ((environmentFile.toOption.bind Text.ofUtf8?).getD "")).getD environment
  let keyFiles := [Config.Variable.privateKeyFile, .publicKeyFile].filterMap fun v =>
    known.lookup v.name
  let files ← (".env" :: keyFiles).mapM fun name => return (name, ← readFile name)
  let (ending, records) := Startup.run {
    environment
    file := fun name => (files.lookup name).getD (.error Host.noFile)
    databaseFault := .connection
    listenFault? := fun _ => some addressUnavailable
    now := .epoch }
  for record in records do IO.println record.line
  if let .failed e := ending then
    IO.eprintln ("Error: " ++ e.message)
    if !e.causes.isEmpty then IO.eprintln "\nCaused by:"
    for cause in e.causes do IO.eprintln ("    " ++ cause)
  return UInt32.ofNat (ending.exitCode?.getD 0)
