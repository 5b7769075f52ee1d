import SessionAuth.Argon2.Derive
import SessionAuth.Bytes.Base64
import SessionAuth.Bytes.ConstantTime
import SessionAuth.Password.Error
import SessionAuth.Text.Decimal
import SessionAuth.Text.Split

/-!
# Hashes as text

A hash is stored with all that is needed to compute it again: fields between dollar signs for the
kind of function, its version, its costs, the salt and the tag. Version and costs may be missing.
-/

namespace SessionAuth.Password

/-- A hash with all that it was computed from but the password. -/
structure Phc where
  kind : Argon2.Kind
  version : Argon2.Version
  cost : Argon2.Cost
  associated : Bytes
  salt : Bytes
  tag : Bytes
deriving DecidableEq

namespace Phc

/-! ### Names -/

/-- The name of a kind. -/
def kindName : Argon2.Kind → String
  | .dependent => "argon2d"
  | .independent => "argon2i"
  | .hybrid => "argon2id"

/-- The kind with a name. -/
def kind? (name : List Char) : Option Argon2.Kind :=
  [Argon2.Kind.dependent, .independent, .hybrid].find? fun k => (kindName k).toList = name

/-- The version with a number. -/
def version? (code : Nat) : Option Argon2.Version :=
  [Argon2.Version.overwriting, .mixing].find? (·.code = code)

/-! ### Writing -/

/-- The costs in decimal. -/
def costText (cost : Argon2.Cost) : String :=
  "m=" ++ toString cost.memory ++ ",t=" ++ toString cost.passes ++ ",p=" ++ toString cost.lanes

/-- The text without salt and tag. -/
def head (h : Phc) : String :=
  "$" ++ kindName h.kind ++ "$v=" ++ toString h.version.code ++ "$" ++ costText h.cost

/-- The text of a hash without associated data. -/
def text (h : Phc) : String :=
  h.head ++ "$" ++ Base64.standardUnpadded.encode h.salt ++ "$" ++
    Base64.standardUnpadded.encode h.tag

/-! ### Reading -/

/-- A character of a name. -/
def isNameChar (c : Char) : Bool := c.isLower || c.isDigit || c == '-'

/-- A name of some characters, not too many. -/
def isName (cs : List Char) : Bool := cs ≠ [] && cs.length ≤ 32 && cs.all isNameChar

/-- A value of characters of a fixed set, not too many. -/
def isValue (cs : List Char) : Bool :=
  cs.length ≤ 64 && cs.all fun c => c.isAlphanum || c == '/' || c == '+' || c == '.' || c == '-'

/-- A number of 32 bits without needless zeros. -/
def number? (cs : List Char) : Option Nat := do
  let n ← Text.Decimal.canonical? cs
  if n < UInt32.size then some n else none

/-- Costs and associated data, as they are read. -/
structure Parameters where
  cost : Argon2.Cost
  associated : Bytes

/-- What holds where the text says nothing. -/
def Parameters.initial : Parameters := ⟨⟨19456, 2, 1⟩, []⟩

/-- Bytes in Base64, not too many. -/
def bytes? (limit : Nat) (cs : List Char) : Option Bytes := do
  let bytes ← Base64.standardUnpadded.decodeList? cs
  if bytes.length ≤ limit then some bytes else none

/-- Takes one parameter. A name of a key is read and not used. -/
def Parameters.set? (ps : Parameters) (name value : List Char) : Option Parameters :=
  match String.ofList name with
  | "m" => do return { ps with cost.memory := ← number? value }
  | "t" => do return { ps with cost.passes := ← number? value }
  | "p" => do return { ps with cost.lanes := ← number? value }
  | "keyid" => (bytes? 8 value).map fun _ => ps
  | "data" => do return { ps with associated := ← bytes? 32 value }
  | _ => none

/-- Reads parameters with commas between them. -/
def parameters? (cs : List Char) : Option Parameters := do
  guard ((String.ofList cs).utf8ByteSize ≤ 127)
  let pairs ← (Text.split ',' cs).mapM fun pair =>
    match Text.split '=' pair with
    | [name, value] => if isName name && isValue value then some (name, value) else none
    | _ => none
  pairs.foldlM (fun ps pair => ps.set? pair.1 pair.2) .initial

/-- What is wrong with costs. The least memory is compared in words of 32 bits: where it does not
fit, a build that checks its arithmetic for overflow breaks off, and this is what `uncountable`
stands for. A build that does not check goes on with the lower bits. Whether there is as much memory
as the costs ask for is left open. -/
def costFault? (cost : Argon2.Cost) : Option CostFault :=
  if cost.memory < 8 then some .memory
  else if UInt32.size ≤ 8 * cost.lanes then some .uncountable
  else if cost.memory < 8 * cost.lanes then some .memory
  else if cost.passes < 1 then some .passes
  else if cost.lanes < 1 then some .fewLanes
  else if 16777215 < cost.lanes then some .manyLanes
  else none

/-- Takes the number of the version, if it comes next. -/
def versionField? : List (List Char) → Option (Nat × List (List Char))
  | ('v' :: '=' :: digits) :: fields =>
    if digits.contains ',' then some (Argon2.Version.mixing.code, ('v' :: '=' :: digits) :: fields)
    else if isValue digits then (number? digits).map (·, fields)
    else none
  | fields => some (Argon2.Version.mixing.code, fields)

/-- Takes the parameters, if they come next. -/
def parametersField? : List (List Char) → Option (Parameters × List (List Char))
  | field :: fields =>
    if field.contains '=' then (parameters? field).map (·, fields)
    else some (.initial, field :: fields)
  | [] => some (.initial, [])

/-- The fields of a hash, of which only costs and tag have been read. -/
structure Fields where
  kind : List Char
  version : Nat
  parameters : Parameters
  salt : List Char
  tag : Bytes

/-- Takes a text apart. -/
def fields? (s : String) : Option Fields := do
  let [] :: kind :: fields := Text.split '$' s.toList | none
  guard (isName kind)
  let (version, fields) ← versionField? fields
  let (parameters, fields) ← parametersField? fields
  let [salt, tagField] := fields | none
  guard (4 ≤ salt.length && isValue salt)
  let tag ← Base64.standardUnpadded.decodeList? tagField
  guard (10 ≤ tag.length ∧ tag.length ≤ 64)
  return { kind, version, parameters, salt, tag }

/-- The hash that fields name, whatever its costs. -/
def ofFields? (f : Fields) : Option Phc := do
  let salt ← Base64.standardUnpadded.decodeList? f.salt
  guard (8 ≤ salt.length)
  return ⟨← kind? f.kind, ← version? f.version, f.parameters.cost, f.parameters.associated, salt,
    f.tag⟩

/-- Reads a hash. A text that is none matches no password. Costs come before all that is left to be
read. -/
def parse (s : String) : Except HashError Phc :=
  match fields? s with
  | none => .error .wrongPassword
  | some fields =>
    match costFault? fields.parameters.cost with
    | some .uncountable => .error .aborted
    | some _ => .error .wrongPassword
    | none => (ofFields? fields).elim (.error .wrongPassword) .ok

/-- The tag that a secret has under the hash's kind, version, costs and salt. -/
def tagOf (h : Phc) (secret : Bytes) : Bytes :=
  Argon2.Input.tag ⟨h.kind, h.version, h.cost, secret, h.salt, h.associated, h.tag.length⟩

/-- The secret is the one that was hashed. -/
def accepts (h : Phc) (secret : Bytes) : Bool := Bytes.equalInConstantTime (h.tagOf secret) h.tag

end Phc

end SessionAuth.Password
