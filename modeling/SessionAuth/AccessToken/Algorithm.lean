import SessionAuth.AccessToken.Error
import SessionAuth.Signature.Ecdsa
import SessionAuth.Signature.Rsa
import SessionAuth.Text.Blank

/-!
# Signature algorithms

Access tokens are signed with a private key and verified with the public one. Algorithms with one
shared secret have names too, but are never used.
-/

namespace SessionAuth.AccessToken

/-- The algorithms with a pair of keys. -/
inductive Algorithm where
  | edwards
  | curve256
  | curve384
  | rsa (scheme : Signature.Rsa.Scheme) (strength : Fin 3)
deriving DecidableEq, Repr

namespace Algorithm

/-- All algorithms with a pair of keys. -/
def all : List Algorithm :=
  [edwards, curve256, curve384] ++
    [Signature.Rsa.Scheme.plain, .probabilistic].flatMap fun scheme =>
      [rsa scheme 0, rsa scheme 1, rsa scheme 2]

/-- The hash functions of increasing strength. -/
def hash : Fin 3 → Signature.Rsa.Hash
  | 0 => Signature.Rsa.hash256
  | 1 => Signature.Rsa.hash384
  | 2 => Signature.Rsa.hash512

/-- The length of a digest in bits. -/
def strengthName : Fin 3 → String
  | 0 => "256"
  | 1 => "384"
  | 2 => "512"

/-- The registered name. -/
def name : Algorithm → String
  | edwards => "EdDSA"
  | curve256 => "ES256"
  | curve384 => "ES384"
  | rsa .plain strength => "RS" ++ strengthName strength
  | rsa .probabilistic strength => "PS" ++ strengthName strength

/-- The algorithm with a registered name. -/
def ofName? (s : String) : Option Algorithm := all.find? (·.name = s)

/-- The names of algorithms with a shared secret. -/
def sharedSecretNames : List String := ["HS256", "HS384", "HS512"]

/-- Reads the name of an algorithm that may be used. -/
def parse (s : String) : Except Error Algorithm :=
  let trimmed := Text.trim s
  match ofName? trimmed with
  | some a => .ok a
  | none => .error (.unsupportedAlgorithm (if trimmed ∈ sharedSecretNames then trimmed else s))

end Algorithm

end SessionAuth.AccessToken
