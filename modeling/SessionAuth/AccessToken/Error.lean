/-!
# Errors about access tokens

Why an algorithm, a key or a token is refused, or why a token cannot be signed.
-/

namespace SessionAuth.AccessToken

/-- Why claims are refused. -/
inductive ClaimsFault where
  | missing (claim : String)
  | issuer
deriving DecidableEq, Repr

/-- Why a text is no token. -/
inductive FormFault where
  | parts
  | base64
  | json
  | audience
deriving DecidableEq, Repr

/-- Why a private key cannot sign. -/
inductive KeyFault where
  | curve
  | rsa
  | failedRsa
deriving DecidableEq, Repr

/-- Errors about access tokens. Loading a key that aborts has no other outcome. -/
inductive Error where
  | unsupportedAlgorithm (name : String)
  | invalidKey (detail : String)
  | signing (detail : String)
  | algorithmMismatch
  | invalidSignature
  | expired
  | invalidClaims (fault : ClaimsFault)
  | malformed (fault : FormFault)
  | aborted
deriving DecidableEq, Repr

/-- The words of a fault. -/
def ClaimsFault.message : ClaimsFault → String
  | missing claim => "Missing required claim: " ++ claim
  | issuer => "InvalidIssuer"

/-- The words of a fault. -/
def FormFault.message : FormFault → String
  | parts => "InvalidToken"
  | base64 => "Base64 error"
  | json => "JSON error"
  | audience => "InvalidAudience"

/-- The words of a fault. -/
def KeyFault.message : KeyFault → String
  | curve => "InvalidEcdsaKey"
  | rsa => "RSA key invalid"
  | failedRsa => "RsaFailedSigning"

/-- The words of an error. -/
def Error.message : Error → String
  | unsupportedAlgorithm name => "Unsupported signing algorithm: " ++ name
  | invalidKey detail => "Invalid key material: " ++ detail
  | signing detail => "Token signing failed: " ++ detail
  | algorithmMismatch => "Token algorithm does not match the configured algorithm"
  | invalidSignature => "Invalid token signature"
  | expired => "Token expired"
  | invalidClaims fault => "Invalid token claims: " ++ fault.message
  | malformed fault => "Malformed token: " ++ fault.message
  | aborted => "Loading the key was aborted"

end SessionAuth.AccessToken
