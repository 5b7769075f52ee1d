import SessionAuth.AccessToken.Signer
import SessionAuth.Text.Split

/-!
# Verifying access tokens

A token is taken apart at its last two points. The algorithm in its header is compared first, then
the signature is checked, and only then the claims are looked at: their form, the end of the token,
the issuer, and that no audience is named.
-/

namespace SessionAuth.AccessToken

/-- The parts of a token's text. -/
structure Parts where
  header : List Char
  payload : List Char
  signature : List Char

namespace Parts

/-- The parts around the last two points. -/
def ofText? (token : String) : Option Parts := do
  let (message, signature) ← Text.splitLast? '.' token.toList
  let (header, payload) ← Text.splitLast? '.' message
  return ⟨header, payload, signature⟩

/-- What the signature signs. -/
def message (p : Parts) : Bytes := Text.utf8 (String.ofList (p.header ++ '.' :: p.payload))

end Parts

/-- Verifies tokens of an issuer. -/
structure Verifier where
  issuer : String
  algorithm : Algorithm
  key : Key.Public

/-- Decodes a part of a token. -/
def decodePart (cs : List Char) : Except Error Bytes :=
  match Base64.urlSafe.decodeList? cs with
  | some bytes => .ok bytes
  | none => .error (.malformed .base64)

/-- Gives a fault in JSON as an error of the token. -/
def orMalformed {α : Type} : Except Json.Fault α → Except Error α
  | .ok a => .ok a
  | .error _ => .error (.malformed .json)

namespace Verifier

/-- Loads a verifier's key. -/
def ofPem (issuer : String) (algorithm : Algorithm) (pem : Bytes) : Except Error Verifier :=
  (Key.Public.ofPem algorithm pem).map (⟨issuer, algorithm, ·⟩)

/-- Checks what claims say. A claim that is there in a form that does not count is missing. -/
def check (v : Verifier) (now : Int) (c : Conditions) : Except Error Unit :=
  match c.expiresAt, c.subject, c.issuer with
  | .understood expiresAt, .understood (), .understood issuers =>
    if (expiresAt : Int) < now then .error .expired
    else if issuers ≠ [v.issuer] then .error (.invalidClaims .issuer)
    else
      match c.audience with
      | .understood () => .error (.malformed .audience)
      | _ => .ok ()
  | .understood _, .understood (), _ => .error (.invalidClaims (.missing "iss"))
  | .understood _, _, _ => .error (.invalidClaims (.missing "sub"))
  | _, _, _ => .error (.invalidClaims (.missing "exp"))

/-- Verifies a token at a second and gives its claims. -/
def verify (v : Verifier) (now : Int) (token : String) : Except Error Claims := do
  let some parts := Parts.ofText? token | throw (.malformed .parts)
  let header ← orMalformed (Header.ofJson (← decodePart parts.header))
  if header.algorithm ≠ some v.algorithm then throw .algorithmMismatch
  let signature ← decodePart parts.signature
  if !v.key.accepts parts.message signature then throw .invalidSignature
  let payload ← decodePart parts.payload
  let claims ← orMalformed (Claims.ofJson payload)
  let conditions ← orMalformed (Conditions.ofJson payload)
  v.check now conditions
  return claims

/-- The algorithm alone, for logs. -/
def describe (v : Verifier) : String :=
  "AccessTokenVerifier \x7b algorithm: " ++ v.algorithm.name ++ ", .. \x7d"

end Verifier

end SessionAuth.AccessToken
