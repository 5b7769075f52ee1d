import SessionAuth.AccessToken.Claims
import SessionAuth.AccessToken.Header
import SessionAuth.Key.Material
import SessionAuth.Text.Quoted
import SessionAuth.Time.Instant
import SessionAuth.Uuid

/-!
# Signing access tokens

A token has three parts with points between them, all in Base64: header, claims, and the signature
of the text of both.
-/

namespace SessionAuth.AccessToken

/-- A text in Base64 as it stands in a token. -/
def encodePart (bytes : Bytes) : String := Base64.urlSafe.encode bytes

/-- The text that is signed. -/
def signedText (algorithm : Algorithm) (claims : Claims) : String :=
  encodePart (Text.utf8 (Header.toJson algorithm)) ++ "." ++
    encodePart (Text.utf8 claims.toJson)

/-- The last second that can be named. -/
def lastSecond : Int := Nat.pow 2 63 - 1

/-- The second at which a token ends that is issued at the given one. Ends beyond the last second
are moved there. -/
def endOf (issuedAt : Int) (lifetime : Nat) : Int :=
  min (issuedAt + min (lifetime : Int) lastSecond) lastSecond

/-- Signs tokens for an issuer. -/
structure Signer where
  issuer : String
  algorithm : Algorithm
  lifetime : Nat
  key : Key.Private

/-- A signed token and the second at which it ends. -/
structure Signed where
  token : String
  expiresAt : Int
deriving DecidableEq, Repr

namespace Signer

/-- Loads a signer's key. -/
def ofPem (issuer : String) (algorithm : Algorithm) (lifetime : Nat) (pem : Bytes) :
    Except Error Signer :=
  (Key.Private.ofPem algorithm pem).map (⟨issuer, algorithm, lifetime, ·⟩)

/-- The claims of a new token. -/
def claims (s : Signer) (id : Uuid) (subject : String) (now : Instant) : Claims :=
  ⟨id.text, s.issuer, subject, now.seconds, endOf now.seconds s.lifetime⟩

/-- Signs a token for a subject. -/
def sign (s : Signer) (id : Uuid) (subject : String) (now : Instant) : Except Error Signed :=
  let claims := s.claims id subject now
  let text := signedText s.algorithm claims
  match s.key.sign (Text.utf8 text) with
  | .ok signature => .ok ⟨text ++ "." ++ encodePart signature, claims.expiresAt⟩
  | .error fault => .error (.signing fault.message)

/-- A span of seconds, for logs. -/
def spanText (seconds : Nat) : String := if seconds = 0 then "0ns" else toString seconds ++ "s"

/-- All but the key, for logs. -/
def describe (s : Signer) : String :=
  "AccessTokenSigner \x7b issuer: " ++ Text.quote s.issuer ++ ", algorithm: " ++ s.algorithm.name ++
    ", ttl: " ++ spanText s.lifetime ++ ", key: \"[REDACTED]\" \x7d"

end Signer

end SessionAuth.AccessToken
