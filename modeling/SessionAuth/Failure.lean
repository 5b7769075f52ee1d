import SessionAuth.AccessToken.Error
import SessionAuth.Database.Fault
import SessionAuth.Event
import SessionAuth.Password.Error

/-!
# Failures

Why an operation on accounts and sessions failed. What a client is told depends on the kind alone
where the server is at fault, so that no detail leaves the server.
-/

namespace SessionAuth

/-- Why an operation failed. -/
inductive Failure where
  | invalidCredentials
  | emailTaken
  | invalidRefreshToken
  | fingerprintMismatch
  | refreshTokenExpired
  | hashing (detail : String)
  | signing (detail : String)
  | database (fault : Database.Fault)
  | storeUnavailable (detail : String)
  | invalidAccessToken
  | accessTokenExpired
  | missingBearerToken
  | missingRefreshToken
  | invalidEmail (detail : String)
  | invalidFingerprint (detail : String)
  | passwordValidation (detail : String)
  | internal (detail : String)
deriving DecidableEq, Repr

namespace Failure

/-- The words of a failure. -/
def message : Failure → String
  | invalidCredentials => "Invalid credentials"
  | emailTaken => "Email is already registered"
  | invalidRefreshToken => "Invalid refresh token"
  | fingerprintMismatch => "Refresh token fingerprint mismatch"
  | refreshTokenExpired => "Refresh token expired"
  | hashing detail => "Password hashing failed: " ++ detail
  | signing detail => "Token signing failed: " ++ detail
  | database fault => "Database error: " ++ fault.message
  | storeUnavailable detail => "Store unavailable: " ++ detail
  | invalidAccessToken => "Invalid access token"
  | accessTokenExpired => "Access token expired"
  | missingBearerToken => "Missing bearer token"
  | missingRefreshToken => "Missing refresh token"
  | invalidEmail detail => "Invalid email: " ++ detail
  | invalidFingerprint detail => "Invalid fingerprint: " ++ detail
  | passwordValidation detail => "Password validation failed: " ++ detail
  | internal detail => "Internal error: " ++ detail

/-- The kind of problem that a failure is. -/
def kind : Failure → Problem.Kind
  | invalidCredentials | invalidRefreshToken | invalidAccessToken | accessTokenExpired
  | missingBearerToken => .unauthorized
  | emailTaken => .conflict
  | fingerprintMismatch | refreshTokenExpired | missingRefreshToken | invalidEmail _
  | invalidFingerprint _ | passwordValidation _ => .badRequest
  | storeUnavailable _ => .serviceUnavailable
  | hashing _ | signing _ | database _ | internal _ => .internalServerError

/-- What a client is told: the words of the failure, or only the kind where the server is at
fault. -/
def problem (f : Failure) : Problem :=
  ⟨f.kind, if f.kind.isServerError then f.kind.title else f.message, none⟩

/-- What is logged when a client is told. -/
def event (f : Failure) : Event :=
  match f with
  | database fault => { level := .error, message := "Auth database error",
                        fields := [("error", fault.message)] }
  | storeUnavailable detail =>
    { level := .error, message := "Auth store unavailable", detail := some detail }
  | hashing detail | signing detail | internal detail =>
    { level := .error, message := "Auth internal error", detail := some detail }
  | invalidCredentials => { level := .warn, message := "Invalid login attempt" }
  | fingerprintMismatch =>
    { level := .warn, message := "Refresh token fingerprint mismatch detected" }
  | f => { level := .debug, message := "Auth error", fields := [("error", f.message)] }

/-- A problem from elsewhere is an internal failure. -/
def ofProblem (p : Problem) : Failure := .internal p.line

/-- A password that does not match is a matter of credentials; all else is the server's. An abort is
among it, which leaves a request of the program without a response. -/
def ofHashError : Password.HashError → Failure
  | .wrongPassword => .invalidCredentials
  | e => .hashing e.message

/-- A token that is refused is the client's fault; keys and algorithms are the server's. -/
def ofTokenError : AccessToken.Error → Failure
  | .expired => .accessTokenExpired
  | .algorithmMismatch | .invalidSignature | .invalidClaims _ | .malformed _ => .invalidAccessToken
  | .signing detail => .signing detail
  | e@(.unsupportedAlgorithm _) => .internal e.message
  | e@(.invalidKey _) => .internal e.message
  | .aborted => .internal (AccessToken.Error.message .aborted)

end Failure

end SessionAuth
