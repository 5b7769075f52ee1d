import SessionAuth.AccessToken.Signer
import SessionAuth.Password.Hasher
import SessionAuth.Service.Program
import SessionAuth.Time.Calendar

/-!
# Sessions

Sign-up creates an account, login opens a session on a device, refresh continues one, and logout
ends it. Each session is held by one refresh token at a time; a refresh redeems it for the next.
-/

namespace SessionAuth

/-- What sessions are made with. -/
structure Service where
  hasher : Password.Hasher
  signer : AccessToken.Signer
  policy : RefreshToken.Policy

/-- What an operation takes from the world: identifiers that were never used before, a random salt,
and the time. -/
structure Fresh where
  userId : UserId
  tokenId : RefreshTokenId
  accessId : Uuid
  salt : Bytes
  now : Instant

/-- What a session consists of for its client. -/
structure Session where
  access : AccessToken.Signed
  tokenId : RefreshTokenId
  lifetime : Int
deriving DecidableEq

namespace Service

open Operation (ask call log demand attempt)

/-- Registers an account. -/
def signUp (s : Service) (fresh : Fresh) (email password : String) : Operation User := do
  let email ← demand ((Email.ofText email).mapError fun e => .invalidEmail e.message)
  if (← ask (.findUserByEmail email)).isSome then throw .emailTaken
  let password ← demand ((Password.ofText password).mapError fun e =>
    .passwordValidation e.message)
  let user : User := ⟨fresh.userId, email, s.hasher.hash fresh.salt password, fresh.now⟩
  ask (.createUser user)
  log { level := .info, message := "User signed up", fields := [("user_id", user.id.text)] }
  return user

/-- Signs an access token for a user. -/
def signFor (s : Service) (fresh : Fresh) (u : User) : Except Failure AccessToken.Signed :=
  (s.signer.sign fresh.accessId u.email.text fresh.now).mapError Failure.ofTokenError

/-- Opens a session within a transaction. What is wrong with the credentials is not told. A user who
holds too many tokens loses all of them first. -/
def loginWithin (s : Service) (fresh : Fresh) (email password : String)
    (fingerprint : Fingerprint) : Operation (UserId × Session) := do
  let email ← demand ((Email.ofText email).mapError fun _ => .invalidCredentials)
  let some user ← ask (.findUserByEmail email) | throw .invalidCredentials
  let password ← demand ((Password.ofText password).mapError fun _ => .invalidCredentials)
  demand ((s.hasher.verify password user.passwordHash).mapError Failure.ofHashError)
  let access ← demand (s.signFor fresh user)
  let held ← ask (.tokensOf user.id)
  if s.policy.quota ≤ held.length then
    let revoked ← ask (.deleteTokensOf user.id)
    log { level := .info, message := "Refresh token quota reached, revoked all sessions",
          fields := [("user_id", user.id.text), ("revoked", toString revoked)] }
  let token := s.policy.issue fresh.tokenId user.id fingerprint fresh.now
  ask (.createToken token)
  return (user.id, ⟨access, token.id, token.lifetime⟩)

/-- Opens a session on a device: all of it in one transaction, which is taken back on failure. -/
def login (s : Service) (fresh : Fresh) (email password fingerprint : String) :
    Operation Session := do
  let fingerprint ← demand ((Fingerprint.ofText fingerprint).mapError fun e =>
    .invalidFingerprint e.message)
  call .begin
  match ← attempt (s.loginWithin fresh email password fingerprint) with
  | .ok (userId, session) =>
    call .commit
    log { level := .info, message := "User signed in",
          fields := [("user_id", userId.text), ("refresh_token_id", session.tokenId.text)] }
    return session
  | .error e =>
    if let .error f ← attempt (call .rollback) then
      log {
        level := .error, message := "Sign in rollback failed", fields := [("error", f.message)] }
    throw e

/-- Whether a token belongs to the device that presents it. -/
def isPresentedBy (token : RefreshToken) (fingerprint : String) : Bool :=
  match Fingerprint.ofText fingerprint with
  | .ok presented => token.isBoundTo presented
  | .error _ => false

/-- Redeems a refresh token for a new one. The token is gone as soon as it has been claimed,
whatever is wrong with it then. -/
def refresh (s : Service) (fresh : Fresh) (tokenId fingerprint : String) : Operation Session := do
  let some id := RefreshTokenId.parse? tokenId | throw .invalidRefreshToken
  let some token ← ask (.findToken id) | throw .invalidRefreshToken
  if !(← ask (.deleteToken id)) then
    log { level := .warn, message := "Refresh token redeemed concurrently",
          fields := [("refresh_token_id", id.text)] }
    throw .invalidRefreshToken
  if !isPresentedBy token fingerprint then
    log { level := .warn, message := "Refresh token presented with foreign fingerprint",
          fields := [("user_id", token.owner.text), ("refresh_token_id", id.text)] }
    throw .fingerprintMismatch
  if token.isExpiredAt fresh.now then
    let end? := match token.expiresAt? with
      | some t => "Some(" ++ t.text ++ ")"
      | none => "None"
    log { level := .warn, message := "Expired refresh token presented",
          fields := [("user_id", token.owner.text), ("refresh_token_id", id.text),
            ("expired_at", end?)] }
    throw .refreshTokenExpired
  let some user ← ask (.findUser token.owner) | throw .invalidRefreshToken
  let access ← demand (s.signFor fresh user)
  let next := s.policy.issue fresh.tokenId user.id token.fingerprint fresh.now
  ask (.createToken next)
  log { level := .info, message := "Refresh token rotated",
        fields := [("user_id", user.id.text), ("redeemed", id.text),
          ("refresh_token_id", next.id.text)] }
  return ⟨access, next.id, next.lifetime⟩

/-- Ends a session. A text that names no token is as good as an ended session. -/
def logout (tokenId : String) : Operation Unit := do
  let some id := RefreshTokenId.parse? tokenId | return ()
  if ← ask (.deleteToken id) then
    log { level := .info, message := "User signed out", fields := [("refresh_token_id", id.text)] }

/-- Removes the tokens that can no longer be redeemed, and tells how many. -/
def cleanUp (now : Instant) : Operation Nat := ask (.deleteExpired now)

end Service

end SessionAuth
