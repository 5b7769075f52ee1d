import SessionAuth.Proofs.Service.Alike
import SessionAuth.Service.Session

/-!
# Operations over any hasher and signer

The operations of a service with a hasher and a signer of which nothing is known: each of their
steps may fail, with whatever details. The operations of a service are those with its own hasher and
signer (`Means.signUp_of`, `Means.login_of`, `Means.refresh_of`), and details of failures do not
decide what they call and how they end (`Means.Alike.signUp`, `Means.Alike.login`,
`Means.Alike.refresh`).
-/

namespace SessionAuth

open Failure (AlikeIn)
open Operation

/-- A way to hash and check passwords and to sign access tokens, and a policy. -/
structure Means where
  hash : Bytes → Password → Except Password.HashError PasswordHash
  verify : Password → PasswordHash → Except Password.HashError Unit
  sign : Uuid → String → Instant → Except AccessToken.Error AccessToken.Signed
  policy : RefreshToken.Policy

namespace Means

/-- The means of a service. -/
def of (s : Service) : Means where
  hash salt p := .ok (s.hasher.hash salt p)
  verify := s.hasher.verify
  sign := s.signer.sign
  policy := s.policy

/-! ### The operations -/

/-- Registers an account. -/
def signUp (m : Means) (fresh : Fresh) (email password : String) : Operation User := do
  let email ← demand ((Email.ofText email).mapError fun e => .invalidEmail e.message)
  if (← ask (.findUserByEmail email)).isSome then throw .emailTaken
  let password ← demand ((Password.ofText password).mapError fun e =>
    .passwordValidation e.message)
  let hash ← demand ((m.hash fresh.salt password).mapError Failure.ofHashError)
  let user : User := ⟨fresh.userId, email, hash, fresh.now⟩
  ask (.createUser user)
  log { level := .info, message := "User signed up", fields := [("user_id", user.id.text)] }
  return user

/-- Signs an access token for a user. -/
def signFor (m : Means) (fresh : Fresh) (u : User) : Except Failure AccessToken.Signed :=
  (m.sign fresh.accessId u.email.text fresh.now).mapError Failure.ofTokenError

/-- Opens a session within a transaction. -/
def loginWithin (m : Means) (fresh : Fresh) (email password : String)
    (fingerprint : Fingerprint) : Operation (UserId × Session) := do
  let email ← demand ((Email.ofText email).mapError fun _ => .invalidCredentials)
  let some user ← ask (.findUserByEmail email) | throw .invalidCredentials
  let password ← demand ((Password.ofText password).mapError fun _ => .invalidCredentials)
  demand ((m.verify password user.passwordHash).mapError Failure.ofHashError)
  let access ← demand (m.signFor fresh user)
  let held ← ask (.tokensOf user.id)
  if m.policy.quota ≤ held.length then
    let revoked ← ask (.deleteTokensOf user.id)
    log { level := .info, message := "Refresh token quota reached, revoked all sessions",
          fields := [("user_id", user.id.text), ("revoked", toString revoked)] }
  let token := m.policy.issue fresh.tokenId user.id fingerprint fresh.now
  ask (.createToken token)
  return (user.id, ⟨access, token.id, token.lifetime⟩)

/-- Opens a session on a device. -/
def login (m : Means) (fresh : Fresh) (email password fingerprint : String) :
    Operation Session := do
  let fingerprint ← demand ((Fingerprint.ofText fingerprint).mapError fun e =>
    .invalidFingerprint e.message)
  call .begin
  match ← attempt (m.loginWithin fresh email password fingerprint) with
  | .ok (userId, session) =>
    call .commit
    log { level := .info, message := "User signed in",
          fields := [("user_id", userId.text), ("refresh_token_id", session.tokenId.text)] }
    return session
  | .error e =>
    if let .error f ← attempt (call .rollback) then
      log {
        level := .error, message := "Sign in rollback failed", fields := [("error", f.message)] }
    throw e

/-- Redeems a refresh token for a new one. -/
def refresh (m : Means) (fresh : Fresh) (tokenId fingerprint : String) : Operation Session := do
  let some id := RefreshTokenId.parse? tokenId | throw .invalidRefreshToken
  let some token ← ask (.findToken id) | throw .invalidRefreshToken
  if !(← ask (.deleteToken id)) then
    log { level := .warn, message := "Refresh token redeemed concurrently",
          fields := [("refresh_token_id", id.text)] }
    throw .invalidRefreshToken
  if !Service.isPresentedBy token fingerprint then
    log { level := .warn, message := "Refresh token presented with foreign fingerprint",
          fields := [("user_id", token.owner.text), ("refresh_token_id", id.text)] }
    throw .fingerprintMismatch
  if token.isExpiredAt fresh.now then
    let end? := match token.expiresAt? with
      | some t => "Some(" ++ t.text ++ ")"
      | none => "None"
    log { level := .warn, message := "Expired refresh token presented",
          fields := [("user_id", token.owner.text), ("refresh_token_id", id.text),
            ("expired_at", end?)] }
    throw .refreshTokenExpired
  let some user ← ask (.findUser token.owner) | throw .invalidRefreshToken
  let access ← demand (m.signFor fresh user)
  let next := m.policy.issue fresh.tokenId user.id token.fingerprint fresh.now
  ask (.createToken next)
  log { level := .info, message := "Refresh token rotated",
        fields := [("user_id", user.id.text), ("redeemed", id.text),
          ("refresh_token_id", next.id.text)] }
  return ⟨access, next.id, next.lifetime⟩

variable (s : Service) (fresh : Fresh)

theorem signUp_of (email password : String) :
    (of s).signUp fresh email password = s.signUp fresh email password := rfl

theorem login_of (email password fingerprint : String) :
    (of s).login fresh email password fingerprint = s.login fresh email password fingerprint := rfl

theorem refresh_of (tokenId fingerprint : String) :
    (of s).refresh fresh tokenId fingerprint = s.refresh fresh tokenId fingerprint := rfl

/-! ### Details of failures -/

/-- Two hashers and signers that fail at the same inputs, with failures that differ in their details
only. -/
structure Alike (m m' : Means) : Prop where
  hash : ∀ salt p, AlikeIn ((m.hash salt p).mapError Failure.ofHashError)
    ((m'.hash salt p).mapError Failure.ofHashError)
  verify : ∀ p h, AlikeIn ((m.verify p h).mapError Failure.ofHashError)
    ((m'.verify p h).mapError Failure.ofHashError)
  sign : ∀ id subject now, AlikeIn ((m.sign id subject now).mapError Failure.ofTokenError)
    ((m'.sign id subject now).mapError Failure.ofTokenError)
  policy : m'.policy = m.policy

variable {m m' : Means} {fresh : Fresh}

theorem Alike.signUp (h : m.Alike m') (email password : String) :
    (m.signUp fresh email password).Alike (m'.signUp fresh email password) := by
  unfold Means.signUp
  refine (alike_demand_refl _).bind fun email => (alike_ask _).bind fun u? => ?_
  refine alike_ite (fun _ => alike_throw _) fun _ => ?_
  refine (alike_demand_refl _).bind fun p => (alike_demand (h.hash _ _)).bind fun hash => ?_
  exact (alike_ask _).bind fun _ => (alike_log _).bind fun _ => alike_return _

theorem Alike.signFor (h : m.Alike m') (u : User) :
    AlikeIn (m.signFor fresh u) (m'.signFor fresh u) := h.sign _ _ _

theorem Alike.loginWithin (h : m.Alike m') (email password : String) (f : Fingerprint) :
    (m.loginWithin fresh email password f).Alike (m'.loginWithin fresh email password f) := by
  unfold Means.loginWithin
  rw [h.policy]
  refine (alike_demand_refl _).bind fun email => (alike_ask _).bind fun u? => ?_
  cases u? with
  | none => exact alike_throw _
  | some u =>
    refine (alike_demand_refl _).bind fun p => (alike_demand (h.verify _ _)).bind fun _ => ?_
    refine (alike_demand (h.signFor u)).bind fun access => (alike_ask _).bind fun held => ?_
    refine alike_ite (fun _ => ?_) fun _ => (alike_ask _).bind fun _ => alike_return _
    refine (alike_ask _).bind fun count => (alike_log _).bind fun _ => ?_
    exact (alike_ask _).bind fun _ => alike_return _

theorem Alike.login (h : m.Alike m') (email password device : String) :
    (m.login fresh email password device).Alike (m'.login fresh email password device) := by
  unfold Means.login
  refine (alike_demand_refl _).bind fun f => (alike_call (by simp)).bind fun _ => ?_
  refine alike_attempt_bind (h.loginWithin email password f) ?_
  rintro _ _ (⟨id, session⟩ | halike)
  · refine (alike_call (by simp)).bind fun _ => (alike_log _).bind fun _ => alike_return _
  · -- A rollback that fails is logged, and nothing else.
    have hend := Program.Alike.done (AlikeIn.error (α := Session) halike)
    refine alike_attempt_rollback_bind fun x y => ?_
    rcases x with e | _ <;> rcases y with e' | _
    · exact .log hend
    · exact .logLeft hend
    · exact .logRight hend
    · exact hend

theorem Alike.refresh (h : m.Alike m') (tokenId device : String) :
    (m.refresh fresh tokenId device).Alike (m'.refresh fresh tokenId device) := by
  unfold Means.refresh
  rw [h.policy]
  cases RefreshTokenId.parse? tokenId with
  | none => exact alike_throw _
  | some id =>
    refine (alike_ask _).bind fun token? => ?_
    cases token? with
    | none => exact alike_throw _
    | some token =>
      refine (alike_ask _).bind fun deleted => ?_
      refine alike_ite (fun _ => (alike_log _).bind fun _ => alike_throw _) fun _ => ?_
      refine alike_ite (fun _ => (alike_log _).bind fun _ => alike_throw _) fun _ => ?_
      refine alike_ite (fun _ => (alike_log _).bind fun _ => alike_throw _) fun _ => ?_
      refine (alike_ask _).bind fun u? => ?_
      cases u? with
      | none => exact alike_throw _
      | some u =>
        refine (alike_demand (h.signFor u)).bind fun access => (alike_ask _).bind fun _ => ?_
        exact (alike_log _).bind fun _ => alike_return _

end Means

end SessionAuth
