import SessionAuth.Config.Server
import SessionAuth.Proofs.Result

/-!
# What an accepted configuration holds

The variables are read one behind the other (`readSession_eq`), and a configuration that is accepted
holds what they say, within the bounds that are checked (`Session.IsReadFrom`).
-/

namespace SessionAuth.Config

namespace Server

variable {env : Environment}

/-- The algorithm of a configuration. -/
def readAlgorithm (env : Environment) : Except Error AccessToken.Algorithm :=
  match lookup env .algorithm with
  | some name => (AccessToken.Algorithm.parse name).mapError .algorithm
  | none => .ok .edwards

/-- The pepper of a configuration. -/
def readPepper (env : Environment) : Except Error (Option Bytes) :=
  match lookup env .pepper with
  | none => .ok none
  | some raw =>
    match Base64.standard.decode? (Text.trim raw) with
    | some bytes => .ok (some bytes)
    | none => .error .pepper

/-- The policy for the cookie of a configuration. -/
def readPolicy (env : Environment) : Except Error Http.SameSite :=
  match lookup env .sameSite with
  | none => .ok .strict
  | some raw => readSameSite raw

/-- The variables are read one behind the other. -/
theorem readSession_eq (env : Environment) : readSession env = do
    let algorithm ← readAlgorithm env
    let quota ← readOr env .quota 5 readNumber
    if quota < 1 then throw .noQuota else
    let accessLifetime ← readOr env .accessLifetime 600 readNumber
    let refreshLifetime ← readOr env .refreshLifetime 2592000 readNumber
    if !isLifetime accessLifetime then throw (.lifetimeOutOfRange .accessLifetime) else
    if !isLifetime refreshLifetime then throw (.lifetimeOutOfRange .refreshLifetime) else
    let pepper ← readPepper env
    let sameSite ← readPolicy env
    let isCookieSecure ← readOr env .https isSecureByDefault readBool
    return {
      issuer := (lookup env .issuer).getD "customers-api"
      algorithm, accessLifetime, refreshLifetime, quota
      cookieName := (lookup env .cookieName).getD "refresh_token"
      isCookieSecure, sameSite, pepper } := by
  unfold readSession readAlgorithm readPepper readPolicy
  cases lookup env .pepper with
  | none => cases lookup env .algorithm <;> cases lookup env .sameSite <;> rfl
  | some raw =>
    dsimp only
    cases Base64.standard.decode? (Text.trim raw) <;> cases lookup env .algorithm <;>
      cases lookup env .sameSite <;> rfl

/-! ### What is accepted -/

theorem isLifetime_iff {seconds : Nat} :
    isLifetime seconds = true ↔ 1 ≤ seconds ∧ seconds ≤ maxLifetime := by
  simp [isLifetime]

/-- The algorithm that is read has the name that was given, or is the default. -/
theorem name_of_readAlgorithm {a : AccessToken.Algorithm} (h : readAlgorithm env = .ok a) :
    a.name = ((lookup env .algorithm).map Text.trim).getD "EdDSA" := by
  unfold readAlgorithm at h
  cases hname : lookup env .algorithm with
  | none =>
    rw [hname] at h
    cases h
    rfl
  | some name =>
    rw [hname] at h
    have hparse : AccessToken.Algorithm.parse name = .ok a := mapError_eq_ok.1 h
    unfold AccessToken.Algorithm.parse at hparse
    dsimp only at hparse
    split at hparse
    next a' hfound =>
      cases hparse
      simpa using List.find?_some hfound
    · cases hparse

end Server

open Server

variable {env : Environment} {server : Server} {c : Session}

/-- The configuration holds what the variables say, within the bounds that are checked. -/
structure Session.IsReadFrom (env : Environment) (c : Session) : Prop where
  algorithm : readAlgorithm env = .ok c.algorithm
  quota : readOr env .quota 5 readNumber = .ok c.quota
  one_le_quota : 1 ≤ c.quota
  accessLifetime : readOr env .accessLifetime 600 readNumber = .ok c.accessLifetime
  isLifetime_access : isLifetime c.accessLifetime = true
  refreshLifetime : readOr env .refreshLifetime 2592000 readNumber = .ok c.refreshLifetime
  isLifetime_refresh : isLifetime c.refreshLifetime = true
  pepper : readPepper env = .ok c.pepper
  sameSite : readPolicy env = .ok c.sameSite
  isCookieSecure : readOr env .https isSecureByDefault readBool = .ok c.isCookieSecure
  issuer : c.issuer = (lookup env .issuer).getD "customers-api"
  cookieName : c.cookieName = (lookup env .cookieName).getD "refresh_token"
  cookiePath : c.cookiePath = "/api/auth"

namespace Server

theorem isReadFrom_of_readSession (h : readSession env = .ok c) : c.IsReadFrom env := by
  rw [readSession_eq] at h
  obtain ⟨algorithm, halgorithm, h⟩ := bind_eq_ok.1 h
  obtain ⟨quota, hquota, h⟩ := bind_eq_ok.1 h
  split at h
  · cases h
  rename_i hone
  obtain ⟨accessLifetime, haccess, h⟩ := bind_eq_ok.1 h
  obtain ⟨refreshLifetime, hrefresh, h⟩ := bind_eq_ok.1 h
  split at h
  · cases h
  rename_i hisAccess
  split at h
  · cases h
  rename_i hisRefresh
  obtain ⟨pepper, hpepper, h⟩ := bind_eq_ok.1 h
  obtain ⟨sameSite, hsameSite, h⟩ := bind_eq_ok.1 h
  obtain ⟨isCookieSecure, hsecure, h⟩ := bind_eq_ok.1 h
  cases h
  exact ⟨halgorithm, hquota, Nat.le_of_not_lt hone, haccess, by simpa using hisAccess, hrefresh,
    by simpa using hisRefresh, hpepper, hsameSite, hsecure, rfl, rfl, rfl⟩

theorem isReadFrom_of_read (h : read env = .ok server) : server.session.IsReadFrom env := by
  unfold read at h
  obtain ⟨session, hsession, h⟩ := bind_eq_ok.1 h
  obtain ⟨address, -, h⟩ := bind_eq_ok.1 h
  obtain ⟨timeout, -, h⟩ := bind_eq_ok.1 h
  obtain ⟨privateKeyFile, -, h⟩ := bind_eq_ok.1 h
  obtain ⟨publicKeyFile, -, h⟩ := bind_eq_ok.1 h
  cases h
  exact isReadFrom_of_readSession hsession

end Server

/-! ### Names of the cookie -/

/-- The variables that have to be there, and a name for the cookie. -/
def Environment.ofCookie (name : String) : Environment
  | .privateKeyFile => some "private.pem"
  | .publicKeyFile => some "public.pem"
  | .cookieName => some name
  | _ => none

/-- Every name that is not blank is accepted. -/
theorem Server.exists_read_ofCookie {name : String} (h : Text.isBlankText name = false) :
    ∃ server, read (.ofCookie name) = .ok server ∧ server.session.cookieName = name := by
  have hlookup : lookup (.ofCookie name) .cookieName = some name := by
    simp [lookup, Environment.ofCookie, h]
  refine ⟨_, rfl, ?_⟩
  show (lookup (.ofCookie name) .cookieName).getD "refresh_token" = name
  rw [hlookup, Option.getD_some]

end SessionAuth.Config
