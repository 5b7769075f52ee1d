import SessionAuth.AccessToken.Algorithm
import SessionAuth.Http.Cookie
import SessionAuth.RefreshToken.Basic

/-!
# Configuration of sessions

How long tokens live, how many of them a user may hold, how they are signed and how they travel.
-/

namespace SessionAuth.Config

/-- The configuration of sessions. -/
structure Session where
  issuer : String := "customers-api"
  algorithm : AccessToken.Algorithm := .edwards
  accessLifetime : Nat := 600
  refreshLifetime : Nat := 2592000
  quota : Nat := 5
  cookieName : String := "refresh_token"
  cookiePath : String := "/api/auth"
  isCookieSecure : Bool := true
  sameSite : Http.SameSite := .strict
  pepper : Option Bytes := none
deriving DecidableEq, Repr

namespace Session

/-- The configuration for use on one's own machine, where cookies travel in the clear. -/
def development : Session := { isCookieSecure := false }

/-- The cookie of refresh tokens. -/
def cookie (c : Session) : Http.Cookie := ⟨c.cookieName, c.isCookieSecure, c.sameSite, c.cookiePath⟩

/-- The policy for refresh tokens. -/
def refreshPolicy (c : Session) : RefreshToken.Policy := .ofSeconds c.refreshLifetime c.quota

end Session

end SessionAuth.Config
