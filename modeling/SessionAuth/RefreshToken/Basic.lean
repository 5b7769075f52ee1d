import SessionAuth.Account.User
import SessionAuth.RefreshToken.Fingerprint

/-!
# Refresh tokens

A refresh token can be redeemed once for a new session. It belongs to a user and a device and lives
for a fixed number of seconds. A lifetime that ends beyond the covered time never ends.
-/

namespace SessionAuth

/-- The identifier of a refresh token, which is also what a client presents. -/
structure RefreshTokenId where
  uuid : Uuid
deriving DecidableEq, Inhabited

namespace RefreshTokenId

instance : Ord RefreshTokenId := ⟨compareOn uuid⟩

instance : Std.TransOrd RefreshTokenId := inferInstanceAs (Std.TransCmp (compareOn uuid))

instance : Std.LawfulEqOrd RefreshTokenId where
  eq_of_compare {a b} h := by
    cases a
    cases b
    exact congrArg RefreshTokenId.mk (Std.LawfulEqOrd.eq_of_compare h)

/-- The canonical text. -/
def text (id : RefreshTokenId) : String := id.uuid.text

/-- The identifier that a text names, in any form that identifiers have. -/
def parse? (s : String) : Option RefreshTokenId := (Uuid.parse? s).map mk

end RefreshTokenId

/-- A refresh token. -/
structure RefreshToken where
  id : RefreshTokenId
  owner : UserId
  fingerprint : Fingerprint
  lifetime : Int
  createdAt : Instant
deriving DecidableEq, Inhabited

namespace RefreshToken

/-- The first instant at which the token is no longer valid. -/
def expiresAt? (t : RefreshToken) : Option Instant := t.createdAt.plusSeconds? t.lifetime

/-- Whether the token has ended. -/
def isExpiredAt (t : RefreshToken) (now : Instant) : Bool :=
  t.expiresAt?.any fun e => decide (e ≤ now)

/-- Whether the token belongs to the device. -/
def isBoundTo (t : RefreshToken) (presented : Fingerprint) : Bool := t.fingerprint.agrees presented

/-- The longest lifetime in seconds. -/
def maxLifetime : Nat := Nat.pow 2 63 - 1

/-- How long tokens live and how many of them a user may hold. -/
structure Policy where
  lifetime : Int
  quota : Nat
deriving DecidableEq, Repr

namespace Policy

/-- The policy with the given lifetime in seconds, cut to the longest one. -/
def ofSeconds (seconds quota : Nat) : Policy := ⟨min seconds maxLifetime, quota⟩

/-- A new token under the policy. -/
def issue (p : Policy) (id : RefreshTokenId) (owner : UserId) (fingerprint : Fingerprint)
    (now : Instant) : RefreshToken :=
  ⟨id, owner, fingerprint, p.lifetime, now⟩

end Policy

end RefreshToken

end SessionAuth
