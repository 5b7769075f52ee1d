import SessionAuth.Account.Email
import SessionAuth.Time.Instant
import SessionAuth.Uuid

/-!
# Users

A user has an identifier, an email address and the hash of a password. Nothing of this changes
after sign-up.
-/

namespace SessionAuth

/-- The identifier of a user. -/
structure UserId where
  uuid : Uuid
deriving DecidableEq, Inhabited

namespace UserId

instance : Ord UserId := ⟨compareOn uuid⟩

instance : Std.TransOrd UserId := inferInstanceAs (Std.TransCmp (compareOn uuid))

instance : Std.LawfulEqOrd UserId where
  eq_of_compare {a b} h := by
    cases a
    cases b
    exact congrArg UserId.mk (Std.LawfulEqOrd.eq_of_compare h)

/-- The canonical text. -/
def text (id : UserId) : String := id.uuid.text

end UserId

/-- The text of a password hash as it is stored. It need not be well-formed: then no password
matches it. -/
structure PasswordHash where
  text : String
deriving DecidableEq, Inhabited, Repr

/-- What a log may show: nothing. -/
def PasswordHash.describe (_ : PasswordHash) : String := "HashedPassword \x7b hash: \"[HASH]\" \x7d"

/-- A registered user. -/
structure User where
  id : UserId
  email : Email
  passwordHash : PasswordHash
  createdAt : Instant
deriving DecidableEq, Inhabited

end SessionAuth
