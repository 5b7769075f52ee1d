import SessionAuth.Account.User
import SessionAuth.Password.Basic
import SessionAuth.Password.Phc

/-!
# Hashing passwords

A hasher turns passwords into hashes at its own costs, and checks passwords against hashes at the
costs that these name. A secret of the server, the pepper, is appended to every password. A hash
that cannot be read matches no password.
-/

namespace SessionAuth.Password

/-- Costs and pepper. -/
structure Hasher where
  cost : Argon2.Cost
  pepper : Option Bytes

namespace Hasher

/-- The costs where none are given. -/
def defaultCost : Argon2.Cost := ⟨19456, 2, 1⟩

/-- A hasher at the default costs. -/
def standard (pepper : Option Bytes) : Hasher := ⟨defaultCost, pepper⟩

/-- A hasher at the given costs. -/
def ofCost (cost : Argon2.Cost) (pepper : Option Bytes) : Except HashError Hasher :=
  match Phc.costFault? cost with
  | some .uncountable => .error .aborted
  | some fault => .error (.invalidCost fault.message)
  | none => .ok ⟨cost, pepper⟩

/-- What is hashed for a password. -/
def secret (h : Hasher) (p : Password) : Bytes := Text.utf8 p.text ++ h.pepper.getD []

/-- Bytes of a new hash. -/
def tagLength : Nat := 32

/-- The hash of a password under a salt. -/
def phc (h : Hasher) (salt : Bytes) (p : Password) : Phc :=
  let empty : Phc := ⟨.hybrid, .mixing, h.cost, [], salt, List.replicate tagLength 0⟩
  { empty with tag := empty.tagOf (h.secret p) }

/-- The stored hash of a password under a salt. -/
def hash (h : Hasher) (salt : Bytes) (p : Password) : PasswordHash := ⟨(h.phc salt p).text⟩

/-- Checks a password against a stored hash. -/
def verify (h : Hasher) (p : Password) (stored : PasswordHash) : Except HashError Unit := do
  let record ← Phc.parse stored.text
  if record.accepts (h.secret p) then return () else throw .wrongPassword

/-- What a log may show: no pepper. -/
def describe (h : Hasher) : String :=
  "PasswordHasher \x7b params: Params \x7b m_cost: " ++ toString h.cost.memory ++ ", t_cost: " ++
    toString h.cost.passes ++ ", p_cost: " ++ toString h.cost.lanes ++ ", .. \x7d, pepper: " ++
    (if h.pepper.isSome then "Some(\"[REDACTED]\")" else "None") ++ " \x7d"

end Hasher

end SessionAuth.Password
