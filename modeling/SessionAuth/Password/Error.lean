/-!
# Errors about passwords

Why a new password is refused, and why a password cannot be hashed or does not match.
-/

namespace SessionAuth.Password

/-- The fewest characters of a password. -/
def minLength : Nat := 8

/-- The most characters of a password. -/
def maxLength : Nat := 128

/-- Why a password is refused. -/
inductive PolicyError where
  | blank
  | tooShort (length : Nat)
  | tooLong (length : Nat)
  | controlCharacter
deriving DecidableEq, Repr

/-- The words of an error. -/
def PolicyError.message : PolicyError → String
  | blank => "Password cannot be empty or contain only whitespace"
  | tooShort n =>
    "Password must be at least " ++ toString minLength ++ " characters (got " ++ toString n ++ ")"
  | tooLong n =>
    "Password must be at most " ++ toString maxLength ++ " characters (got " ++ toString n ++ ")"
  | controlCharacter => "Password contains invalid control characters"

/-- Why costs are refused. The least memory of very many lanes cannot be counted, which nothing can
be made of. -/
inductive CostFault where
  | memory
  | uncountable
  | passes
  | fewLanes
  | manyLanes
deriving DecidableEq, Repr

/-- The words of a fault. -/
def CostFault.message : CostFault → String
  | memory => "memory cost is too small"
  | uncountable => "memory cost cannot be counted"
  | passes => "time cost is too small"
  | fewLanes => "not enough threads"
  | manyLanes => "too many threads"

/-- Why a password cannot be hashed or does not match. Work that is aborted has no other outcome; it
is aborted in builds that check for overflow only. -/
inductive HashError where
  | failed (detail : String)
  | invalidCost (detail : String)
  | wrongPassword
  | aborted
deriving DecidableEq, Repr

/-- The words of an error. -/
def HashError.message : HashError → String
  | failed detail => "Password hashing failed: " ++ detail
  | invalidCost detail => "Invalid password hashing parameters: " ++ detail
  | wrongPassword => "Wrong password"
  | aborted => "Password hashing was aborted"

end SessionAuth.Password
