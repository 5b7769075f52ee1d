import SessionAuth.Problem

/-!
# Faults of the database

Why a call to the database failed: it could not be reached, it answered with a condition code, its
answer made no sense, or the driver gave up for another reason.
-/

namespace SessionAuth.Database

/-- Why a call failed. -/
inductive Fault where
  | poolTimedOut
  | poolClosed
  | workerCrashed
  | rowNotFound
  | columnNotFound
  | protocol
  | connection
  | reported (code : Option String)
  | other (words : String)
deriving DecidableEq, Repr

namespace Fault

/-- Condition codes of a database that has run out of something. -/
def exhaustedCodes : List String := ["53000", "53100", "53200", "53300"]

/-- Condition codes of a database that stops or gives up. -/
def stoppedCodes : List String := ["57000", "57014", "57P01", "57P02", "57P03"]

/-- The condition code of a second row with one key. -/
def duplicateCode : String := "23505"

/-- What a client is told. -/
def summary : Fault → Problem.Kind × String
  | poolTimedOut | poolClosed | connection => (.serviceUnavailable, "Database unavailable")
  | reported (some code) =>
    if code = duplicateCode then (.conflict, "Duplicate key value")
    else if code ∈ exhaustedCodes then (.serviceUnavailable, "Database resource exhausted")
    else if code ∈ stoppedCodes then (.serviceUnavailable, "Database unavailable")
    else (.internalServerError, "Database error")
  | _ => (.internalServerError, "Database error")

/-- The words for the log. -/
def message : Fault → String
  | poolTimedOut => "pool timed out while waiting for an open connection"
  | poolClosed => "attempted to acquire a connection on a closed pool"
  | workerCrashed => "attempted to communicate with a crashed background worker"
  | rowNotFound => "no rows returned by a query that expected to return at least one row"
  | columnNotFound => "no column found for name"
  | protocol => "encountered unexpected or invalid data"
  | connection => "error communicating with database"
  | reported _ => "error returned from database"
  | other words => words

/-- The problem that a fault is. -/
def problem (f : Fault) : Problem := ⟨f.summary.1, f.summary.2, some f.message⟩

end Fault

end SessionAuth.Database
