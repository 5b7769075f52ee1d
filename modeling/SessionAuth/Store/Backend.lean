import SessionAuth.Store.Vault

/-!
# Backends

A backend answers calls over a state of its own: the vault in memory, a database in which every call
meets a fault, or the vault with calls that go wrong. A call that goes wrong has its answer before
it is let in, and so without a wait.
-/

namespace SessionAuth

/-- Answers calls of callers who are in a transaction or not: at the door, or once they have been
let in. A caller without an answer at the door is let in, and one who has been let in and has no
answer has to wait. -/
structure Backend (σ : Type) where
  turnAway : (isInside : Bool) → (c : Call) → σ → Option (Reply σ c.Answer) := fun _ _ _ => none
  serve : (isInside : Bool) → (c : Call) → σ → Option (Reply σ c.Answer)

namespace Backend

/-- The vault in memory. -/
def memory : Backend Vault where
  serve isInside c v := v.reply? isInside c

/-- The failure of a call that meets a fault of the database. A second row with the key of a new
user means that the address is taken. -/
def failureOf (fault : Database.Fault) : Call → Failure
  | .ask (.createUser _) =>
    if fault = .reported (some Database.Fault.duplicateCode) then .emailTaken else .database fault
  | _ => .database fault

/-- A database that meets every call with a fault. -/
def faulty {σ : Type} (fault : Database.Fault) : Backend σ where
  serve _ c s := some ⟨.error (failureOf fault c), s, []⟩

/-- A database whose connections are closed: every call fails. -/
def closed {σ : Type} : Backend σ := faulty .poolClosed

/-! ### Interference -/

/-- What may happen to a call instead: it fails, or it finds and deletes nothing. -/
inductive Interference where
  | fail (f : Failure)
  | ignore

/-- Which calls are interfered with. -/
abbrev Plan := (isInside : Bool) → Call → Option Interference

/-- The answer when there is nothing to find or delete. -/
def nothing? : (c : Call) → Option c.Answer
  | .ask r => r.nothing?
  | _ => none

/-- A failed end of a transaction drops it. -/
def afterFailure (isInside : Bool) (v : Vault) : Call → Vault
  | .commit | .rollback => if isInside then v.drop else v
  | _ => v

/-- The answer of a call that is interfered with. -/
def interfere (plan : Plan) (isInside : Bool) (c : Call) (v : Vault) :
    Option (Reply Vault c.Answer) :=
  match plan isInside c with
  | none => none
  | some (.fail f) => some ⟨.error f, afterFailure isInside v c, []⟩
  | some .ignore => (nothing? c).map fun a => ⟨.ok a, v, []⟩

/-- The vault in memory under interference. -/
def disturbed (plan : Plan) : Backend Vault := { memory with turnAway := interfere plan }

end Backend

end SessionAuth
