import SessionAuth.Store.Request

/-!
# Transactions

A vault is a store with a lock. A transaction takes the lock, changes the store at once, and keeps a
journal; ended without a commit, it takes all its changes back. While it is open, calls from outside
have to wait.
-/

namespace SessionAuth

/-- What an operation may call: a request, or the start or end of a transaction. -/
inductive Call where
  | ask (r : Request)
  | begin
  | commit
  | rollback

namespace Call

/-- The type of the answer. -/
@[reducible] def Answer : Call → Type
  | ask r => r.Answer
  | begin => Unit
  | commit => Unit
  | rollback => Unit

/-- Whether the caller is in a transaction after an answered call. A transaction that fails to
start is not entered; one that fails to end is left all the same. -/
def isInsideAfter (isInside : Bool) : (c : Call) → Except Failure c.Answer → Bool
  | ask _, _ => isInside
  | begin, .ok () => true
  | begin, .error _ => isInside
  | commit, _ => false
  | rollback, _ => false

end Call

/-- An answer, the state after it, and what was logged. -/
structure Reply (σ α : Type) where
  answer : Except Failure α
  state : σ
  events : List Event := []

/-- A store and, while a transaction is open, its journal. -/
structure Vault where
  store : Store
  journal : Option (List Undo) := none

namespace Vault

/-- The vault without users. -/
def empty : Vault := ⟨.empty, none⟩

/-- The state after an open transaction has ended without a commit. -/
def drop (v : Vault) : Vault := ⟨v.store.takeBack (v.journal.getD []), none⟩

/-- Answers a request from outside. -/
def answerOutside (s : Store) (r : Request) : Reply Vault r.Answer :=
  let effect := s.answer r
  let events := match effect.answer with
    | .ok a => r.events a
    | .error _ => []
  ⟨effect.answer, ⟨effect.store, none⟩, events⟩

/-- Answers a request within the transaction. -/
def answerInside (s : Store) (journal : List Undo) (r : Request) : Reply Vault r.Answer :=
  let effect := s.answer r
  ⟨effect.answer, ⟨effect.store, some (journal ++ effect.journal)⟩, []⟩

/-- Answers a call of a caller who is in the open transaction or not. No answer means that the
caller has to wait. -/
def reply? (v : Vault) (isInside : Bool) : (c : Call) → Option (Reply Vault c.Answer)
  | .ask r =>
    match v.journal with
    | none => some (answerOutside v.store r)
    | some journal => if isInside then some (answerInside v.store journal r) else none
  | .begin => if v.journal.isSome then none else some ⟨.ok (), ⟨v.store, some []⟩, []⟩
  | .commit => some ⟨.ok (), if isInside then ⟨v.store, none⟩ else v, []⟩
  | .rollback => some ⟨.ok (), if isInside then v.drop else v, []⟩

end Vault

end SessionAuth
