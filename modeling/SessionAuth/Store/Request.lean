import SessionAuth.Store.Basic

/-!
# Requests to the store

A request asks the store for something or changes it. With its answer and the changed store it
yields what has to be done to take the change back.
-/

namespace SessionAuth

/-- What the store may be asked. -/
inductive Request where
  | createUser (u : User)
  | findUserByEmail (email : Email)
  | findUser (id : UserId)
  | createToken (t : RefreshToken)
  | findToken (id : RefreshTokenId)
  | tokensOf (owner : UserId)
  | deleteToken (id : RefreshTokenId)
  | deleteTokensOf (owner : UserId)
  | deleteExpired (now : Instant)

namespace Request

/-- The type of the answer: what was found, or how many tokens were deleted. -/
@[reducible] def Answer : Request → Type
  | createUser _ => Unit
  | findUserByEmail _ => Option User
  | findUser _ => Option User
  | createToken _ => Unit
  | findToken _ => Option RefreshToken
  | tokensOf _ => List RefreshToken
  | deleteToken _ => Bool
  | deleteTokensOf _ => Nat
  | deleteExpired _ => Nat

/-- The answer when there is nothing to find or delete. A creation has none. -/
def nothing? : (r : Request) → Option r.Answer
  | createUser _ => none
  | findUserByEmail _ => some none
  | findUser _ => some none
  | createToken _ => none
  | findToken _ => some none
  | tokensOf _ => some []
  | deleteToken _ => some false
  | deleteTokensOf _ => some 0
  | deleteExpired _ => some 0

/-- What a request logs once it is answered outside a transaction. -/
def events : (r : Request) → r.Answer → List Event
  | deleteExpired _, count =>
    [{ level := .info, message := "Cleaned up expired refresh tokens",
       fields := [("tokens_deleted", toString count)] }]
  | _, _ => []

end Request

/-! ### Taking back -/

/-- How a change is taken back. -/
inductive Undo where
  | removeUser (id : UserId)
  | removeToken (id : RefreshTokenId)
  | restoreToken (t : RefreshToken)
deriving DecidableEq

/-- Takes one change back. -/
def Undo.apply (s : Store) : Undo → Store
  | removeUser id => s.removeUser id
  | removeToken id => s.removeToken id
  | restoreToken t => s.putToken t

/-- Takes changes back, the latest first. -/
def Store.takeBack (s : Store) (journal : List Undo) : Store := journal.reverse.foldl Undo.apply s

/-! ### Answering -/

/-- An answer, the store after it, and how to take the change back. -/
structure Effect (α : Type) where
  answer : Except Failure α
  store : Store
  journal : List Undo := []

/-- Adds something, or leaves the store as it is when that is refused. -/
def Store.add (s : Store) (result : Except Failure Store) (undo : Undo) : Effect Unit :=
  match result with
  | .ok s => ⟨.ok (), s, [undo]⟩
  | .error e => ⟨.error e, s, []⟩

/-- Deletes the tokens that satisfy a condition. -/
def Store.delete (s : Store) (condition : RefreshToken → Bool) : Effect Nat :=
  let removed := s.tokensWhere condition
  ⟨.ok removed.length, s.removeTokensWhere condition, removed.map .restoreToken⟩

/-- Answers a request. -/
def Store.answer (s : Store) : (r : Request) → Effect r.Answer
  | .createUser u => s.add (s.addUser u) (.removeUser u.id)
  | .findUserByEmail email => ⟨.ok (s.userByEmail? email), s, []⟩
  | .findUser id => ⟨.ok (s.user? id), s, []⟩
  | .createToken t => s.add (s.addToken t) (.removeToken t.id)
  | .findToken id => ⟨.ok (s.token? id), s, []⟩
  | .tokensOf owner => ⟨.ok (s.tokensOf owner), s, []⟩
  | .deleteToken id =>
    match s.token? id with
    | some t => ⟨.ok true, s.removeToken id, [.restoreToken t]⟩
    | none => ⟨.ok false, s, []⟩
  | .deleteTokensOf owner => s.delete (·.owner = owner)
  | .deleteExpired now => s.delete (·.isExpiredAt now)

end SessionAuth
