import Std.Data.ExtTreeMap
import SessionAuth.Failure
import SessionAuth.RefreshToken.Basic

/-!
# The store

Users, the addresses they are registered under, and the refresh tokens they hold. Each operation
that may be refused leaves the store as it was when it is.
-/

namespace SessionAuth

/-- Users and tokens under their identifiers, and the user of each address. -/
structure Store where
  users : Std.ExtTreeMap UserId User
  emails : Std.ExtTreeMap Email UserId
  tokens : Std.ExtTreeMap RefreshTokenId RefreshToken

namespace Store

/-- The store without users. -/
def empty : Store := ⟨∅, ∅, ∅⟩

instance : Inhabited Store := ⟨empty⟩

/-! ### Users -/

/-- Adds a user whose address and identifier are new. -/
def addUser (s : Store) (u : User) : Except Failure Store :=
  if s.emails.contains u.email || s.users.contains u.id then .error .emailTaken
  else .ok { s with users := s.users.insert u.id u, emails := s.emails.insert u.email u.id }

/-- Removes a user with the address and all tokens. -/
def removeUser (s : Store) (id : UserId) : Store :=
  match s.users[id]? with
  | none => s
  | some u =>
    { users := s.users.erase id
      emails := s.emails.erase u.email
      tokens := s.tokens.filter fun _ t => t.owner ≠ id }

/-- The user with an identifier. -/
def user? (s : Store) (id : UserId) : Option User := s.users[id]?

/-- The user registered under an address. -/
def userByEmail? (s : Store) (email : Email) : Option User := s.emails[email]?.bind s.user?

/-! ### Tokens -/

/-- Adds a token with a new identifier for a user of the store. -/
def addToken (s : Store) (t : RefreshToken) : Except Failure Store :=
  if !s.users.contains t.owner then
    .error (.internal ("Refresh token owner " ++ t.owner.text ++ " does not exist"))
  else if s.tokens.contains t.id then
    .error (.internal ("Duplicate refresh token id " ++ t.id.text))
  else .ok { s with tokens := s.tokens.insert t.id t }

/-- Puts a token under its identifier, whatever was there. -/
def putToken (s : Store) (t : RefreshToken) : Store := { s with tokens := s.tokens.insert t.id t }

/-- Removes the token with an identifier. -/
def removeToken (s : Store) (id : RefreshTokenId) : Store := { s with tokens := s.tokens.erase id }

/-- The token with an identifier. -/
def token? (s : Store) (id : RefreshTokenId) : Option RefreshToken := s.tokens[id]?

/-- The tokens that satisfy a condition. -/
def tokensWhere (s : Store) (condition : RefreshToken → Bool) : List RefreshToken :=
  s.tokens.values.filter condition

/-- Removes the tokens that satisfy a condition. -/
def removeTokensWhere (s : Store) (condition : RefreshToken → Bool) : Store :=
  { s with tokens := s.tokens.filter fun _ t => !condition t }

/-- The tokens of a user, oldest first. Those of one instant stand in the order of their
identifiers, which other stores may leave open. Logins only count them. -/
def tokensOf (s : Store) (owner : UserId) : List RefreshToken :=
  (s.tokensWhere (·.owner = owner)).mergeSort fun a b => decide (a.createdAt ≤ b.createdAt)

/-! ### Consistency -/

/-- Addresses and users name each other, every token is stored under its own identifier, and every
token has an owner. -/
structure IsConsistent (s : Store) : Prop where
  email_iff : ∀ (e : Email) (id : UserId),
    s.emails[e]? = some id ↔ ∃ u, s.users[id]? = some u ∧ u.id = id ∧ u.email = e
  user_id : ∀ (id : UserId) (u : User), s.users[id]? = some u → u.id = id
  token_id : ∀ (id : RefreshTokenId) (t : RefreshToken), s.tokens[id]? = some t → t.id = id
  owner_mem : ∀ (id : RefreshTokenId) (t : RefreshToken), s.tokens[id]? = some t → t.owner ∈ s.users

end Store

end SessionAuth
