import SessionAuth.Proofs.Service.Follows
import SessionAuth.Proofs.Service.Interleaving

/-!
# The conduct of operations

Which calls each command makes after what it was told (`Service.Calls`), and how it ends
(`Service.Ends`). The programs do so whatever they are told (`perform_follows`), and so does every
task under way (`Task.Step.conforms`).
-/

namespace SessionAuth

namespace Service

open Operation (demand follows_bind follows_ask_bind follows_call_bind follows_log_bind
  follows_attempt_bind)

variable {s : Service} {fresh : Fresh}

/-! ### Calls and ends -/

/-- The access token of a user who gives the right password. -/
def accessFor (s : Service) (fresh : Fresh) (password : String) (u : User) :
    Except Failure AccessToken.Signed := do
  let password ← (Password.ofText password).mapError fun _ => .invalidCredentials
  (s.hasher.verify password u.passwordHash).mapError Failure.ofHashError
  s.signFor fresh u

/-- What a login asks within its transaction, after what it was told there. -/
inductive LoginAsks (s : Service) (fresh : Fresh) (text password : String) (f : Fingerprint) :
    List Exchange → Request → Prop
  | user {email : Email} (he : Email.ofText text = .ok email) :
    LoginAsks s fresh text password f [] (.findUserByEmail email)
  | held {email : Email} {u : User} {access : AccessToken.Signed}
    (he : Email.ofText text = .ok email) (ha : s.accessFor fresh password u = .ok access) :
    LoginAsks s fresh text password f [⟨.ask (.findUserByEmail email), .ok (some u)⟩]
      (.tokensOf u.id)
  | evict {email : Email} {u : User} {access : AccessToken.Signed} {held : List RefreshToken}
    (he : Email.ofText text = .ok email) (ha : s.accessFor fresh password u = .ok access)
    (hq : s.policy.quota ≤ held.length) :
    LoginAsks s fresh text password f
      [⟨.ask (.findUserByEmail email), .ok (some u)⟩, ⟨.ask (.tokensOf u.id), .ok held⟩]
      (.deleteTokensOf u.id)
  | create {email : Email} {u : User} {access : AccessToken.Signed} {held : List RefreshToken}
    (he : Email.ofText text = .ok email) (ha : s.accessFor fresh password u = .ok access)
    (hq : held.length < s.policy.quota) :
    LoginAsks s fresh text password f
      [⟨.ask (.findUserByEmail email), .ok (some u)⟩, ⟨.ask (.tokensOf u.id), .ok held⟩]
      (.createToken (s.policy.issue fresh.tokenId u.id f fresh.now))
  | createEvicted {email : Email} {u : User} {access : AccessToken.Signed}
    {held : List RefreshToken} {count : Nat} (he : Email.ofText text = .ok email)
    (ha : s.accessFor fresh password u = .ok access) (hq : s.policy.quota ≤ held.length) :
    LoginAsks s fresh text password f
      [⟨.ask (.findUserByEmail email), .ok (some u)⟩, ⟨.ask (.tokensOf u.id), .ok held⟩,
        ⟨.ask (.deleteTokensOf u.id), .ok count⟩]
      (.createToken (s.policy.issue fresh.tokenId u.id f fresh.now))

/-- How the inside of a login ends. -/
inductive LoginEnds (s : Service) (fresh : Fresh) (text password : String) (f : Fingerprint) :
    List Exchange → Except Failure (UserId × Session) → Prop
  | failed {history : List Exchange} {r : Request} {e : Failure}
    (h : LoginAsks s fresh text password f history r) :
    LoginEnds s fresh text password f (history ++ [⟨.ask r, .error e⟩]) (.error e)
  | malformed {e : Email.Error} (he : Email.ofText text = .error e) :
    LoginEnds s fresh text password f [] (.error .invalidCredentials)
  | unknown {email : Email} (he : Email.ofText text = .ok email) :
    LoginEnds s fresh text password f [⟨.ask (.findUserByEmail email), .ok none⟩]
      (.error .invalidCredentials)
  | refused {email : Email} {u : User} {e : Failure} (he : Email.ofText text = .ok email)
    (ha : s.accessFor fresh password u = .error e) :
    LoginEnds s fresh text password f [⟨.ask (.findUserByEmail email), .ok (some u)⟩] (.error e)
  | opened {history : List Exchange} {u : User} {access : AccessToken.Signed}
    (ha : s.accessFor fresh password u = .ok access)
    (hc : LoginAsks s fresh text password f history
      (.createToken (s.policy.issue fresh.tokenId u.id f fresh.now))) :
    LoginEnds s fresh text password f
      (history ++ [⟨.ask (.createToken (s.policy.issue fresh.tokenId u.id f fresh.now)), .ok ()⟩])
      (.ok (u.id, ⟨access, fresh.tokenId, s.policy.lifetime⟩))

/-- What a refresh was told once it has claimed the token. -/
def claim (id : RefreshTokenId) (token : RefreshToken) : List Exchange :=
  [⟨.ask (.findToken id), .ok (some token)⟩, ⟨.ask (.deleteToken id), .ok true⟩]

/-- What a command calls, in a transaction or not, after what it was told. -/
inductive Calls (s : Service) (fresh : Fresh) : Command → Bool → List Exchange → Call → Prop
  | findEmail {text password : String} {email : Email} (he : Email.ofText text = .ok email) :
    Calls s fresh (.signUp text password) false [] (.ask (.findUserByEmail email))
  | createUser {text password : String} {email : Email} {p : Password}
    (he : Email.ofText text = .ok email) (hp : Password.ofText password = .ok p) :
    Calls s fresh (.signUp text password) false [⟨.ask (.findUserByEmail email), .ok none⟩]
      (.ask (.createUser ⟨fresh.userId, email, s.hasher.hash fresh.salt p, fresh.now⟩))
  | begin {text password device : String} {f : Fingerprint}
    (hf : Fingerprint.ofText device = .ok f) :
    Calls s fresh (.login text password device) false [] .begin
  | within {text password device : String} {f : Fingerprint} {history : List Exchange} {r : Request}
    (hf : Fingerprint.ofText device = .ok f) (h : LoginAsks s fresh text password f history r) :
    Calls s fresh (.login text password device) true (⟨.begin, .ok ()⟩ :: history) (.ask r)
  | commit {text password device : String} {f : Fingerprint} {history : List Exchange}
    {r : UserId × Session} (hf : Fingerprint.ofText device = .ok f)
    (h : LoginEnds s fresh text password f history (.ok r)) :
    Calls s fresh (.login text password device) true (⟨.begin, .ok ()⟩ :: history) .commit
  | rollback {text password device : String} {f : Fingerprint} {history : List Exchange}
    {e : Failure} (hf : Fingerprint.ofText device = .ok f)
    (h : LoginEnds s fresh text password f history (.error e)) :
    Calls s fresh (.login text password device) true (⟨.begin, .ok ()⟩ :: history) .rollback
  | find {text device : String} {id : RefreshTokenId} (hid : RefreshTokenId.parse? text = some id) :
    Calls s fresh (.refresh text device) false [] (.ask (.findToken id))
  | redeem {text device : String} {id : RefreshTokenId} {token : RefreshToken}
    (hid : RefreshTokenId.parse? text = some id) :
    Calls s fresh (.refresh text device) false [⟨.ask (.findToken id), .ok (some token)⟩]
      (.ask (.deleteToken id))
  | findOwner {text device : String} {id : RefreshTokenId} {token : RefreshToken}
    (hid : RefreshTokenId.parse? text = some id) (hf : isPresentedBy token device)
    (he : token.isExpiredAt fresh.now = false) :
    Calls s fresh (.refresh text device) false (claim id token) (.ask (.findUser token.owner))
  | renew {text device : String} {id : RefreshTokenId} {token : RefreshToken} {u : User}
    {access : AccessToken.Signed} (hid : RefreshTokenId.parse? text = some id)
    (hf : isPresentedBy token device) (he : token.isExpiredAt fresh.now = false)
    (hs : s.signFor fresh u = .ok access) :
    Calls s fresh (.refresh text device) false
      (claim id token ++ [⟨.ask (.findUser token.owner), .ok (some u)⟩])
      (.ask (.createToken (s.policy.issue fresh.tokenId u.id token.fingerprint fresh.now)))
  | revoke {text : String} {id : RefreshTokenId} (hid : RefreshTokenId.parse? text = some id) :
    Calls s fresh (.logout text) false [] (.ask (.deleteToken id))
  | cleanUp : Calls s fresh .cleanUp false [] (.ask (.deleteExpired fresh.now))

/-- How a command ends, after what it was told. -/
inductive Ends (s : Service) (fresh : Fresh) :
    Command → List Exchange → Except Failure Outcome → Prop
  | failed {command : Command} {history : List Exchange} {c : Call} {e : Failure}
    (h : s.Calls fresh command false history c) :
    Ends s fresh command (history ++ [⟨c, .error e⟩]) (.error e)
  | invalidEmail {text password : String} {e : Email.Error} (he : Email.ofText text = .error e) :
    Ends s fresh (.signUp text password) [] (.error (.invalidEmail e.message))
  | taken {text password : String} {email : Email} {u : User}
    (he : Email.ofText text = .ok email) :
    Ends s fresh (.signUp text password) [⟨.ask (.findUserByEmail email), .ok (some u)⟩]
      (.error .emailTaken)
  | invalidPassword {text password : String} {email : Email} {e : Password.PolicyError}
    (he : Email.ofText text = .ok email) (hp : Password.ofText password = .error e) :
    Ends s fresh (.signUp text password) [⟨.ask (.findUserByEmail email), .ok none⟩]
      (.error (.passwordValidation e.message))
  | signedUp {text password : String} {history : List Exchange} {u : User}
    (h : s.Calls fresh (.signUp text password) false history (.ask (.createUser u))) :
    Ends s fresh (.signUp text password) (history ++ [⟨.ask (.createUser u), .ok ()⟩])
      (.ok (.account u))
  | invalidDevice {text password device : String} {e : Fingerprint.Error}
    (hf : Fingerprint.ofText device = .error e) :
    Ends s fresh (.login text password device) [] (.error (.invalidFingerprint e.message))
  | committed {text password device : String} {f : Fingerprint} {history : List Exchange}
    {id : UserId} {session : Session} (hf : Fingerprint.ofText device = .ok f)
    (h : LoginEnds s fresh text password f history (.ok (id, session))) :
    Ends s fresh (.login text password device)
      (⟨.begin, .ok ()⟩ :: history ++ [⟨.commit, .ok ()⟩]) (.ok (.session session))
  | uncommitted {text password device : String} {f : Fingerprint} {history : List Exchange}
    {r : UserId × Session} {e : Failure} (hf : Fingerprint.ofText device = .ok f)
    (h : LoginEnds s fresh text password f history (.ok r)) :
    Ends s fresh (.login text password device)
      (⟨.begin, .ok ()⟩ :: history ++ [⟨.commit, .error e⟩]) (.error e)
  | rolledBack {text password device : String} {f : Fingerprint} {history : List Exchange}
    {e : Failure} {x : Except Failure Unit} (hf : Fingerprint.ofText device = .ok f)
    (h : LoginEnds s fresh text password f history (.error e)) :
    Ends s fresh (.login text password device)
      (⟨.begin, .ok ()⟩ :: history ++ [⟨.rollback, x⟩]) (.error e)
  | unreadable {text device : String} (hid : RefreshTokenId.parse? text = none) :
    Ends s fresh (.refresh text device) [] (.error .invalidRefreshToken)
  | missing {text device : String} {id : RefreshTokenId}
    (hid : RefreshTokenId.parse? text = some id) :
    Ends s fresh (.refresh text device) [⟨.ask (.findToken id), .ok none⟩]
      (.error .invalidRefreshToken)
  | lost {text device : String} {id : RefreshTokenId} {token : RefreshToken}
    (hid : RefreshTokenId.parse? text = some id) :
    Ends s fresh (.refresh text device)
      [⟨.ask (.findToken id), .ok (some token)⟩, ⟨.ask (.deleteToken id), .ok false⟩]
      (.error .invalidRefreshToken)
  | foreign {text device : String} {id : RefreshTokenId} {token : RefreshToken}
    (hid : RefreshTokenId.parse? text = some id) (hf : isPresentedBy token device = false) :
    Ends s fresh (.refresh text device) (claim id token) (.error .fingerprintMismatch)
  | expired {text device : String} {id : RefreshTokenId} {token : RefreshToken}
    (hid : RefreshTokenId.parse? text = some id) (he : token.isExpiredAt fresh.now) :
    Ends s fresh (.refresh text device) (claim id token) (.error .refreshTokenExpired)
  | orphaned {text device : String} {id : RefreshTokenId} {token : RefreshToken}
    (hid : RefreshTokenId.parse? text = some id) :
    Ends s fresh (.refresh text device)
      (claim id token ++ [⟨.ask (.findUser token.owner), .ok none⟩]) (.error .invalidRefreshToken)
  | unsigned {text device : String} {id : RefreshTokenId} {token : RefreshToken} {u : User}
    {e : Failure} (hid : RefreshTokenId.parse? text = some id)
    (hs : s.signFor fresh u = .error e) :
    Ends s fresh (.refresh text device)
      (claim id token ++ [⟨.ask (.findUser token.owner), .ok (some u)⟩]) (.error e)
  | renewed {text device : String} {id : RefreshTokenId} {token : RefreshToken} {u : User}
    {access : AccessToken.Signed} (hid : RefreshTokenId.parse? text = some id)
    (hs : s.signFor fresh u = .ok access) :
    Ends s fresh (.refresh text device)
      (claim id token ++ [⟨.ask (.findUser token.owner), .ok (some u)⟩] ++
        [⟨.ask (.createToken (s.policy.issue fresh.tokenId u.id token.fingerprint fresh.now)),
          .ok ()⟩])
      (.ok (.session ⟨access, fresh.tokenId, s.policy.lifetime⟩))
  | unnamed {text : String} (hid : RefreshTokenId.parse? text = none) :
    Ends s fresh (.logout text) [] (.ok .signedOut)
  | revoked {text : String} {id : RefreshTokenId} {deleted : Bool}
    (hid : RefreshTokenId.parse? text = some id) :
    Ends s fresh (.logout text) [⟨.ask (.deleteToken id), .ok deleted⟩] (.ok .signedOut)
  | cleanedUp {count : Nat} :
    Ends s fresh .cleanUp [⟨.ask (.deleteExpired fresh.now), .ok count⟩] (.ok (.cleanedUp count))

/-! ### What operations do -/

theorem accessFor_eq (password : String) (u : User) {α : Type}
    (k : AccessToken.Signed → Operation α) :
    (do
      let password ← demand ((Password.ofText password).mapError fun _ => .invalidCredentials)
      demand ((s.hasher.verify password u.passwordHash).mapError Failure.ofHashError)
      let access ← demand (s.signFor fresh u)
      k access) = demand (s.accessFor fresh password u) >>= k := by
  simp only [Operation.demand_demand_bind]
  rfl

theorem loginWithin_follows (s : Service) (fresh : Fresh) (text password : String)
    (f : Fingerprint) :
    (s.loginWithin fresh text password f).run.Follows
      (fun isInside history c => isInside = true ∧
        ∃ r, c = .ask r ∧ LoginAsks s fresh text password f history r)
      (fun isInside history r => isInside = true ∧ LoginEnds s fresh text password f history r)
      true [] := by
  unfold loginWithin
  cases he : Email.ofText text with
  | error e => exact .done ⟨rfl, .malformed he⟩
  | ok email =>
    refine follows_ask_bind ⟨rfl, _, rfl, .user he⟩ (fun e => ⟨rfl, .failed (.user he)⟩)
      fun u? => ?_
    cases u? with
    | none => exact .done ⟨rfl, .unknown he⟩
    | some u =>
      dsimp only
      rw [accessFor_eq]
      cases ha : s.accessFor fresh password u with
      | error e => exact .done ⟨rfl, .refused he ha⟩
      | ok access =>
        refine follows_ask_bind ⟨rfl, _, rfl, .held he ha⟩ (fun e => ⟨rfl, .failed (.held he ha)⟩)
          fun held => ?_
        split
        case isTrue hq =>
          refine follows_ask_bind ⟨rfl, _, rfl, .evict he ha hq⟩
            (fun e => ⟨rfl, .failed (.evict he ha hq)⟩) fun count => follows_log_bind ?_
          exact follows_ask_bind ⟨rfl, _, rfl, .createEvicted he ha hq⟩
            (fun e => ⟨rfl, .failed (.createEvicted he ha hq)⟩)
            fun _ => .done ⟨rfl, .opened ha (.createEvicted he ha hq)⟩
        case isFalse hq =>
          have hq := Nat.lt_of_not_le hq
          exact follows_ask_bind ⟨rfl, _, rfl, .create he ha hq⟩
            (fun e => ⟨rfl, .failed (.create he ha hq)⟩)
            fun _ => .done ⟨rfl, .opened ha (.create he ha hq)⟩

theorem signUp_follows (s : Service) (fresh : Fresh) (text password : String) :
    (s.signUp fresh text password).run.Follows (s.Calls fresh (.signUp text password))
      (fun isInside history r => isInside = false ∧
        s.Ends fresh (.signUp text password) history (r.map .account)) false [] := by
  unfold signUp
  cases he : Email.ofText text with
  | error e => exact .done ⟨rfl, .invalidEmail he⟩
  | ok email =>
    refine follows_ask_bind (.findEmail he) (fun e => ⟨rfl, .failed (.findEmail he)⟩) fun u? => ?_
    cases u? with
    | some u => exact .done ⟨rfl, .taken he⟩
    | none =>
      cases hp : Password.ofText password with
      | error e => exact .done ⟨rfl, .invalidPassword he hp⟩
      | ok p =>
        exact follows_ask_bind (.createUser he hp) (fun e => ⟨rfl, .failed (.createUser he hp)⟩)
          fun _ => follows_log_bind (.done ⟨rfl, .signedUp (.createUser he hp)⟩)

theorem login_follows (s : Service) (fresh : Fresh) (text password device : String) :
    (s.login fresh text password device).run.Follows (s.Calls fresh (.login text password device))
      (fun isInside history r => isInside = false ∧
        s.Ends fresh (.login text password device) history (r.map .session)) false [] := by
  unfold login
  cases hf : Fingerprint.ofText device with
  | error e => exact .done ⟨rfl, .invalidDevice hf⟩
  | ok f =>
    refine follows_call_bind (.begin hf) (fun e => ⟨rfl, .failed (.begin hf)⟩)
      fun _ => follows_attempt_bind ?_
    refine ((loginWithin_follows s fresh text password f).after [⟨.begin, .ok ()⟩]).mono ?_ ?_
    · rintro isInside history c ⟨later, rfl, rfl, r, rfl, h⟩
      exact .within hf h
    · rintro isInside history r ⟨later, rfl, rfl, h⟩
      cases r with
      | ok r =>
        exact follows_call_bind (.commit hf h) (fun e => ⟨rfl, .uncommitted hf h⟩)
          fun _ => follows_log_bind (.done ⟨rfl, .committed hf h⟩)
      | error e =>
        refine follows_attempt_bind (.call (.rollback hf h) fun x => ?_)
        cases x with
        | ok _ => exact .done (.done ⟨rfl, .rolledBack hf h⟩)
        | error f => exact .done (.log (.done ⟨rfl, .rolledBack hf h⟩))

theorem refresh_follows (s : Service) (fresh : Fresh) (text device : String) :
    (s.refresh fresh text device).run.Follows (s.Calls fresh (.refresh text device))
      (fun isInside history r => isInside = false ∧
        s.Ends fresh (.refresh text device) history (r.map .session)) false [] := by
  unfold refresh
  cases hid : RefreshTokenId.parse? text with
  | none => exact .done ⟨rfl, .unreadable hid⟩
  | some id =>
    refine follows_ask_bind (.find hid) (fun e => ⟨rfl, .failed (.find hid)⟩) fun token? => ?_
    cases token? with
    | none => exact .done ⟨rfl, .missing hid⟩
    | some token =>
      refine follows_ask_bind (.redeem hid) (fun e => ⟨rfl, .failed (.redeem hid)⟩)
        fun deleted => ?_
      cases deleted with
      | false => exact follows_log_bind (.done ⟨rfl, .lost hid⟩)
      | true =>
        cases hf : isPresentedBy token device with
        | false => exact follows_log_bind (.done ⟨rfl, .foreign hid hf⟩)
        | true =>
          cases he : token.isExpiredAt fresh.now with
          | true => exact follows_log_bind (.done ⟨rfl, .expired hid he⟩)
          | false =>
            refine follows_ask_bind (.findOwner hid hf he)
              (fun e => ⟨rfl, .failed (.findOwner hid hf he)⟩) fun u? => ?_
            cases u? with
            | none => exact .done ⟨rfl, .orphaned hid⟩
            | some u =>
              cases hs : s.signFor fresh u with
              | error e =>
                dsimp only
                rw [hs]
                exact .done ⟨rfl, .unsigned hid hs⟩
              | ok access =>
                dsimp only
                rw [hs]
                exact follows_ask_bind (.renew hid hf he hs)
                  (fun e => ⟨rfl, .failed (.renew hid hf he hs)⟩)
                  fun _ => follows_log_bind (.done ⟨rfl, .renewed hid hs⟩)

theorem logout_follows (s : Service) (fresh : Fresh) (text : String) :
    (logout text).run.Follows (s.Calls fresh (.logout text))
      (fun isInside history r => isInside = false ∧
        s.Ends fresh (.logout text) history (r.map fun _ => .signedOut)) false [] := by
  unfold logout
  cases hid : RefreshTokenId.parse? text with
  | none => exact .done ⟨rfl, .unnamed hid⟩
  | some id =>
    refine follows_ask_bind (.revoke hid) (fun e => ⟨rfl, .failed (.revoke hid)⟩) fun deleted => ?_
    cases deleted with
    | true => exact .log (.done ⟨rfl, .revoked hid⟩)
    | false => exact .done ⟨rfl, .revoked hid⟩

/-- Every command calls and ends as described, whatever it is told. -/
theorem perform_follows (s : Service) (fresh : Fresh) (command : Command) :
    (s.perform fresh command).run.Follows (s.Calls fresh command)
      (fun isInside history r => isInside = false ∧ s.Ends fresh command history r) false [] := by
  cases command with
  | signUp text password =>
    refine follows_bind ((signUp_follows s fresh text password).mono (fun _ _ _ h => h) ?_)
    rintro isInside history (e | u) h
    · exact h
    · exact .done h
  | login text password device =>
    refine follows_bind ((login_follows s fresh text password device).mono (fun _ _ _ h => h) ?_)
    rintro isInside history (e | r) h
    · exact h
    · exact .done h
  | refresh text device =>
    refine follows_bind ((refresh_follows s fresh text device).mono (fun _ _ _ h => h) ?_)
    rintro isInside history (e | r) h
    · exact h
    · exact .done h
  | logout text =>
    refine follows_bind ((logout_follows s fresh text).mono (fun _ _ _ h => h) ?_)
    rintro isInside history (e | _) h
    · exact h
    · exact .done h
  | cleanUp =>
    refine .call .cleanUp fun x => ?_
    cases x with
    | error e => exact .done ⟨rfl, .failed .cleanUp⟩
    | ok count => exact .done ⟨rfl, .cleanedUp⟩

/-! ### Tasks -/

variable {command : Command} {isInside : Bool} {history : List Exchange}

/-- A new token has the new identifier, and is the first that the command creates. -/
theorem Calls.createToken {t : RefreshToken}
    (h : s.Calls fresh command isInside history (.ask (.createToken t))) :
    t.id = fresh.tokenId ∧ ∀ t' x, (⟨.ask (.createToken t'), x⟩ : Exchange) ∉ history := by
  cases h with
  | within hf h => cases h <;> exact ⟨rfl, by simp⟩
  | renew => exact ⟨rfl, by simp [claim]⟩

/-- Tokens are redeemed and revoked outside of transactions. -/
theorem Calls.deleteToken {id : RefreshTokenId}
    (h : s.Calls fresh command isInside history (.ask (.deleteToken id))) : isInside = false := by
  cases h with
  | within hf h => cases h
  | redeem | revoke => rfl

/-- Only logins make calls within a transaction. -/
theorem Calls.login_of_inside {c : Call} (h : s.Calls fresh command true history c) :
    ∃ text password device, command = .login text password device := by
  cases h with
  | within | commit | rollback => exact ⟨_, _, _, rfl⟩

/-- No user is created within a transaction. -/
theorem Calls.not_createUser {u : User} :
    ¬ s.Calls fresh command true history (.ask (.createUser u)) := by
  intro h
  cases h with
  | within hf h => cases h

/-- A user is created under a new identifier, once. -/
theorem Calls.of_createUser {u : User}
    (h : s.Calls fresh command isInside history (.ask (.createUser u))) :
    u.id = fresh.userId ∧ ∀ w x, (⟨.ask (.createUser w), x⟩ : Exchange) ∉ history := by
  cases h with
  | createUser => exact ⟨rfl, by simp⟩
  | within _ h => cases h

/-- A cleanup makes one call. -/
theorem Calls.of_cleanUp {c : Call} (h : s.Calls fresh .cleanUp isInside history c) :
    isInside = false ∧ history = [] ∧ c = .ask (.deleteExpired fresh.now) := by
  cases h
  exact ⟨rfl, rfl, rfl⟩

theorem LoginAsks.commitment_not_mem {text password : String} {f : Fingerprint} {r : Request}
    (h : LoginAsks s fresh text password f history r) : .commitment ∉ history := by
  cases h <;> simp

theorem LoginEnds.commitment_not_mem {text password : String} {f : Fingerprint}
    {r : Except Failure (UserId × Session)} (h : LoginEnds s fresh text password f history r) :
    .commitment ∉ history := by
  cases h with
  | failed h => simp [h.commitment_not_mem]
  | malformed | unknown | refused => simp
  | opened _ h => simp [h.commitment_not_mem]

/-- No call is made after a commit. -/
theorem Calls.commitment_not_mem {c : Call} (h : s.Calls fresh command isInside history c) :
    .commitment ∉ history := by
  cases h with
  | within _ h => simp [h.commitment_not_mem]
  | commit _ h | rollback _ h => simp [h.commitment_not_mem]
  | findOwner | renew => simp [claim]
  | findEmail | createUser | begin | find | redeem | revoke | cleanUp => simp

/-- A refresh that succeeds has claimed the token. -/
theorem Ends.claimed {text device : String} {o : Outcome}
    (h : s.Ends fresh (.refresh text device) history (.ok o)) :
    ∃ id, RefreshTokenId.parse? text = some id ∧
      (⟨.ask (.deleteToken id), .ok true⟩ : Exchange) ∈ history := by
  cases h with
  | renewed hid _ => exact ⟨_, hid, by simp [claim]⟩

end Service

/-- A task under way calls and ends as described, and so it did until it was abandoned. -/
structure Task.Conforms (s : Service) (t : Task) : Prop where
  rest : ∀ p, t.rest = some p → p.Follows (s.Calls t.fresh t.command)
    (fun isInside history r => isInside = false ∧ s.Ends t.fresh t.command history r)
    t.isInside t.history
  outside : t.rest = none → t.isInside = false
  history : ∀ before e later, t.history = before ++ e :: later →
    ∃ isInside, s.Calls t.fresh t.command isInside before e.call

namespace Task

variable {s : Service} {t t' : Task} {mayFail : Bool} {v v' : Vault}

theorem conforms_start (s : Service) (command : Command) (fresh : Fresh) :
    (start s command fresh).Conforms s where
  rest p hp := by
    cases hp
    exact s.perform_follows fresh command
  outside _ := rfl
  history before e later h := by simp [start] at h

theorem Conforms.call (h : t.Conforms s) {c : Call}
    {next : Except Failure c.Answer → Program (Except Failure Outcome)}
    (hr : t.rest = some (.call c next)) : s.Calls t.fresh t.command t.isInside t.history c := by
  cases h.rest _ hr with
  | call hc _ => exact hc

theorem Conforms.ends (h : t.Conforms s) {r : Except Failure Outcome} (hr : t.EndsWith r) :
    t.isInside = false ∧ s.Ends t.fresh t.command t.history r := by
  cases h.rest _ hr with
  | done h => exact h

/-- A task creates at most one token. -/
theorem Conforms.creation_unique (h : t.Conforms s) {token token' : RefreshToken}
    (hh : .creation token ∈ t.history) (hh' : .creation token' ∈ t.history) : token = token' := by
  obtain ⟨before, later, heq⟩ := List.append_of_mem hh
  obtain ⟨i, hc⟩ := h.history before _ later heq
  rw [heq, List.mem_append, List.mem_cons] at hh'
  rcases hh' with hbefore | hsame | hlater
  · exact absurd hbefore (hc.createToken.2 _ _)
  · cases hsame
    rfl
  · obtain ⟨before', later', rfl⟩ := List.append_of_mem hlater
    rw [← List.cons_append, ← List.append_assoc] at heq
    obtain ⟨i', hc'⟩ := h.history _ _ later' heq
    exact absurd (by simp) (hc'.createToken.2 token (.ok ()))

theorem Conforms.told (h : t.Conforms s) {c : Call}
    {next : Except Failure c.Answer → Program (Except Failure Outcome)}
    (hr : t.rest = some (.call c next)) (x : Except Failure c.Answer) :
    (t.told c next x).Conforms s where
  rest p hp := by
    cases hp
    cases h.rest _ hr with
    | call _ h => exact h x
  outside hp := by cases hp
  history before e later heq := by
    rcases List.eq_nil_or_concat later with rfl | ⟨later, _, rfl⟩
    · obtain ⟨rfl, he⟩ := List.append_inj' heq rfl
      cases he
      exact ⟨t.isInside, h.call hr⟩
    · rw [List.concat_eq_append, ← List.cons_append, ← List.append_assoc] at heq
      exact h.history before e later (List.append_inj' heq rfl).1

theorem Step.conforms (h : t.Step mayFail v v' t') (ht : t.Conforms s) : t'.Conforms s := by
  cases h with
  | log h =>
    refine ⟨fun p hp => ?_, fun hp => ?_, ht.history⟩
    · cases hp
      cases ht.rest _ h with
      | log h => exact h
    · cases hp
  | answered h hr => exact ht.told h _
  | failed f h hf => exact ht.told h _
  | abandoned h =>
    refine ⟨fun p hp => ?_, fun _ => rfl, ht.history⟩
    cases hp

/-- What a step does to a task that calls and ends as described. -/
inductive Move (s : Service) (v : Vault) (t : Task) : Vault → Task → Prop
  | logged (p : Program (Except Failure Outcome)) (hr : t.rest.isSome) :
    Move s v t v { t with rest := some p }
  | told {c : Call} (next : Except Failure c.Answer → Program (Except Failure Outcome))
    {x : Except Failure c.Answer} {w : Vault} (hr : t.rest.isSome)
    (hc : s.Calls t.fresh t.command t.isInside t.history c) (hturn : v.Turn t.isInside c x w) :
    Move s v t w (t.told c next x)
  | abandoned {c : Call} (hc : s.Calls t.fresh t.command t.isInside t.history c) :
    Move s v t (if t.isInside then v.drop else v) t.abandoned

theorem Step.move (h : t.Step mayFail v v' t') (ht : t.Conforms s) : t.Move s v v' t' := by
  cases h with
  | log h => exact .logged _ (h ▸ rfl)
  | answered h hr => exact .told _ (h ▸ rfl) (ht.call h) (Vault.turn_of_reply hr)
  | failed f h hf => exact .told _ (h ▸ rfl) (ht.call h) (.failed v t.isInside _ f)
  | abandoned h => exact .abandoned (ht.call h)

end Task

namespace System

variable {s : Service} {mayFail : Bool} {a b : System}

/-- All tasks call and end as described. -/
def Conforms (s : Service) (a : System) : Prop := ∀ t ∈ a.tasks, t.Conforms s

/-- Some task was told this answer. -/
def Knows (a : System) (e : Exchange) : Prop := ∃ t ∈ a.tasks, e ∈ t.history

theorem conforms_initial : initial.Conforms s := fun _ h => by cases h

theorem not_knows_initial (e : Exchange) : ¬ initial.Knows e := by simp [Knows, initial]

theorem Step.conforms (h : Step s mayFail a b) (ha : a.Conforms s) : b.Conforms s := by
  cases h with
  | arrival v tasks command fresh =>
    intro u hu
    rcases List.mem_append.1 hu with hu | hu
    · exact ha u hu
    · rw [List.mem_singleton.1 hu]
      exact Task.conforms_start s command fresh
  | progress before after h =>
    intro u hu
    simp only [Conforms, List.mem_append, List.mem_cons] at ha hu
    rcases hu with hu | rfl | hu
    · exact ha u (.inl hu)
    · exact h.conforms (ha _ (.inr (.inl rfl)))
    · exact ha u (.inr (.inr hu))

theorem Reaches.conforms (h : initial.Reaches s mayFail a) : a.Conforms s := by
  induction h with
  | refl => exact conforms_initial
  | tail _ h ih => exact h.conforms ih

/-- A step tells one task the answer to the call that it makes then, or it tells nothing and a
transaction may be dropped. -/
theorem Step.told_or_quiet (h : Step s mayFail a b) (ha : a.Conforms s) :
    (∀ e, b.Knows e ↔ a.Knows e) ∧ (b.vault = a.vault ∨ b.vault = a.vault.drop) ∨
      ∃ t ∈ a.tasks, ∃ c x, s.Calls t.fresh t.command t.isInside t.history c ∧
        Vault.Turn a.vault t.isInside c x b.vault ∧ ∀ e, b.Knows e ↔ a.Knows e ∨ e = ⟨c, x⟩ := by
  cases h with
  | arrival v tasks command fresh =>
    exact .inl ⟨fun e => by simp [Knows, Task.start], .inl rfl⟩
  | @progress before after v v' t t' h =>
    have hknows (t : Task) (e : Exchange) : Knows ⟨v, before ++ t :: after⟩ e ↔
        (∃ u ∈ before, e ∈ u.history) ∨ e ∈ t.history ∨ ∃ u ∈ after, e ∈ u.history := by
      simp only [Knows, List.mem_append, List.mem_cons, or_and_right, exists_or, exists_eq_left]
    cases h.move (ha t (by simp)) with
    | logged => exact .inl ⟨fun e => (hknows _ e).trans (hknows t e).symm, .inl rfl⟩
    | abandoned hc =>
      refine .inl ⟨fun e => (hknows _ e).trans (hknows t e).symm, ?_⟩
      cases t.isInside with
      | false => exact .inl rfl
      | true => exact .inr rfl
    | told next hr hc hturn =>
      refine .inr ⟨t, by simp, _, _, hc, hturn, fun e => (hknows _ e).trans ?_⟩
      rw [hknows t, Task.told, List.mem_append, List.mem_singleton]
      grind

/-- Without failures, what a task was told is what it knew before or the vault's answer to its
call. -/
theorem Step.knows_or_answered (h : Step s false a b) (ha : a.Conforms s) {e : Exchange}
    (hb : b.Knows e) : a.Knows e ∨
      ∃ t ∈ a.tasks, ∃ c reply, s.Calls t.fresh t.command t.isInside t.history c ∧
        a.vault.reply? t.isInside c = some reply ∧ e = ⟨c, reply.answer⟩ := by
  obtain ⟨u, hu, he⟩ := hb
  cases h with
  | arrival v tasks command fresh =>
    rcases List.mem_append.1 hu with hu | hu
    · exact .inl ⟨u, hu, he⟩
    · rw [List.mem_singleton.1 hu] at he
      cases he
  | @progress before after v v' t t' h =>
    have ht : t ∈ before ++ t :: after := by simp
    simp only [List.mem_append, List.mem_cons] at hu
    rcases hu with hu | rfl | hu
    · exact .inl ⟨u, by simp [hu], he⟩
    · cases h with
      | log | abandoned => exact .inl ⟨t, ht, he⟩
      | answered hrest hr =>
        rw [Task.told, List.mem_append, List.mem_singleton] at he
        refine he.imp (fun he => ⟨t, ht, he⟩) fun he => ?_
        exact ⟨t, ht, _, _, (ha t ht).call hrest, hr, he⟩
      | failed f hrest hfail => cases hfail
    · exact .inl ⟨u, by simp [hu], he⟩

theorem Step.isSound (h : Step s mayFail a b) (hconf : a.Conforms s) (ha : a.vault.IsSound) :
    b.vault.IsSound := by
  rcases h.told_or_quiet hconf with ⟨-, hv | hv⟩ | ⟨_, _, _, _, _, hturn, -⟩
  · rw [hv]
    exact ha
  · rw [hv]
    exact ha.drop
  · exact hturn.isSound ha

theorem Reaches.isSound (h : initial.Reaches s mayFail a) : a.vault.IsSound := by
  induction h with
  | refl => exact Vault.isSound_empty
  | tail hr h ih => exact h.isSound (Reaches.conforms hr) ih

end System

end SessionAuth
