import SessionAuth.Proofs.Result
import SessionAuth.Proofs.Service.Atomicity

/-!
# Commands as functions of the store

With nobody else at the vault, a command is a function of the store: it gives a result and the store
after it (`Service.performOn`). Sign-up and login are all or nothing. A refresh is not: the token
that it has redeemed is gone whatever comes then. Every run over the vault in memory comes to what
these functions say (`Service.runAlone_eq`).
-/

namespace SessionAuth

/-- Drops the tokens of a user who holds too many. -/
def Store.makeRoom (st : Store) (quota : Nat) (owner : UserId) : Store :=
  if quota ≤ (st.tokensOf owner).length then st.removeTokensWhere (·.owner = owner) else st

namespace Store

variable {st : Store} {u : User} {t : RefreshToken}

theorem addToken_of_unused (hu : st.users[u.id]? = some u) (ht : t.owner = u.id)
    (hunused : st.tokens[t.id]? = none) : st.addToken t = .ok (st.putToken t) := by
  refine addToken_eq_ok_iff.2 ⟨?_, hunused, rfl⟩
  rw [ht, Std.ExtTreeMap.mem_iff_isSome_getElem?, hu]
  rfl

theorem tokens_makeRoom_of_none {quota : Nat} {owner : UserId} {id : RefreshTokenId}
    (h : st.tokens[id]? = none) : (st.makeRoom quota owner).tokens[id]? = none := by
  unfold makeRoom
  split_ifs
  · rw [tokens_removeTokensWhere, h]
    rfl
  · exact h

theorem users_makeRoom (st : Store) (quota : Nat) (owner : UserId) :
    (st.makeRoom quota owner).users = st.users := by
  unfold makeRoom
  split_ifs <;> rfl

theorem removeToken_of_none {id : RefreshTokenId} (h : st.token? id = none) :
    st.removeToken id = st := by
  refine ext (fun _ => rfl) (fun _ => rfl) fun id' => ?_
  rw [tokens_removeToken]
  split_ifs with hid
  · rw [← hid]
    exact h.symm
  · rfl

end Store

namespace Service

/-! ### The functions -/

/-- The account that a sign-up opens, and the store with it. -/
def signUpOn (s : Service) (fresh : Fresh) (text password : String) (st : Store) :
    Except Failure (User × Store) :=
  match Email.ofText text with
  | .error e => .error (.invalidEmail e.message)
  | .ok email =>
    match st.userByEmail? email, Password.ofText password with
    | some _, _ => .error .emailTaken
    | none, .error e => .error (.passwordValidation e.message)
    | none, .ok p => do
      let u := s.newUser fresh email p
      return (u, ← st.addUser u)

/-- The session of a user who gives the right password, and the store with its token. -/
def admitOn (s : Service) (fresh : Fresh) (password : String) (f : Fingerprint) (u : User)
    (st : Store) : Except Failure (Session × Store) := do
  let access ← s.accessFor fresh password u
  let st' ← (st.makeRoom s.policy.quota u.id).addToken (s.newToken fresh u.id f)
  return (⟨access, fresh.tokenId, s.policy.lifetime⟩, st')

/-- The session that a login opens, and the store with its token. -/
def loginOn (s : Service) (fresh : Fresh) (text password device : String) (st : Store) :
    Except Failure (Session × Store) :=
  match Fingerprint.ofText device, Email.ofText text with
  | .error e, _ => .error (.invalidFingerprint e.message)
  | .ok _, .error _ => .error .invalidCredentials
  | .ok f, .ok email =>
    match st.userByEmail? email with
    | none => .error .invalidCredentials
    | some u => s.admitOn fresh password f u st

/-- The session that continues the one of a token that has been redeemed, and the store with the
next token. -/
def renewOn (s : Service) (fresh : Fresh) (token : RefreshToken) (device : String) (st : Store) :
    Except Failure (Session × Store) :=
  if isPresentedBy token device then
    if token.isExpiredAt fresh.now then .error .refreshTokenExpired
    else match st.user? token.owner with
      | none => .error .invalidRefreshToken
      | some u => do
        let access ← s.signFor fresh u
        let st' ← st.addToken (s.newToken fresh u.id token.fingerprint)
        return (⟨access, fresh.tokenId, s.policy.lifetime⟩, st')
  else .error .fingerprintMismatch

/-- A result with the store that comes with it, or a failure with the store as it was. -/
def settle {α : Type} (st : Store) : Except Failure (α × Store) → Except Failure α × Store
  | .ok (a, st') => (.ok a, st')
  | .error e => (.error e, st)

/-- The result of a refresh, and the store after it. -/
def refreshOn (s : Service) (fresh : Fresh) (text device : String) (st : Store) :
    Except Failure Session × Store :=
  match RefreshTokenId.parse? text with
  | none => (.error .invalidRefreshToken, st)
  | some id =>
    match st.token? id with
    | none => (.error .invalidRefreshToken, st)
    | some token => settle (st.removeToken id) (s.renewOn fresh token device (st.removeToken id))

/-- The store after a logout. -/
def logoutOn (text : String) (st : Store) : Store :=
  match RefreshTokenId.parse? text with
  | none => st
  | some id => st.removeToken id

/-- The result of a command, and the store after it. -/
def performOn (s : Service) (fresh : Fresh) (st : Store) :
    Command → Except Failure Outcome × Store
  | .signUp text password =>
    let r := settle st (s.signUpOn fresh text password st)
    (r.1.map .account, r.2)
  | .login text password device =>
    let r := settle st (s.loginOn fresh text password device st)
    (r.1.map .session, r.2)
  | .refresh text device =>
    let r := s.refreshOn fresh text device st
    (r.1.map .session, r.2)
  | .logout text => (.ok .signedOut, logoutOn text st)
  | .cleanUp => (.ok (.cleanedUp (st.tokensWhere (·.isExpiredAt fresh.now)).length),
      st.removeTokensWhere (·.isExpiredAt fresh.now))

/-! ### The runs -/

open Operation (goes_bind goes_ask_bind goes_ask_error_bind goes_ask_bind_inside
  goes_ask_error_bind_inside goes_call_bind goes_log_bind goes_attempt_bind goes_map goes_return)

variable {s : Service} {fresh : Fresh} {st : Store} {text password device : String}

theorem answer_createUser_error {u : User} {e : Failure} (h : st.addUser u = .error e) :
    st.answer (.createUser u) = ⟨.error e, st, []⟩ := by
  simp only [Store.answer, Store.add, h]

theorem signUp_goes_on (s : Service) (fresh : Fresh) (text password : String) (st : Store) :
    ∃ history, (s.signUp fresh text password).run.Goes ⟨st, none⟩ false history
      (settle st (s.signUpOn fresh text password st)).1
      ⟨(settle st (s.signUpOn fresh text password st)).2, none⟩ false := by
  unfold signUp signUpOn
  cases he : Email.ofText text with
  | error e => exact ⟨_, .done _ _ _⟩
  | ok email =>
    have hfind := answer_findUserByEmail st email
    dsimp only
    cases hu : st.userByEmail? email with
    | some u =>
      rw [hu] at hfind
      exact ⟨_, goes_ask_bind hfind (.done _ _ _)⟩
    | none =>
      rw [hu] at hfind
      cases hp : Password.ofText password with
      | error e => exact ⟨_, goes_ask_bind hfind (.done _ _ _)⟩
      | ok p =>
        dsimp only
        cases hadd : st.addUser (s.newUser fresh email p) with
        | error e =>
          exact ⟨_, goes_ask_bind hfind (goes_ask_error_bind _ (answer_createUser_error hadd))⟩
        | ok st' =>
          exact ⟨_, goes_ask_bind hfind
            (goes_ask_bind (answer_createUser hadd) (.log _ (.done _ _ _)))⟩

/-- The last request of a login stores the token or fails. -/
theorem create_goes_on (s : Service) (fresh : Fresh) (f : Fingerprint) (u : User)
    (session : Session) (st : Store) (journal : List Undo) : ∃ history v,
    Program.Goes (ExceptT.run (do
      Operation.ask (.createToken (s.newToken fresh u.id f))
      return (u.id, session) : Operation (UserId × Session))) ⟨st, some journal⟩ true history
      (((st.addToken (s.newToken fresh u.id f)).map (session, ·)).map fun x => (u.id, x.1)) v true ∧
    ∀ x, (st.addToken (s.newToken fresh u.id f)).map (session, ·) = .ok x → v.store = x.2 := by
  cases hadd : st.addToken (s.newToken fresh u.id f) with
  | error e =>
    exact ⟨_, _, goes_ask_error_bind_inside _ (answer_createToken_error hadd), nofun⟩
  | ok st' =>
    refine ⟨_, _, goes_ask_bind_inside (answer_createToken hadd) (.done _ _ _), ?_⟩
    rintro _ ⟨⟩
    rfl

theorem admitOn_eq {access : AccessToken.Signed} {u : User}
    (ha : s.accessFor fresh password u = .ok access) (f : Fingerprint) (st : Store) :
    s.admitOn fresh password f u st =
      ((st.makeRoom s.policy.quota u.id).addToken (s.newToken fresh u.id f)).map
        (⟨access, fresh.tokenId, s.policy.lifetime⟩, ·) := by
  unfold admitOn
  rw [ha]
  rfl

theorem admitOn_error {u : User} {e : Failure} (ha : s.accessFor fresh password u = .error e)
    (f : Fingerprint) (st : Store) : s.admitOn fresh password f u st = .error e := by
  unfold admitOn
  rw [ha]
  rfl

/-- The inside of a login lets the user of the address in, or fails. -/
theorem loginWithin_goes_on (s : Service) (fresh : Fresh) (password : String) {email : Email}
    {u : User} (he : Email.ofText text = .ok email) (hu : st.userByEmail? email = some u)
    (f : Fingerprint) : ∃ history v,
      (s.loginWithin fresh text password f).run.Goes ⟨st, some []⟩ true history
        ((s.admitOn fresh password f u st).map fun x => (u.id, x.1)) v true ∧
      ∀ x, s.admitOn fresh password f u st = .ok x → v.store = x.2 := by
  have hfind := answer_findUserByEmail st email
  rw [hu] at hfind
  unfold loginWithin
  rw [he]
  cases ha : s.accessFor fresh password u with
  | error e =>
    rw [admitOn_error ha]
    refine ⟨[⟨.ask (.findUserByEmail email), .ok (some u)⟩], ⟨st, some ([] ++ [])⟩,
      goes_ask_bind_inside hfind ?_, nofun⟩
    dsimp only
    rw [accessFor_eq, ha]
    exact .done _ _ _
  | ok access =>
    rw [admitOn_eq ha]
    unfold Store.makeRoom
    split
    case isTrue hq =>
      let restored := (st.tokensWhere (·.owner = u.id)).map Undo.restoreToken
      obtain ⟨history, v, hcreate, hv⟩ := create_goes_on s fresh f u
        ⟨access, fresh.tokenId, s.policy.lifetime⟩ (st.removeTokensWhere (·.owner = u.id)) restored
      refine ⟨⟨.ask (.findUserByEmail email), .ok (some u)⟩ ::
        ⟨.ask (.tokensOf u.id), .ok (st.tokensOf u.id)⟩ ::
        ⟨.ask (.deleteTokensOf u.id), .ok (st.tokensWhere (·.owner = u.id)).length⟩ :: history, v,
        goes_ask_bind_inside hfind ?_, hv⟩
      dsimp only
      rw [accessFor_eq, ha]
      refine goes_ask_bind_inside (answer_tokensOf st u.id) ?_
      rw [if_pos hq]
      exact goes_ask_bind_inside (answer_deleteTokensOf st u.id) (goes_log_bind hcreate)
    case isFalse hq =>
      obtain ⟨history, v, hcreate, hv⟩ := create_goes_on s fresh f u
        ⟨access, fresh.tokenId, s.policy.lifetime⟩ st []
      refine ⟨⟨.ask (.findUserByEmail email), .ok (some u)⟩ ::
        ⟨.ask (.tokensOf u.id), .ok (st.tokensOf u.id)⟩ :: history, v,
        goes_ask_bind_inside hfind ?_, hv⟩
      dsimp only
      rw [accessFor_eq, ha]
      refine goes_ask_bind_inside (answer_tokensOf st u.id) ?_
      rw [if_neg hq]
      exact hcreate

/-- A login that is let in commits. -/
theorem login_goes_of_ok {f : Fingerprint} {history : List Exchange} {r : UserId × Session}
    {v : Vault} (hf : Fingerprint.ofText device = .ok f)
    (h : (s.loginWithin fresh text password f).run.Goes ⟨st, some []⟩ true history (.ok r) v true) :
    ∃ history, (s.login fresh text password device).run.Goes ⟨st, none⟩ false history (.ok r.2)
      ⟨v.store, none⟩ false := by
  have hbegin : Vault.reply? ⟨st, none⟩ false .begin = some ⟨.ok (), ⟨st, some []⟩, []⟩ := rfl
  have hcommit : v.reply? true .commit = some ⟨.ok (), ⟨v.store, none⟩, []⟩ := rfl
  unfold login
  rw [hf]
  exact ⟨_, goes_call_bind hbegin (goes_attempt_bind h
    (goes_call_bind hcommit (goes_log_bind (goes_return _ _ _))))⟩

/-- A login that is not let in is rolled back. -/
theorem login_goes_of_error {f : Fingerprint} {history : List Exchange} {e : Failure} {v : Vault}
    (hst : st.IsConsistent) (hf : Fingerprint.ofText device = .ok f)
    (h : (s.loginWithin fresh text password f).run.Goes ⟨st, some []⟩ true history (.error e) v
      true) : ∃ history, (s.login fresh text password device).run.Goes ⟨st, none⟩ false history
      (.error e) ⟨st, none⟩ false := by
  have hbegin : Vault.reply? ⟨st, none⟩ false .begin = some ⟨.ok (), ⟨st, some []⟩, []⟩ := rfl
  have hrollback : v.reply? true .rollback = some ⟨.ok (), v.drop, []⟩ := rfl
  have hcall : (Operation.call .rollback).run.Goes v true [⟨.rollback, .ok ()⟩] (.ok ()) v.drop
      false := .call hrollback (.done _ _ _)
  obtain ⟨history, hlogin⟩ : ∃ history, (s.login fresh text password device).run.Goes ⟨st, none⟩
      false history (.error e) v.drop false := by
    unfold login
    rw [hf]
    exact ⟨_, goes_call_bind hbegin (goes_attempt_bind h (goes_attempt_bind hcall (.done _ _ _)))⟩
  rw [Task.eq_of_login_goes hst hlogin] at hlogin
  exact ⟨history, hlogin⟩

theorem login_goes_on (s : Service) (fresh : Fresh) (text password device : String)
    (hst : st.IsConsistent) :
    ∃ history, (s.login fresh text password device).run.Goes ⟨st, none⟩ false history
      (settle st (s.loginOn fresh text password device st)).1
      ⟨(settle st (s.loginOn fresh text password device st)).2, none⟩ false := by
  unfold loginOn
  cases hf : Fingerprint.ofText device with
  | error e =>
    unfold login
    rw [hf]
    exact ⟨_, .done _ _ _⟩
  | ok f =>
    cases he : Email.ofText text with
    | error e =>
      have hwithin : (s.loginWithin fresh text password f).run.Goes ⟨st, some []⟩ true []
          (.error .invalidCredentials) ⟨st, some []⟩ true := by
        unfold loginWithin
        rw [he]
        exact .done _ _ _
      exact login_goes_of_error hst hf hwithin
    | ok email =>
      dsimp only
      cases hu : st.userByEmail? email with
      | none =>
        have hfind := answer_findUserByEmail st email
        rw [hu] at hfind
        obtain ⟨history, hwithin⟩ : ∃ history, (s.loginWithin fresh text password f).run.Goes
            ⟨st, some []⟩ true history (.error .invalidCredentials) ⟨st, some []⟩ true := by
          unfold loginWithin
          rw [he]
          exact ⟨_, goes_ask_bind_inside hfind (.done _ _ _)⟩
        exact login_goes_of_error hst hf hwithin
      | some u =>
        obtain ⟨history, v, hwithin, hv⟩ :=
          loginWithin_goes_on s fresh password he hu f
        dsimp only
        cases hx : s.admitOn fresh password f u st with
        | error e =>
          rw [hx] at hwithin
          exact login_goes_of_error hst hf hwithin
        | ok x =>
          rw [hx] at hwithin
          have hlogin := login_goes_of_ok hf hwithin
          rw [hv x hx] at hlogin
          exact hlogin

/-- A refresh of a token that it may redeem gives the next session or fails. -/
theorem refresh_goes_of_valid {id : RefreshTokenId} {token : RefreshToken}
    (hid : RefreshTokenId.parse? text = some id) (htoken : st.token? id = some token)
    (hp : isPresentedBy token device = true) (he : token.isExpiredAt fresh.now = false) :
    ∃ history, (s.refresh fresh text device).run.Goes ⟨st, none⟩ false history
      (settle (st.removeToken id) (s.renewOn fresh token device (st.removeToken id))).1
      ⟨(settle (st.removeToken id) (s.renewOn fresh token device (st.removeToken id))).2, none⟩
      false := by
  have hfind : st.answer (.findToken id) = ⟨.ok (some token), st, []⟩ := by
    rw [answer_findToken, htoken]
  have hdelete := answer_deleteToken htoken
  have howner := answer_findUser (st.removeToken id) token.owner
  cases hu : (st.removeToken id).user? token.owner with
  | none =>
    rw [hu] at howner
    have hrenew : s.renewOn fresh token device (st.removeToken id) =
        .error .invalidRefreshToken := by simp [renewOn, hp, he, hu]
    rw [hrenew]
    unfold refresh
    rw [hid]
    refine ⟨claim id token ++ [⟨.ask (.findUser token.owner), .ok none⟩],
      goes_ask_bind hfind (goes_ask_bind hdelete ?_)⟩
    rw [hp, he]
    exact goes_ask_bind howner (.done _ _ _)
  | some u =>
    rw [hu] at howner
    have hrenew : s.renewOn fresh token device (st.removeToken id) = do
        let access ← s.signFor fresh u
        let st' ← (st.removeToken id).addToken (s.newToken fresh u.id token.fingerprint)
        return (⟨access, fresh.tokenId, s.policy.lifetime⟩, st') := by
      simp [renewOn, hp, he, hu]
    rw [hrenew]
    cases hs : s.signFor fresh u with
    | error e =>
      unfold refresh
      rw [hid]
      refine ⟨claim id token ++ [⟨.ask (.findUser token.owner), .ok (some u)⟩],
        goes_ask_bind hfind (goes_ask_bind hdelete ?_)⟩
      rw [hp, he]
      refine goes_ask_bind howner ?_
      dsimp only
      rw [hs]
      exact .done _ _ _
    | ok access =>
      cases hadd : (st.removeToken id).addToken (s.newToken fresh u.id token.fingerprint) with
      | error e =>
        unfold refresh
        rw [hid]
        refine ⟨claim id token ++ [⟨.ask (.findUser token.owner), .ok (some u)⟩,
          ⟨.ask (.createToken (s.newToken fresh u.id token.fingerprint)), .error e⟩],
          goes_ask_bind hfind (goes_ask_bind hdelete ?_)⟩
        rw [hp, he]
        refine goes_ask_bind howner ?_
        dsimp only
        rw [hs]
        exact goes_ask_error_bind _ (answer_createToken_error hadd)
      | ok st' => exact ⟨_, refresh_goes hid htoken hp he hu hs hadd⟩

/-- Once it has claimed a token, a refresh gives the next session or fails. -/
theorem refresh_goes_of_claimed {id : RefreshTokenId} {token : RefreshToken}
    (hid : RefreshTokenId.parse? text = some id) (htoken : st.token? id = some token) :
    ∃ history, (s.refresh fresh text device).run.Goes ⟨st, none⟩ false history
      (settle (st.removeToken id) (s.renewOn fresh token device (st.removeToken id))).1
      ⟨(settle (st.removeToken id) (s.renewOn fresh token device (st.removeToken id))).2, none⟩
      false := by
  have hfind : st.answer (.findToken id) = ⟨.ok (some token), st, []⟩ := by
    rw [answer_findToken, htoken]
  have hdelete := answer_deleteToken htoken
  cases hp : isPresentedBy token device with
  | false =>
    have hrenew : s.renewOn fresh token device (st.removeToken id) =
        .error .fingerprintMismatch := by simp [renewOn, hp]
    rw [hrenew]
    unfold refresh
    rw [hid]
    refine ⟨claim id token, goes_ask_bind hfind (goes_ask_bind hdelete ?_)⟩
    rw [hp]
    exact .log _ (.done _ _ _)
  | true =>
    cases he : token.isExpiredAt fresh.now with
    | true =>
      have hrenew : s.renewOn fresh token device (st.removeToken id) =
          .error .refreshTokenExpired := by simp [renewOn, hp, he]
      rw [hrenew]
      unfold refresh
      rw [hid]
      refine ⟨claim id token, goes_ask_bind hfind (goes_ask_bind hdelete ?_)⟩
      rw [hp, he]
      exact .log _ (.done _ _ _)
    | false => exact refresh_goes_of_valid hid htoken hp he

theorem refresh_goes_on (s : Service) (fresh : Fresh) (text device : String) (st : Store) :
    ∃ history, (s.refresh fresh text device).run.Goes ⟨st, none⟩ false history
      (s.refreshOn fresh text device st).1 ⟨(s.refreshOn fresh text device st).2, none⟩ false := by
  unfold refreshOn
  cases hid : RefreshTokenId.parse? text with
  | none =>
    unfold refresh
    rw [hid]
    exact ⟨_, .done _ _ _⟩
  | some id =>
    dsimp only
    cases htoken : st.token? id with
    | none =>
      have hfind : st.answer (.findToken id) = ⟨.ok none, st, []⟩ := by
        rw [answer_findToken, htoken]
      unfold refresh
      rw [hid]
      exact ⟨_, goes_ask_bind hfind (.done _ _ _)⟩
    | some token => exact refresh_goes_of_claimed hid htoken

theorem logout_goes_on (text : String) (st : Store) :
    ∃ history, (logout text).run.Goes ⟨st, none⟩ false history (.ok ())
      ⟨logoutOn text st, none⟩ false := by
  unfold logout logoutOn
  cases hid : RefreshTokenId.parse? text with
  | none => exact ⟨_, .done _ _ _⟩
  | some id =>
    dsimp only
    cases htoken : st.token? id with
    | none =>
      have hdelete : st.answer (.deleteToken id) = ⟨.ok false, st, []⟩ := by
        simp only [Store.answer, htoken]
      rw [Store.removeToken_of_none htoken]
      exact ⟨_, goes_ask_bind hdelete (.done _ _ _)⟩
    | some token =>
      exact ⟨_, goes_ask_bind (answer_deleteToken htoken) (.log _ (.done _ _ _))⟩

/-- Every command comes to what its function says. -/
theorem perform_goes_on (s : Service) (fresh : Fresh) (command : Command) (hst : st.IsConsistent) :
    ∃ history, (s.perform fresh command).run.Goes ⟨st, none⟩ false history
      (s.performOn fresh st command).1 ⟨(s.performOn fresh st command).2, none⟩ false := by
  unfold perform performOn
  cases command with
  | signUp text password =>
    obtain ⟨history, h⟩ := s.signUp_goes_on fresh text password st
    dsimp only
    exact ⟨history, goes_map Outcome.account h⟩
  | login text password device =>
    obtain ⟨history, h⟩ := s.login_goes_on fresh text password device hst
    exact ⟨history, goes_map Outcome.session h⟩
  | refresh text device =>
    obtain ⟨history, h⟩ := s.refresh_goes_on fresh text device st
    exact ⟨history, goes_map Outcome.session h⟩
  | logout text =>
    obtain ⟨history, h⟩ := logout_goes_on text st
    exact ⟨_, goes_bind h (goes_return _ _ _)⟩
  | cleanUp =>
    have hdelete : st.answer (.deleteExpired fresh.now) =
        ⟨.ok (st.tokensWhere (·.isExpiredAt fresh.now)).length,
          st.removeTokensWhere (·.isExpiredAt fresh.now),
          (st.tokensWhere (·.isExpiredAt fresh.now)).map .restoreToken⟩ := rfl
    exact ⟨_, goes_ask_bind hdelete (goes_return _ _ _)⟩

/-- A command carried out with nobody else at the vault. -/
def runAlone (s : Service) (fresh : Fresh) (c : Command) (st : Store) :
    Program.Run Vault (Except Failure Outcome) :=
  (s.perform fresh c).run.run Backend.memory false ⟨st, none⟩

theorem runAlone_eq (s : Service) (fresh : Fresh) (c : Command) (hst : st.IsConsistent) :
    ∃ events, s.runAlone fresh c st =
      ⟨.finished (s.performOn fresh st c).1, ⟨(s.performOn fresh st c).2, none⟩, false,
        events⟩ := by
  obtain ⟨history, h⟩ := s.perform_goes_on fresh c hst
  exact h.run_eq

theorem isConsistent_performOn (s : Service) (fresh : Fresh) (c : Command)
    (hst : st.IsConsistent) : (s.performOn fresh st c).2.IsConsistent := by
  obtain ⟨history, h⟩ := s.perform_goes_on fresh c hst
  exact (h.isSound (Vault.isSound_closed hst)).store

/-! ### Known users and new identifiers -/

variable {u : User} {f : Fingerprint} {access : AccessToken.Signed}

/-- A login with a new identifier is a matter of the credentials alone. -/
theorem admitOn_of_unused (hu : st.users[u.id]? = some u)
    (hunused : st.tokens[fresh.tokenId]? = none) (password : String) (f : Fingerprint) :
    s.admitOn fresh password f u st = (s.accessFor fresh password u).map fun access =>
      (⟨access, fresh.tokenId, s.policy.lifetime⟩,
        (st.makeRoom s.policy.quota u.id).putToken (s.newToken fresh u.id f)) := by
  have hadd : (st.makeRoom s.policy.quota u.id).addToken (s.newToken fresh u.id f) =
      .ok ((st.makeRoom s.policy.quota u.id).putToken (s.newToken fresh u.id f)) := by
    refine Store.addToken_of_unused (u := u) ?_ rfl (Store.tokens_makeRoom_of_none hunused)
    rw [Store.users_makeRoom, hu]
  cases ha : s.accessFor fresh password u with
  | error e => exact admitOn_error ha f st
  | ok access =>
    rw [admitOn_eq ha, hadd]
    rfl

/-- What continues a session with a new identifier depends on the token and its owner alone. -/
theorem renewOn_of_unused {token : RefreshToken} (hu : st.users[u.id]? = some u)
    (howner : token.owner = u.id) (hunused : st.tokens[fresh.tokenId]? = none) (device : String)
    (id : RefreshTokenId) : s.renewOn fresh token device (st.removeToken id) =
      if isPresentedBy token device then
        if token.isExpiredAt fresh.now then .error .refreshTokenExpired
        else (s.signFor fresh u).map fun access =>
          (⟨access, fresh.tokenId, s.policy.lifetime⟩,
            (st.removeToken id).putToken (s.newToken fresh u.id token.fingerprint))
      else .error .fingerprintMismatch := by
  have huser : (st.removeToken id).user? token.owner = some u := by
    rw [howner]
    exact hu
  have hremoved : (st.removeToken id).tokens[fresh.tokenId]? = none := by
    rw [Store.tokens_removeToken, hunused, ite_self]
  have hadd : (st.removeToken id).addToken (s.newToken fresh u.id token.fingerprint) =
      .ok ((st.removeToken id).putToken (s.newToken fresh u.id token.fingerprint)) :=
    Store.addToken_of_unused hu rfl hremoved
  unfold renewOn
  rw [huser]
  dsimp only
  rw [hadd]
  cases s.signFor fresh u <;> rfl

theorem signUpOn_of_registered (hst : st.IsConsistent) (hu : st.users[u.id]? = some u)
    (he : Email.ofText text = .ok u.email) :
    s.signUpOn fresh text password st = .error .emailTaken := by
  unfold signUpOn
  rw [he]
  dsimp only
  rw [hst.userByEmail?_of_user hu]

theorem loginOn_of_registered (hst : st.IsConsistent) (hu : st.users[u.id]? = some u)
    (he : Email.ofText text = .ok u.email) : s.loginOn fresh text password device st =
      match Fingerprint.ofText device with
      | .error e => .error (.invalidFingerprint e.message)
      | .ok f => s.admitOn fresh password f u st := by
  unfold loginOn
  rw [he]
  cases Fingerprint.ofText device with
  | error e => rfl
  | ok f =>
    dsimp only
    rw [hst.userByEmail?_of_user hu]

/-- A user who gives the right password is let in, whatever tokens the user holds. -/
theorem runAlone_login (hst : st.IsConsistent) (hu : st.users[u.id]? = some u)
    (hf : Fingerprint.ofText device = .ok f) (he : Email.ofText text = .ok u.email)
    (ha : s.accessFor fresh password u = .ok access) (hnew : fresh.tokenId ∉ st.tokens) :
    ∃ events, s.runAlone fresh (.login text password device) st =
      ⟨.finished (.ok (.session ⟨access, fresh.tokenId, s.policy.lifetime⟩)),
        ⟨(st.makeRoom s.policy.quota u.id).putToken (s.newToken fresh u.id f), none⟩, false,
        events⟩ := by
  obtain ⟨events, hrun⟩ := s.runAlone_eq fresh (.login text password device) hst
  refine ⟨events, hrun.trans ?_⟩
  simp only [performOn, loginOn_of_registered hst hu he, hf,
    admitOn_of_unused hu (Store.tokens_eq_none_iff.2 hnew), ha, Except.map, settle]

/-- A refresh is about a token that is there, or about none. -/
theorem found_or_unknown (st : Store) (text : String) :
    (∃ id t, RefreshTokenId.parse? text = some id ∧ st.tokens[id]? = some t) ∨
      ∀ id, RefreshTokenId.parse? text = some id → id ∉ st.tokens := by
  cases hid : RefreshTokenId.parse? text with
  | none => exact .inr nofun
  | some id =>
    cases ht : st.tokens[id]? with
    | none =>
      right
      rintro _ ⟨⟩
      exact Store.tokens_eq_none_iff.1 ht
    | some t => exact .inl ⟨id, t, rfl, ht⟩

theorem refreshOn_of_unknown
    (h : ∀ id, RefreshTokenId.parse? text = some id → id ∉ st.tokens) :
    s.refreshOn fresh text device st = (.error .invalidRefreshToken, st) := by
  unfold refreshOn
  cases hid : RefreshTokenId.parse? text with
  | none => rfl
  | some id =>
    have htoken : st.token? id = none := Store.tokens_eq_none_iff.2 (h id hid)
    dsimp only
    rw [htoken]

theorem refreshOn_of_found {id : RefreshTokenId} {token : RefreshToken}
    (hid : RefreshTokenId.parse? text = some id) (ht : st.tokens[id]? = some token) :
    s.refreshOn fresh text device st =
      settle (st.removeToken id) (s.renewOn fresh token device (st.removeToken id)) := by
  have htoken : st.token? id = some token := ht
  unfold refreshOn
  rw [hid]
  dsimp only
  rw [htoken]

/-! ### What succeeds -/

/-- What holds of the store, and of the one that a success comes with, holds in any case. -/
theorem snd_settle {α : Type} {x : Except Failure (α × Store)} {p : Store → Prop} (hst : p st)
    (h : ∀ a st', x = .ok (a, st') → p st') : p (settle st x).2 := by
  cases x with
  | error e => exact hst
  | ok r => exact h r.1 r.2 rfl

theorem signUpOn_eq_ok {w : User} {st' : Store}
    (h : s.signUpOn fresh text password st = .ok (w, st')) :
    Email.ofText text = .ok w.email ∧ st.addUser w = .ok st' := by
  unfold signUpOn at h
  split at h
  · cases h
  · rename_i email he
    split at h
    · cases h
    · cases h
    · rename_i p hu hp
      obtain ⟨_, hadd, h⟩ := bind_eq_ok.1 h
      cases h
      exact ⟨he, hadd⟩

theorem admitOn_eq_ok {session : Session} {st' : Store}
    (h : s.admitOn fresh password f u st = .ok (session, st')) :
    ∃ access, s.accessFor fresh password u = .ok access ∧
      session = ⟨access, fresh.tokenId, s.policy.lifetime⟩ ∧
      (st.makeRoom s.policy.quota u.id).addToken (s.newToken fresh u.id f) = .ok st' := by
  obtain ⟨access, ha, h⟩ := bind_eq_ok.1 h
  obtain ⟨_, hadd, h⟩ := bind_eq_ok.1 h
  cases h
  exact ⟨access, ha, rfl, hadd⟩

theorem loginOn_eq_ok {session : Session} {st' : Store}
    (h : s.loginOn fresh text password device st = .ok (session, st')) : ∃ f email u,
      Fingerprint.ofText device = .ok f ∧ Email.ofText text = .ok email ∧
      st.userByEmail? email = some u ∧ s.admitOn fresh password f u st = .ok (session, st') := by
  unfold loginOn at h
  split at h
  · cases h
  · cases h
  · rename_i f email hf he
    split at h
    · cases h
    · rename_i u hu
      exact ⟨f, email, u, hf, he, hu, h⟩

theorem renewOn_eq_ok {token : RefreshToken} {session : Session} {st' : Store}
    (h : s.renewOn fresh token device st = .ok (session, st')) :
    ∃ u, st.user? token.owner = some u ∧
      st.addToken (s.newToken fresh u.id token.fingerprint) = .ok st' := by
  unfold renewOn at h
  split_ifs at h
  split at h
  · cases h
  · rename_i u hu
    obtain ⟨access, -, h⟩ := bind_eq_ok.1 h
    obtain ⟨_, hadd, h⟩ := bind_eq_ok.1 h
    cases h
    exact ⟨u, hu, hadd⟩

end Service

end SessionAuth
