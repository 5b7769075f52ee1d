import SessionAuth.Proofs.Password.Hasher
import SessionAuth.Proofs.Service.Alone
import SessionAuth.Proofs.Service.Conduct
import SessionAuth.Proofs.Store.Holdings
import SessionAuth.Proofs.Text.Compatibility

/-!
# Scenarios

What sign-up, login and refresh do alone at the vault when nothing stands against them, and what a
login does that cannot store its token. From these runs, any service that works reaches the states
that others are compared with: a refresh under way (`System.exists_claimed`), and one that a second
login has overtaken (`System.exists_claimed_and_login`).
-/

namespace SessionAuth

namespace Service

open Operation (goes_bind goes_ask_bind goes_ask_bind_inside goes_ask_error_bind_inside
  goes_call_bind goes_log_bind goes_attempt_bind goes_return)

variable {s : Service} {fresh : Fresh} {st st' : Store} {text password device : String}
  {email : Email} {p : Password} {f : Fingerprint} {u : User} {access : AccessToken.Signed}

/-- Costs, pepper and key can be used. -/
structure IsUsable (s : Service) : Prop where
  hasher : s.hasher.IsValid
  signer : ∀ fresh u, ∃ access, s.signFor fresh u = .ok access

/-- The account that a sign-up creates. -/
def newUser (s : Service) (fresh : Fresh) (email : Email) (p : Password) : User :=
  ⟨fresh.userId, email, s.hasher.hash fresh.salt p, fresh.now⟩

/-- The token that a login creates. -/
def newToken (s : Service) (fresh : Fresh) (owner : UserId) (f : Fingerprint) : RefreshToken :=
  s.policy.issue fresh.tokenId owner f fresh.now

theorem accessFor_newUser (hs : s.IsUsable) (hp : Password.ofText password = .ok p)
    {first : Fresh} (hsalt : 8 ≤ first.salt.length ∧ first.salt.length ≤ 48) (fresh : Fresh)
    (email : Email) :
    ∃ access, s.accessFor fresh password (s.newUser first email p) = .ok access := by
  obtain ⟨access, haccess⟩ := hs.signer fresh (s.newUser first email p)
  have hhash : (s.newUser first email p).passwordHash = s.hasher.hash first.salt p := rfl
  refine ⟨access, ?_⟩
  have hverify := Password.Hasher.verify_hash hs.hasher hsalt p
  unfold accessFor
  rw [hp, hhash]
  simp only [Except.mapError, bind, Except.bind]
  rw [hverify]
  exact haccess

/-! ### Sign-up -/

theorem answer_findUserByEmail (st : Store) (email : Email) :
    st.answer (.findUserByEmail email) = ⟨.ok (st.userByEmail? email), st, []⟩ := rfl

theorem answer_tokensOf (st : Store) (owner : UserId) :
    st.answer (.tokensOf owner) = ⟨.ok (st.tokensOf owner), st, []⟩ := rfl

theorem answer_findUser (st : Store) (id : UserId) :
    st.answer (.findUser id) = ⟨.ok (st.user? id), st, []⟩ := rfl

theorem answer_findToken (st : Store) (id : RefreshTokenId) :
    st.answer (.findToken id) = ⟨.ok (st.token? id), st, []⟩ := rfl

theorem answer_deleteToken {id : RefreshTokenId} {token : RefreshToken}
    (h : st.token? id = some token) :
    st.answer (.deleteToken id) = ⟨.ok true, st.removeToken id, [.restoreToken token]⟩ := by
  simp only [Store.answer, h]

theorem answer_createUser (h : st.addUser u = .ok st') :
    st.answer (.createUser u) = ⟨.ok (), st', [.removeUser u.id]⟩ := by
  simp only [Store.answer, Store.add, h]

theorem answer_createToken {token : RefreshToken} (h : st.addToken token = .ok st') :
    st.answer (.createToken token) = ⟨.ok (), st', [.removeToken token.id]⟩ := by
  simp only [Store.answer, Store.add, h]

theorem signUp_goes (he : Email.ofText text = .ok email) (hp : Password.ofText password = .ok p)
    (hnone : st.userByEmail? email = none)
    (hadd : st.addUser (s.newUser fresh email p) = .ok st') :
    (s.signUp fresh text password).run.Goes ⟨st, none⟩ false
      [⟨.ask (.findUserByEmail email), .ok none⟩,
        ⟨.ask (.createUser (s.newUser fresh email p)), .ok ()⟩]
      (.ok (s.newUser fresh email p)) ⟨st', none⟩ false := by
  have hfind : st.answer (.findUserByEmail email) = ⟨.ok none, st, []⟩ := by
    rw [answer_findUserByEmail, hnone]
  unfold signUp
  rw [he, hp]
  exact goes_ask_bind hfind
    (goes_ask_bind (answer_createUser hadd) (goes_log_bind (goes_return _ _ _)))

/-! ### Login -/

theorem loginWithin_goes (he : Email.ofText text = .ok email)
    (hu : st.userByEmail? email = some u) (ha : s.accessFor fresh password u = .ok access)
    (hq : (st.tokensOf u.id).length < s.policy.quota)
    (hadd : st.addToken (s.newToken fresh u.id f) = .ok st') :
    (s.loginWithin fresh text password f).run.Goes ⟨st, some []⟩ true
      [⟨.ask (.findUserByEmail email), .ok (some u)⟩,
        ⟨.ask (.tokensOf u.id), .ok (st.tokensOf u.id)⟩, .creation (s.newToken fresh u.id f)]
      (.ok (u.id, ⟨access, fresh.tokenId, s.policy.lifetime⟩))
      ⟨st', some [.removeToken fresh.tokenId]⟩ true := by
  have hfind : st.answer (.findUserByEmail email) = ⟨.ok (some u), st, []⟩ := by
    rw [answer_findUserByEmail, hu]
  unfold loginWithin
  rw [he]
  refine goes_ask_bind_inside hfind ?_
  dsimp only
  rw [accessFor_eq, ha]
  refine goes_ask_bind_inside (answer_tokensOf st u.id) ?_
  rw [if_neg (Nat.not_le_of_lt hq)]
  exact goes_ask_bind_inside (answer_createToken hadd) (goes_return _ _ _)

/-- With the right credentials, and room for another token, a login commits. -/
theorem login_goes (hf : Fingerprint.ofText device = .ok f) (he : Email.ofText text = .ok email)
    (hu : st.userByEmail? email = some u) (ha : s.accessFor fresh password u = .ok access)
    (hq : (st.tokensOf u.id).length < s.policy.quota)
    (hadd : st.addToken (s.newToken fresh u.id f) = .ok st') :
    (s.login fresh text password device).run.Goes ⟨st, none⟩ false
      [⟨.begin, .ok ()⟩, ⟨.ask (.findUserByEmail email), .ok (some u)⟩,
        ⟨.ask (.tokensOf u.id), .ok (st.tokensOf u.id)⟩, .creation (s.newToken fresh u.id f),
        .commitment]
      (.ok ⟨access, fresh.tokenId, s.policy.lifetime⟩) ⟨st', none⟩ false := by
  have hbegin : Vault.reply? ⟨st, none⟩ false .begin = some ⟨.ok (), ⟨st, some []⟩, []⟩ := rfl
  have hcommit : Vault.reply? ⟨st', some [.removeToken fresh.tokenId]⟩ true .commit =
      some ⟨.ok (), ⟨st', none⟩, []⟩ := rfl
  unfold login
  rw [hf]
  refine goes_call_bind hbegin (goes_attempt_bind (loginWithin_goes he hu ha hq hadd) ?_)
  exact goes_call_bind hcommit (goes_log_bind (goes_return _ _ _))

theorem answer_deleteTokensOf (st : Store) (owner : UserId) :
    st.answer (.deleteTokensOf owner) = ⟨.ok (st.tokensWhere (·.owner = owner)).length,
      st.removeTokensWhere (·.owner = owner),
      (st.tokensWhere (·.owner = owner)).map .restoreToken⟩ := rfl

theorem answer_createToken_error {token : RefreshToken} {e : Failure}
    (h : st.addToken token = .error e) :
    st.answer (.createToken token) = ⟨.error e, st, []⟩ := by
  simp only [Store.answer, Store.add, h]

/-- What a login is told that evicts its user's tokens and cannot store the new one. -/
def refusal (s : Service) (fresh : Fresh) (st : Store) (email : Email) (f : Fingerprint) (u : User)
    (e : Failure) : List Exchange :=
  [⟨.ask (.findUserByEmail email), .ok (some u)⟩, ⟨.ask (.tokensOf u.id), .ok (st.tokensOf u.id)⟩,
    ⟨.ask (.deleteTokensOf u.id), .ok (st.tokensWhere (·.owner = u.id)).length⟩,
    ⟨.ask (.createToken (s.newToken fresh u.id f)), .error e⟩]

theorem loginWithin_goes_refused (he : Email.ofText text = .ok email)
    (hu : st.userByEmail? email = some u) (ha : s.accessFor fresh password u = .ok access)
    (hq : s.policy.quota ≤ (st.tokensOf u.id).length) {e : Failure}
    (hadd : (st.removeTokensWhere (·.owner = u.id)).addToken (s.newToken fresh u.id f) = .error e) :
    ∃ v, (s.loginWithin fresh text password f).run.Goes ⟨st, some []⟩ true
      (s.refusal fresh st email f u e) (.error e) v true := by
  have hfind : st.answer (.findUserByEmail email) = ⟨.ok (some u), st, []⟩ := by
    rw [answer_findUserByEmail, hu]
  let restored := (st.tokensWhere (·.owner = u.id)).map Undo.restoreToken
  refine ⟨⟨st.removeTokensWhere (·.owner = u.id), some (restored ++ [])⟩, ?_⟩
  unfold loginWithin
  rw [he]
  refine goes_ask_bind_inside hfind ?_
  dsimp only
  rw [accessFor_eq, ha]
  refine goes_ask_bind_inside (answer_tokensOf st u.id) ?_
  rw [if_pos hq]
  refine goes_ask_bind_inside (answer_deleteTokensOf st u.id) (goes_log_bind ?_)
  exact goes_ask_error_bind_inside _ (answer_createToken_error hadd)

/-- A login that cannot store its token rolls its transaction back. -/
theorem login_goes_refused (hf : Fingerprint.ofText device = .ok f)
    (he : Email.ofText text = .ok email) (hu : st.userByEmail? email = some u)
    (ha : s.accessFor fresh password u = .ok access)
    (hq : s.policy.quota ≤ (st.tokensOf u.id).length) {e : Failure}
    (hadd : (st.removeTokensWhere (·.owner = u.id)).addToken (s.newToken fresh u.id f) = .error e) :
    ∃ v, (s.login fresh text password device).run.Goes ⟨st, none⟩ false
      (⟨.begin, .ok ()⟩ :: s.refusal fresh st email f u e ++ [⟨.rollback, .ok ()⟩]) (.error e) v
      false := by
  obtain ⟨v, hwithin⟩ := loginWithin_goes_refused he hu ha hq hadd
  have hbegin : Vault.reply? ⟨st, none⟩ false .begin = some ⟨.ok (), ⟨st, some []⟩, []⟩ := rfl
  have hrollback : v.reply? true .rollback = some ⟨.ok (), v.drop, []⟩ := rfl
  refine ⟨v.drop, ?_⟩
  unfold login
  rw [hf]
  refine goes_call_bind hbegin (goes_attempt_bind hwithin ?_)
  have hcall : (Operation.call .rollback).run.Goes v true [⟨.rollback, .ok ()⟩] (.ok ()) v.drop
      false := .call hrollback (.done _ _ _)
  exact goes_attempt_bind hcall (.done _ _ _)

/-! ### Refresh -/

/-- A device presents its own tokens. -/
theorem isPresentedBy_of_ofText {token : RefreshToken} (hf : Fingerprint.ofText device = .ok f)
    (ht : token.fingerprint = f) : isPresentedBy token device = true := by
  unfold isPresentedBy
  rw [hf]
  simp only [RefreshToken.isBoundTo, Fingerprint.agrees_eq, ht, decide_true]

/-- A refresh looks for the token that its text names, and deletes the one that it is told of. -/
theorem perform_refresh {id : RefreshTokenId} (hid : RefreshTokenId.parse? text = some id)
    (token : RefreshToken) : ∃ next later,
      (s.perform fresh (.refresh text device)).run = .call (.ask (.findToken id)) next ∧
      next (.ok (some token)) = .call (.ask (.deleteToken id)) later := by
  unfold perform refresh
  dsimp only
  rw [hid]
  exact ⟨_, _, rfl, rfl⟩

/-- A refresh of a token that is there gets past the deletion. -/
theorem runs_refresh (s : Service) (fresh : Fresh) (device : String) {id : RefreshTokenId}
    {token : RefreshToken}
    (hid : RefreshTokenId.parse? text = some id) (ht : st.tokens[id]? = some token)
    (mayFail : Bool) : ∃ p, Task.Runs mayFail
      (⟨st, none⟩, .start s (.refresh text device) fresh)
      (⟨st.removeToken id, none⟩,
        ⟨.refresh text device, fresh, claim id token, some p, false⟩) := by
  have htoken : st.token? id = some token := ht
  have hfind : st.answer (.findToken id) = ⟨.ok (some token), st, []⟩ := by
    rw [answer_findToken, htoken]
  have hdelete := answer_deleteToken htoken
  obtain ⟨next, later, hstart, hfound⟩ : ∃ next later,
      (s.perform fresh (.refresh text device)).run = .call (.ask (.findToken id)) next ∧
      next (.ok (some token)) = .call (.ask (.deleteToken id)) later := perform_refresh hid token
  let t₀ := Task.start s (.refresh text device) fresh
  let t₁ := t₀.told (.ask (.findToken id)) next (.ok (some token))
  have hstep₁ : t₀.Step mayFail ⟨st, none⟩ ⟨st, none⟩ t₁ :=
    .ask (congrArg some hstart) hfind mayFail
  have hstep₂ : t₁.Step mayFail ⟨st, none⟩ ⟨st.removeToken id, none⟩
      (t₁.told (.ask (.deleteToken id)) later (.ok true)) :=
    .ask (congrArg some hfound) hdelete mayFail
  have hruns : Task.Runs mayFail (⟨st, none⟩, t₀) (⟨st, none⟩, t₁) := .single hstep₁
  exact ⟨later (.ok true), hruns.tail hstep₂⟩

/-- A refresh of a token that is there, bound to the device and not at its end goes through. -/
theorem refresh_goes {id : RefreshTokenId} {token : RefreshToken}
    (hid : RefreshTokenId.parse? text = some id) (ht : st.tokens[id]? = some token)
    (hp : isPresentedBy token device = true) (he : token.isExpiredAt fresh.now = false)
    (hu : st.users[token.owner]? = some u) (hs : s.signFor fresh u = .ok access)
    (hadd : (st.removeToken id).addToken (s.newToken fresh u.id token.fingerprint) = .ok st') :
    (s.refresh fresh text device).run.Goes ⟨st, none⟩ false
      (claim id token ++ [⟨.ask (.findUser token.owner), .ok (some u)⟩,
        .creation (s.newToken fresh u.id token.fingerprint)])
      (.ok ⟨access, fresh.tokenId, s.policy.lifetime⟩) ⟨st', none⟩ false := by
  have htoken : st.token? id = some token := ht
  have hfind : st.answer (.findToken id) = ⟨.ok (some token), st, []⟩ := by
    rw [answer_findToken, htoken]
  have hdelete := answer_deleteToken htoken
  have howner : (st.removeToken id).answer (.findUser token.owner) =
      ⟨.ok (some u), st.removeToken id, []⟩ := by
    have hsame : (st.removeToken id).user? token.owner = some u := hu
    rw [answer_findUser, hsame]
  unfold refresh
  rw [hid]
  refine goes_ask_bind hfind (goes_ask_bind hdelete ?_)
  rw [hp, he]
  refine goes_ask_bind howner ?_
  dsimp only
  rw [hs]
  exact goes_ask_bind (answer_createToken hadd) (goes_log_bind (goes_return _ _ _))

end Service

/-- A login evicts its user's tokens and fails after that, if its new identifier is in use for
another user's token. -/
theorem Task.exists_runs_refused {s : Service} {fresh : Fresh} {st : Store}
    {text password device : String} {email : Email} {f : Fingerprint} {u : User}
    {access : AccessToken.Signed} {other : RefreshToken} (hf : Fingerprint.ofText device = .ok f)
    (he : Email.ofText text = .ok email) (hu : st.userByEmail? email = some u)
    (ha : s.accessFor fresh password u = .ok access)
    (hq : s.policy.quota ≤ (st.tokensOf u.id).length) (ht : st.tokens[fresh.tokenId]? = some other)
    (howner : other.owner ≠ u.id) (mayFail : Bool) : ∃ e v t,
      Runs mayFail (⟨st, none⟩, .start s (.login text password device) fresh) (v, t) ∧
      t.EndsWith (.error e) ∧
      ⟨.ask (.deleteTokensOf u.id), .ok (st.tokensWhere (·.owner = u.id)).length⟩ ∈ t.history := by
  have hkept : (st.removeTokensWhere (·.owner = u.id)).tokens[fresh.tokenId]? = some other := by
    rw [Store.tokens_removeTokensWhere, ht]
    simp [Option.filter, howner]
  obtain ⟨e, hadd⟩ : ∃ e,
      (st.removeTokensWhere (·.owner = u.id)).addToken (s.newToken fresh u.id f) = .error e := by
    cases hadd : (st.removeTokensWhere (·.owner = u.id)).addToken (s.newToken fresh u.id f) with
    | error e => exact ⟨e, rfl⟩
    | ok st' =>
      obtain ⟨-, hnone, -⟩ := Store.addToken_eq_ok_iff.1 hadd
      have hid : (s.newToken fresh u.id f).id = fresh.tokenId := rfl
      rw [hid, hkept] at hnone
      cases hnone
  obtain ⟨v, hgoes⟩ := Service.login_goes_refused hf he hu ha hq hadd
  have hperform : (s.perform fresh (.login text password device)).run.Goes ⟨st, none⟩ false _
      (.error e) v false := Operation.goes_error_bind _ hgoes
  exact ⟨e, v, _, runs_start hperform mayFail, rfl, by simp [Service.refusal]⟩

namespace System

variable {s : Service} {a : System} {fresh : Fresh} {st st' : Store} {tasks : List Task}
  {text password device : String} {email : Email} {p : Password} {f : Fingerprint} {u : User}
  {access : AccessToken.Signed} {mayFail : Bool}

/-- A sign-up arrives and succeeds. -/
theorem Reaches.signUp (h : a.Reaches s mayFail ⟨⟨st, none⟩, tasks⟩)
    (he : Email.ofText text = .ok email) (hp : Password.ofText password = .ok p)
    (hnone : st.userByEmail? email = none)
    (hadd : st.addUser (s.newUser fresh email p) = .ok st') : ∃ t : Task, t.fresh = fresh ∧
      a.Reaches s mayFail ⟨⟨st', none⟩, tasks ++ [t]⟩ := by
  have hgoes : (s.perform fresh (.signUp text password)).run.Goes ⟨st, none⟩ false _ _ _ _ :=
    Operation.goes_bind (Service.signUp_goes he hp hnone hadd) (Operation.goes_return _ _ _)
  exact ⟨_, rfl, h.arrive (Task.runs_start hgoes mayFail)⟩

/-- A login arrives and succeeds. -/
theorem Reaches.login (h : a.Reaches s mayFail ⟨⟨st, none⟩, tasks⟩)
    (hf : Fingerprint.ofText device = .ok f) (he : Email.ofText text = .ok email)
    (hu : st.userByEmail? email = some u) (ha : s.accessFor fresh password u = .ok access)
    (hq : (st.tokensOf u.id).length < s.policy.quota)
    (hadd : st.addToken (s.newToken fresh u.id f) = .ok st') : ∃ t : Task, t.fresh = fresh ∧
      a.Reaches s mayFail ⟨⟨st', none⟩, tasks ++ [t]⟩ := by
  have hgoes : (s.perform fresh (.login text password device)).run.Goes ⟨st, none⟩ false _ _ _ _ :=
    Operation.goes_bind (Service.login_goes hf he hu ha hq hadd) (Operation.goes_return _ _ _)
  exact ⟨_, rfl, h.arrive (Task.runs_start hgoes mayFail)⟩

end System

/-! ### The first user -/

/-- The store with one user and no token. -/
def Store.ofUser (u : User) : Store where
  users := empty.users.insert u.id u
  emails := empty.emails.insert u.email u.id
  tokens := empty.tokens

namespace Store

variable {u : User} {token : RefreshToken}

theorem addUser_empty (u : User) : empty.addUser u = .ok (ofUser u) :=
  addUser_eq_ok_iff.2 ⟨by simp [empty], by simp [empty], rfl⟩

theorem isConsistent_ofUser (u : User) : (ofUser u).IsConsistent :=
  isConsistent_empty.addUser (by simp [empty]) (by simp [empty])

theorem userByEmail?_ofUser (u : User) : (ofUser u).userByEmail? u.email = some u := by
  simp [userByEmail?, user?, ofUser]

theorem held_ofUser (u : User) (owner : UserId) : (ofUser u).held owner = 0 := by
  rw [← held_empty owner]
  exact held_eq_of_tokens_eq rfl

theorem length_tokensOf_ofUser (u : User) {quota : Nat} (hq : 1 ≤ quota) :
    ((ofUser u).tokensOf u.id).length < quota := by
  have hheld : (ofUser u).held u.id = 0 := held_ofUser u u.id
  rw [held] at hheld
  omega

theorem tokens_ofUser (u : User) (id : RefreshTokenId) : (ofUser u).tokens[id]? = none := by
  simp [ofUser, empty]

theorem addToken_ofUser (h : token.owner = u.id) :
    (ofUser u).addToken token = .ok ((ofUser u).putToken token) := by
  refine addToken_eq_ok_iff.2 ⟨?_, tokens_ofUser u token.id, rfl⟩
  rw [h]
  simp [ofUser]

/-- A store with two users, each of whom holds a token. -/
theorem exists_of_two_users {u w : User} {t₁ t₂ : RefreshToken} (hid : w.id ≠ u.id)
    (hemail : w.email ≠ u.email) (h₁ : t₁.owner = u.id) (h₂ : t₂.owner = w.id)
    (hne : t₁.id ≠ t₂.id) : ∃ s : Store, s.IsConsistent ∧ s.userByEmail? u.email = some u ∧
      s.held u.id = 1 ∧ s.tokens[t₂.id]? = some t₂ := by
  let both : Store := { ofUser u with
    users := (ofUser u).users.insert w.id w, emails := (ofUser u).emails.insert w.email w.id }
  have hboth : both.IsConsistent := by
    refine (isConsistent_ofUser u).addUser ?_ ?_
    · simp [ofUser, empty, hemail.symm]
    · simp [ofUser, empty, hid.symm]
  have huser : t₁.owner ∈ both.users := by simp [both, ofUser, h₁]
  have hother : t₂.owner ∈ (both.putToken t₁).users := by simp [both, putToken, h₂]
  have hnone : both.tokens[t₁.id]? = none := tokens_ofUser u t₁.id
  have hnone' : (both.putToken t₁).tokens[t₂.id]? = none := by
    rw [tokens_putToken, if_neg hne]
    exact tokens_ofUser u t₂.id
  refine ⟨_, (hboth.putToken huser).putToken hother, ?_, ?_, ?_⟩
  · have hemail' : both.emails[u.email]? = some u.id := by
      simp only [both, ofUser, Std.ExtTreeMap.getElem?_insert, Std.compare_eq_iff_eq, hemail,
        if_false, if_true]
    have hid' : both.users[u.id]? = some u := by
      simp only [both, ofUser, Std.ExtTreeMap.getElem?_insert, Std.compare_eq_iff_eq, hid,
        if_false, if_true]
    show both.emails[u.email]?.bind both.user? = some u
    rw [hemail']
    exact hid'
  · have hheld : both.held u.id = 0 := (held_eq_of_tokens_eq rfl).trans (held_ofUser u u.id)
    rw [held_putToken hnone', held_putToken hnone, hheld, if_pos h₁, if_neg (h₂ ▸ hid)]
  · rw [tokens_putToken, if_pos rfl]

end Store

/-- An address, a password and a device that the service takes from a client. -/
structure Service.Takes (text password device : String) (email : Email) (p : Password)
    (f : Fingerprint) : Prop where
  email : Email.ofText text = .ok email
  password : Password.ofText password = .ok p
  device : Fingerprint.ofText device = .ok f

namespace System

variable {s : Service} {text password device tokenText : String} {email : Email} {p : Password}
  {f : Fingerprint} {first second : Fresh}

/-- The first user logs in, and a refresh gets past the deletion of the token. -/
theorem exists_claimed (hs : s.IsUsable) (hq : 1 ≤ s.policy.quota)
    (hc : Service.Takes text password device email p f)
    (hsalt : 8 ≤ first.salt.length ∧ first.salt.length ≤ 48)
    (hid : RefreshTokenId.parse? tokenText = some second.tokenId) (third : Fresh)
    (mayFail : Bool) : ∃ t₁ t₂ t₃,
      initial.Reaches s mayFail ⟨⟨.ofUser (s.newUser first email p), none⟩, [t₁, t₂, t₃]⟩ ∧
      [t₁, t₂, t₃].map (·.fresh) = [first, second, third] ∧
      t₃.command = .refresh tokenText device ∧
      t₃.history = Service.claim second.tokenId (s.newToken second first.userId f) ∧
      t₃.rest.isSome := by
  let u := s.newUser first email p
  let token := s.newToken second u.id f
  obtain ⟨access, ha⟩ := s.accessFor_newUser hs hc.password hsalt second email
  have hstart : initial.Reaches s mayFail ⟨⟨.empty, none⟩, []⟩ := .refl
  have hnone : Store.empty.userByEmail? email = none :=
    Store.userByEmail?_empty _
  have huser : Store.empty.addUser (s.newUser first email p) = .ok (.ofUser u) :=
    Store.addUser_empty u
  obtain ⟨t₁, ht₁, hsigned⟩ := hstart.signUp hc.email hc.password hnone huser
  obtain ⟨t₂, ht₂, hlogged⟩ := hsigned.login hc.device hc.email (Store.userByEmail?_ofUser u) ha
    (Store.length_tokensOf_ofUser u hq) (Store.addToken_ofUser rfl)
  have htoken : ((Store.ofUser u).putToken token).tokens[second.tokenId]? = some token := by
    rw [Store.tokens_putToken]
    exact if_pos rfl
  obtain ⟨rest, hruns⟩ := s.runs_refresh third device hid htoken mayFail
  have hback : ((Store.ofUser u).putToken token).removeToken second.tokenId = .ofUser u :=
    Store.removeToken_putToken (t := token) (Store.tokens_ofUser u _)
  rw [hback] at hruns
  refine ⟨t₁, t₂, _, hlogged.arrive hruns, ?_, rfl, rfl, rfl⟩
  simp only [List.map, ht₁, ht₂]

/-- The first user logs in, and a refresh goes through. -/
theorem exists_refreshed (hs : s.IsUsable) (hq : 1 ≤ s.policy.quota)
    (hc : Service.Takes text password device email p f)
    (hsalt : 8 ≤ first.salt.length ∧ first.salt.length ≤ 48)
    (hid : RefreshTokenId.parse? tokenText = some second.tokenId) (third : Fresh)
    (hlive : (s.newToken second first.userId f).isExpiredAt third.now = false) (mayFail : Bool) :
    ∃ (st : Store) (t₁ t₂ t₃ : Task) (x y : Session),
      initial.Reaches s mayFail ⟨⟨st, none⟩, [t₁, t₂, t₃]⟩ ∧
      [t₁, t₂, t₃].map (·.fresh) = [first, second, third] ∧
      t₂.command = .login text password device ∧ t₂.EndsWith (.ok (.session x)) ∧
      t₃.command = .refresh tokenText device ∧ t₃.EndsWith (.ok (.session y)) ∧
      third.tokenId ∈ st.tokens := by
  let u := s.newUser first email p
  let token := s.newToken second u.id f
  obtain ⟨access, ha⟩ := s.accessFor_newUser hs hc.password hsalt second email
  obtain ⟨next, hsign⟩ := hs.signer third u
  have hstart : initial.Reaches s mayFail ⟨⟨.empty, none⟩, []⟩ := .refl
  have hnone : Store.empty.userByEmail? email = none :=
    Store.userByEmail?_empty _
  have hcreated : Store.empty.addUser (s.newUser first email p) = .ok (.ofUser u) :=
    Store.addUser_empty u
  obtain ⟨t₁, ht₁, hsigned⟩ := hstart.signUp hc.email hc.password hnone hcreated
  have hadd : (Store.ofUser u).addToken token = .ok ((Store.ofUser u).putToken token) :=
    Store.addToken_ofUser rfl
  have hlogin : (s.perform second (.login text password device)).run.Goes ⟨.ofUser u, none⟩ false
      _ _ _ _ :=
    Operation.goes_bind (Service.login_goes hc.device hc.email (Store.userByEmail?_ofUser u) ha
      (Store.length_tokensOf_ofUser u hq) hadd) (Operation.goes_return _ _ _)
  have htoken : ((Store.ofUser u).putToken token).tokens[second.tokenId]? = some token := by
    rw [Store.tokens_putToken]
    exact if_pos rfl
  have hback : ((Store.ofUser u).putToken token).removeToken second.tokenId = .ofUser u :=
    Store.removeToken_putToken (t := token) (Store.tokens_ofUser u _)
  have huser : ((Store.ofUser u).putToken token).users[token.owner]? = some u := by
    simp [Store.ofUser, Store.putToken, token, Service.newToken, RefreshToken.Policy.issue]
  have hrefresh : (s.perform third (.refresh tokenText device)).run.Goes
      ⟨(Store.ofUser u).putToken token, none⟩ false _ _ _ _ :=
    Operation.goes_bind (Service.refresh_goes hid htoken
      (Service.isPresentedBy_of_ofText hc.device rfl) hlive huser hsign
      (hback ▸ Store.addToken_ofUser rfl)) (Operation.goes_return _ _ _)
  have hlogged := hsigned.arrive (Task.runs_start hlogin mayFail)
  have hrefreshed := hlogged.arrive (Task.runs_start hrefresh mayFail)
  refine ⟨_, t₁, _, _, _, _, hrefreshed, ?_, rfl, rfl, rfl, rfl, ?_⟩
  · simp only [List.map, ht₁]
  · simp [Store.putToken, Service.newToken, RefreshToken.Policy.issue]

/-- While the refresh waits, its user logs in again. -/
theorem exists_claimed_and_login (hs : s.IsUsable) (hq : 1 ≤ s.policy.quota)
    (hc : Service.Takes text password device email p f)
    (hsalt : 8 ≤ first.salt.length ∧ first.salt.length ≤ 48)
    (hid : RefreshTokenId.parse? tokenText = some second.tokenId) (third fourth : Fresh)
    (mayFail : Bool) : ∃ t₁ t₂ t₃ t₄,
      initial.Reaches s mayFail ⟨⟨(Store.ofUser (s.newUser first email p)).putToken
        (s.newToken fourth first.userId f), none⟩, [t₁, t₂, t₃, t₄]⟩ ∧
      [t₁, t₂, t₃, t₄].map (·.fresh) = [first, second, third, fourth] ∧
      t₃.command = .refresh tokenText device ∧
      t₃.history = Service.claim second.tokenId (s.newToken second first.userId f) ∧
      t₃.rest.isSome := by
  obtain ⟨t₁, t₂, t₃, h, hfresh, hcommand, hhistory, hrest⟩ :=
    exists_claimed hs hq hc hsalt hid third mayFail
  obtain ⟨access, ha⟩ := s.accessFor_newUser hs hc.password hsalt fourth email
  obtain ⟨t₄, ht₄, hlogged⟩ := h.login hc.device hc.email (Store.userByEmail?_ofUser _) ha
    (Store.length_tokensOf_ofUser _ hq) (Store.addToken_ofUser rfl)
  refine ⟨t₁, t₂, t₃, t₄, hlogged, ?_, hcommand, hhistory, hrest⟩
  simp only [List.map, List.cons.injEq, and_true] at hfresh ⊢
  exact ⟨hfresh.1, hfresh.2.1, hfresh.2.2, ht₄⟩

end System

/-! ### A small service -/

/-- A service with the least costs, and a quota of one token. -/
def Service.least : Service where
  hasher := ⟨⟨8, 1, 1⟩, none⟩
  signer := ⟨"issuer", .edwards, 900, .edwards (List.replicate 32 0)⟩
  policy := ⟨3600, 1⟩

theorem Service.isUsable_least : least.IsUsable where
  hasher := ⟨rfl, by decide, by decide⟩
  signer _ _ := ⟨_, rfl⟩

/-- What the world gives to the operation with a number. -/
def Fresh.numbered (n : BitVec 128) : Fresh :=
  ⟨⟨⟨n⟩⟩, ⟨⟨n⟩⟩, ⟨n⟩, List.replicate 8 0, .epoch⟩

theorem Fresh.length_salt_numbered (n : BitVec 128) :
    8 ≤ (numbered n).salt.length ∧ (numbered n).salt.length ≤ 48 := by
  simp [numbered]

theorem System.hasFreshIds_of_numbered {tasks : List Task} (ns : List (BitVec 128)) (hn : ns.Nodup)
    (h : tasks.map (·.fresh) = ns.map Fresh.numbered) (v : Vault) : HasFreshIds ⟨v, tasks⟩ := by
  have htokens := congrArg (List.map (·.tokenId)) h
  have husers := congrArg (List.map (·.userId)) h
  simp only [List.map_map, Function.comp_def] at htokens husers
  refine ⟨?_, ?_⟩
  · rw [htokens]
    exact hn.map fun n m heq => by cases heq; rfl
  · rw [husers]
    exact hn.map fun n m heq => by cases heq; rfl

theorem Service.takes_ada :
    Takes "ada@b.cc" "correct horse" "laptop" ⟨"ada@b.cc"⟩ ⟨"correct horse"⟩ ⟨"laptop"⟩ where
  email := rfl
  password := by
    have hplain : "correct horse".toList.all (Text.Compatibility.IsPlain ·) = true := by decide
    unfold Password.ofText
    rw [Text.Compatibility.normalize_eq fun c hc =>
      of_decide_eq_true (List.all_eq_true.1 hplain c hc)]
    rfl
  device := rfl

theorem Fresh.parse?_two :
    RefreshTokenId.parse? "00000000-0000-0000-0000-000000000002" = some (numbered 2).tokenId := rfl

/-- The account of the first sign-up. -/
def Service.ada : User := least.newUser (.numbered 1) ⟨"ada@b.cc"⟩ ⟨"correct horse"⟩

/-- The token of the first login. -/
def Service.firstToken : RefreshToken := least.newToken (.numbered 2) ada.id ⟨"laptop"⟩

/-- The store after the first login. -/
def Store.signedIn : Store := (ofUser Service.ada).putToken Service.firstToken

theorem Store.isConsistent_signedIn : signedIn.IsConsistent := by
  refine (isConsistent_ofUser Service.ada).putToken ?_
  simp [ofUser, Service.firstToken, Service.newToken, RefreshToken.Policy.issue]

theorem Store.ada_signedIn : signedIn.users[Service.ada.id]? = some Service.ada := by
  simp [signedIn, putToken, ofUser]

theorem Store.firstToken_signedIn :
    signedIn.tokens[Service.firstToken.id]? = some Service.firstToken := by
  rw [signedIn, tokens_putToken, if_pos rfl]

theorem Store.eq_ada_of_signedIn {u : User} (h : signedIn.users[u.id]? = some u) :
    u = Service.ada := by
  simp only [signedIn, putToken, ofUser, Std.ExtTreeMap.getElem?_insert] at h
  split_ifs at h
  · exact (Option.some.inj h).symm
  · simp [empty] at h

theorem Store.not_mem_signedIn {id : RefreshTokenId} (h : id ≠ Service.firstToken.id) :
    id ∉ signedIn.tokens := by
  rw [← tokens_eq_none_iff, signedIn, tokens_putToken, if_neg h.symm, tokens_ofUser]

theorem Store.held_signedIn : signedIn.held Service.ada.id = 1 := by
  rw [signedIn, held_putToken (tokens_ofUser Service.ada _), held_ofUser]
  rfl

/-- The first sign-up goes through. -/
theorem System.exists_signed_up (mayFail : Bool) : ∃ t : Task,
    initial.Reaches .least mayFail ⟨⟨.ofUser Service.ada, none⟩, [t]⟩ ∧
    t.command = .signUp "ada@b.cc" "correct horse" ∧ t.fresh = .numbered 1 ∧
    t.EndsWith (.ok (.account Service.ada)) := by
  have hsignUp := Service.signUp_goes Service.takes_ada.email
    Service.takes_ada.password (Store.userByEmail?_empty _) (Store.addUser_empty Service.ada)
  have hgoes : (Service.least.perform (.numbered 1) (.signUp "ada@b.cc" "correct horse")).run.Goes
      ⟨.empty, none⟩ false _ (.ok (.account Service.ada)) ⟨.ofUser Service.ada, none⟩ false :=
    Operation.goes_bind hsignUp (Operation.goes_return _ _ _)
  have hstart : initial.Reaches .least mayFail ⟨⟨.empty, none⟩, []⟩ := .refl
  exact ⟨_, hstart.arrive (Task.runs_start hgoes mayFail), rfl, rfl, rfl⟩

end SessionAuth
