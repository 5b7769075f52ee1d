import SessionAuth.Proofs.Service.Admission
import SessionAuth.Proofs.Service.Effect
import SessionAuth.Proofs.Store.Holdings

/-!
# Sessions that are opened

What a session gives to its user (`Service.Grants`), and what a login leaves behind that gives one
(`Service.opens_of_login`): the user holds one token more than before, or that token alone where
there were as many as the quota allows. Expired tokens count as the others do. Nothing else changes.
-/

namespace SessionAuth

namespace Store

variable {st : Store} {quota : Nat} {owner other : UserId}

/-! ### Making room -/

theorem emails_makeRoom (st : Store) (quota : Nat) (owner : UserId) :
    (st.makeRoom quota owner).emails = st.emails := by
  unfold makeRoom
  split_ifs <;> rfl

theorem holdings_makeRoom : (st.makeRoom quota owner).holdings owner =
    if quota ≤ (st.holdings owner).size then ∅ else st.holdings owner := by
  have hcount : (st.tokensOf owner).length = (st.holdings owner).size := st.held_eq_size owner
  unfold makeRoom
  rw [hcount]
  split_ifs
  · exact holdings_removeTokensOf
  · rfl

theorem holdings_makeRoom_of_ne (h : other ≠ owner) :
    (st.makeRoom quota owner).holdings other = st.holdings other := by
  unfold makeRoom
  split_ifs
  · exact holdings_removeTokensOf_of_ne h
  · rfl

end Store

namespace Service

variable {s : Service} {fresh : Fresh} {st st' : Store} {text password device : String} {u : User}
  {f : Fingerprint} {access : AccessToken.Signed} {session : Session}

/-! ### What is given -/

/-- What a session gives to its user: the new token with the lifetime of the policy, and a signed
access token about the user's address that ends its lifetime after now, both cut at 64 bits. -/
structure Grants (s : Service) (fresh : Fresh) (u : User) (session : Session) : Prop where
  tokenId : session.tokenId = fresh.tokenId
  lifetime : session.lifetime = s.policy.lifetime
  access : ∃ claims signature,
    claims = ⟨fresh.accessId.text, s.signer.issuer, u.email.text, fresh.now.seconds,
      session.access.expiresAt⟩ ∧
    s.signer.key.sign (s.signer.message claims) = .ok signature ∧
    session.access.token =
      AccessToken.signedText s.signer.algorithm claims ++ "." ++ AccessToken.encodePart signature ∧
    AccessToken.claimsOf? session.access.token = some claims
  expiresAt : session.access.expiresAt =
    min (fresh.now.seconds + min (s.signer.lifetime : Int) 9223372036854775807) 9223372036854775807

theorem grants_of_signFor (h : s.signFor fresh u = .ok access) :
    s.Grants fresh u ⟨access, fresh.tokenId, s.policy.lifetime⟩ := by
  have hread := AccessToken.Signer.claimsOf?_sign (sign_of_signFor h)
  obtain ⟨signature, hkey, rfl⟩ := AccessToken.Signer.sign_eq_ok (sign_of_signFor h)
  exact ⟨rfl, rfl, ⟨_, signature, rfl, hkey, rfl, hread⟩, AccessToken.Signer.endOf_eq_min _ _⟩

/-! ### What is left -/

/-- The session is one of a user whose address was given, and the store is the one before with the
user's new token, and without all earlier ones if there were as many as the quota. -/
structure Opens (s : Service) (fresh : Fresh) (text device : String) (st : Store) (u : User)
    (session : Session) (st' : Store) : Prop where
  user : st.users[u.id]? = some u
  address : Email.ofText text = .ok u.email
  grants : s.Grants fresh u session
  holdings : st'.holdings u.id =
    (if s.policy.quota ≤ (st.holdings u.id).size then ∅ else st.holdings u.id).insert fresh.tokenId
      ⟨fresh.tokenId, u.id, ⟨device⟩, s.policy.lifetime, fresh.now⟩
  others : ∀ other, other ≠ u.id → st'.holdings other = st.holdings other
  users : st'.users = st.users
  emails : st'.emails = st.emails

/-- Who is admitted holds the new token, and the earlier ones as far as there was room. -/
theorem opens_of_admitOn (hu : st.users[u.id]? = some u) (he : Email.ofText text = .ok u.email)
    (hf : Fingerprint.ofText device = .ok f)
    (h : s.admitOn fresh password f u st = .ok (session, st')) :
    s.Opens fresh text device st u session st' := by
  obtain ⟨access, ha, rfl, hadd⟩ := admitOn_eq_ok h
  obtain ⟨-, hnone, rfl⟩ := Store.addToken_eq_ok_iff.1 hadd
  obtain rfl := Fingerprint.eq_of_ofText hf
  refine ⟨hu, he, grants_of_signFor (accessFor_eq_ok ha).2, ?_, fun other hother => ?_, ?_, ?_⟩
  · have hput :=
      (st.makeRoom s.policy.quota u.id).holdings_putToken (s.newToken fresh u.id ⟨device⟩)
    have howner : (s.newToken fresh u.id ⟨device⟩).owner = u.id := rfl
    rw [howner, Store.holdings_makeRoom] at hput
    exact hput
  · rw [Store.holdings_putToken_of_ne hnone hother.symm, Store.holdings_makeRoom_of_ne hother]
  · exact st.users_makeRoom s.policy.quota u.id
  · exact st.emails_makeRoom s.policy.quota u.id

theorem opens_of_loginOn (hst : st.IsConsistent)
    (h : s.loginOn fresh text password device st = .ok (session, st')) :
    ∃ u, s.Opens fresh text device st u session st' := by
  obtain ⟨f, email, u, hf, he, hfound, hadmit⟩ := loginOn_eq_ok h
  obtain ⟨hu, rfl⟩ := hst.of_userByEmail? hfound
  exact ⟨u, opens_of_admitOn hu he hf hadmit⟩

/-- A login that gives a session opens it for a user, with nobody else at the vault. -/
theorem opens_of_login {v : Vault} {i : Bool} {events : List Event} (hst : st.IsConsistent)
    (h : s.runAlone fresh (.login text password device) st =
      ⟨.finished (.ok (.session session)), v, i, events⟩) :
    ∃ u st', v = ⟨st', none⟩ ∧ s.Opens fresh text device st u session st' := by
  obtain ⟨events', hrun⟩ := s.runAlone_eq fresh (.login text password device) hst
  rw [h] at hrun
  simp only [performOn] at hrun
  cases hlogin : s.loginOn fresh text password device st with
  | error e =>
    rw [hlogin] at hrun
    cases hrun
  | ok r =>
    rw [hlogin] at hrun
    cases hrun
    obtain ⟨u, hopens⟩ := opens_of_loginOn hst hlogin
    exact ⟨u, r.2, rfl, hopens⟩

/-- The quota of one token is reached, and the second login opens a session all the same. -/
theorem opens_of_login_again : Store.signedIn.IsConsistent ∧ ∃ session v events st',
    least.runAlone (.numbered 3) (.login "ada@b.cc" "correct horse" "laptop") .signedIn =
      ⟨.finished (.ok (.session session)), v, false, events⟩ ∧
    v = ⟨st', none⟩ ∧ least.policy.quota ≤ (Store.signedIn.holdings ada.id).size ∧
    least.Opens (.numbered 3) "ada@b.cc" "laptop" .signedIn ada session st' := by
  have hst := Store.isConsistent_signedIn
  have hnew : (Fresh.numbered 3).tokenId ∉ Store.signedIn.tokens :=
    Store.not_mem_signedIn (by decide)
  obtain ⟨access, ha⟩ := accessFor_newUser isUsable_least takes_ada.password
    (Fresh.length_salt_numbered 1) (.numbered 3) ⟨"ada@b.cc"⟩
  obtain ⟨events, hrun⟩ :=
    runAlone_login hst Store.ada_signedIn takes_ada.device takes_ada.email ha hnew
  obtain ⟨u, st', hv, hopens⟩ := opens_of_login hst hrun
  obtain rfl := Store.eq_ada_of_signedIn hopens.user
  refine ⟨hst, _, _, events, st', hrun, hv, ?_, hopens⟩
  rw [← Store.held_eq_size, Store.held_signedIn]
  decide

end Service

end SessionAuth
