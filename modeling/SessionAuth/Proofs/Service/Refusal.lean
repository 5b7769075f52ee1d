import SessionAuth.Proofs.Service.Effect

/-!
# Logins that fail

A login is refused for the device, or else for the credentials, whatever is wrong with them: the
address, the policy for passwords, the password, or a stored hash that is no hash
(`Service.loginOn_eq_error`). There is one exception: a stored hash with more lanes than can be
counted aborts every login that gets to it.
-/

namespace SessionAuth

/-- A login that gets to an uncountable hash: device and password are valid, and the address is that
of a user with such a hash. -/
def Store.AbortsLogin (st : Store) (text password device : String) : Prop :=
  ∃ f email u p, Fingerprint.ofText device = .ok f ∧ Email.ofText text = .ok email ∧
    st.userByEmail? email = some u ∧ Password.ofText password = .ok p ∧
    Password.Phc.IsUncountable u.passwordHash.text

namespace Service

variable {s : Service} {fresh : Fresh} {st : Store} {text password device : String} {u : User}
  {e : Failure} {v : Vault} {i : Bool} {events : List Event}

/-- Signing does not fail. -/
def SignsAll (s : Service) : Prop := ∀ fresh u, ∃ access, s.signFor fresh u = .ok access

/-- What a login is refused with: a device that is not valid, or else the credentials. -/
def loginRefusal (device : String) : Failure :=
  match Fingerprint.ofText device with
  | .error e => .invalidFingerprint e.message
  | .ok _ => .invalidCredentials

/-- An access token is refused for a password that breaks the policy, and else for what the check of
the password ends with. -/
theorem accessFor_eq_error_iff (hsign : s.SignsAll) : s.accessFor fresh password u = .error e ↔
    ((∃ fault, Password.ofText password = .error fault) ∧ e = .invalidCredentials) ∨
      ∃ p fault, Password.ofText password = .ok p ∧
        s.hasher.verify p u.passwordHash = .error fault ∧ e = .ofHashError fault := by
  unfold accessFor
  cases Password.ofText password with
  | error fault =>
    simp [Except.mapError, bind, Except.bind, eq_comm]
  | ok p =>
    obtain ⟨access, ha⟩ := hsign fresh u
    cases hv : s.hasher.verify p u.passwordHash with
    | error fault => simp [Except.mapError, bind, Except.bind, hv, eq_comm]
    | ok => simp [Except.mapError, bind, Except.bind, hv, ha]

/-- With a new identifier it is the access token that a login fails for. -/
theorem admitOn_eq_error {f : Fingerprint} (hu : st.users[u.id]? = some u)
    (hunused : st.tokens[fresh.tokenId]? = none)
    (h : s.admitOn fresh password f u st = .error e) :
    s.accessFor fresh password u = .error e := by
  rw [admitOn_of_unused hu hunused] at h
  cases ha : s.accessFor fresh password u with
  | error e' =>
    rw [ha] at h
    cases h
    rfl
  | ok access =>
    rw [ha] at h
    cases h

/-- Why a login fails, if signing does not fail and the identifier of the token is new. -/
theorem loginOn_eq_error (hsign : s.SignsAll) (hst : st.IsConsistent)
    (hnew : fresh.tokenId ∉ st.tokens)
    (h : s.loginOn fresh text password device st = .error e) :
    (e = loginRefusal device ∧ ¬ st.AbortsLogin text password device) ∨
      (e = .ofHashError .aborted ∧ st.AbortsLogin text password device) := by
  unfold loginOn at h
  unfold loginRefusal Store.AbortsLogin
  cases hf : Fingerprint.ofText device with
  | error fault =>
    rw [hf] at h
    cases h
    exact .inl ⟨rfl, by simp⟩
  | ok f =>
    rw [hf] at h
    cases he : Email.ofText text with
    | error fault =>
      rw [he] at h
      cases h
      exact .inl ⟨rfl, by simp⟩
    | ok email =>
      rw [he] at h
      dsimp only at h
      cases hu : st.userByEmail? email with
      | none =>
        rw [hu] at h
        cases h
        exact .inl ⟨rfl, by simp [hu]⟩
      | some u =>
        rw [hu] at h
        dsimp only at h
        have huser := (hst.of_userByEmail? hu).1
        have hrefused := admitOn_eq_error huser (Store.tokens_eq_none_iff.2 hnew) h
        rcases (accessFor_eq_error_iff hsign).1 hrefused with
          ⟨⟨fault, hp⟩, rfl⟩ | ⟨p, fault, hp, hv, rfl⟩
        · exact .inl ⟨rfl, by simp [hp]⟩
        · rcases Password.Hasher.verify_eq_error hv with rfl | rfl
          · refine .inl ⟨rfl, ?_⟩
            rintro ⟨_, _, u', p', -, ⟨⟩, hu', -, hun⟩
            obtain rfl := Option.some.inj (hu.symm.trans hu')
            cases hv.symm.trans (Password.Hasher.verify_eq_aborted_iff.2 hun)
          · exact .inr ⟨rfl, f, email, u, p, rfl, rfl, hu, hp,
              Password.Hasher.verify_eq_aborted_iff.1 hv⟩

theorem loginRefusal_ne_aborted (device : String) :
    loginRefusal device ≠ .ofHashError .aborted := by
  unfold loginRefusal
  cases Fingerprint.ofText device <;> exact nofun

theorem eq_aborted_iff (hsign : s.SignsAll) (hst : st.IsConsistent)
    (hnew : fresh.tokenId ∉ st.tokens)
    (h : s.loginOn fresh text password device st = .error e) :
    e = .ofHashError .aborted ↔ st.AbortsLogin text password device := by
  rcases loginOn_eq_error hsign hst hnew h with ⟨rfl, hno⟩ | ⟨rfl, haborts⟩
  · exact iff_of_false (loginRefusal_ne_aborted device) hno
  · exact iff_of_true rfl haborts

theorem eq_loginRefusal (hsign : s.SignsAll) (hst : st.IsConsistent)
    (hnew : fresh.tokenId ∉ st.tokens)
    (h : s.loginOn fresh text password device st = .error e)
    (hno : ¬ st.AbortsLogin text password device) : e = loginRefusal device := by
  rcases loginOn_eq_error hsign hst hnew h with ⟨he, -⟩ | ⟨-, haborts⟩
  · exact he
  · exact absurd haborts hno

/-- A login of nobody is refused. -/
theorem loginOn_of_unknown {email : Email} {f : Fingerprint}
    (hf : Fingerprint.ofText device = .ok f) (he : Email.ofText text = .ok email)
    (hu : st.userByEmail? email = none) :
    s.loginOn fresh text password device st = .error .invalidCredentials := by
  unfold loginOn
  rw [hf, he]
  dsimp only
  rw [hu]

/-- A login fails whose password does not match the stored hash, or cannot be checked against it. -/
theorem loginOn_of_verify {f : Fingerprint} {p : Password} {fault : Password.HashError}
    (hsign : s.SignsAll) (hst : st.IsConsistent) (hu : st.users[u.id]? = some u)
    (hf : Fingerprint.ofText device = .ok f) (he : Email.ofText text = .ok u.email)
    (hp : Password.ofText password = .ok p)
    (hv : s.hasher.verify p u.passwordHash = .error fault) :
    s.loginOn fresh text password device st = .error (.ofHashError fault) := by
  rw [loginOn_of_registered hst hu he, hf]
  exact admitOn_error ((accessFor_eq_error_iff hsign).2 (.inr ⟨p, fault, hp, hv, rfl⟩)) f st

theorem runAlone_of_loginOn (hst : st.IsConsistent)
    (h : s.loginOn fresh text password device st = .error e) :
    ∃ events, s.runAlone fresh (.login text password device) st =
      ⟨.finished (.error e), ⟨st, none⟩, false, events⟩ := by
  obtain ⟨events, hrun⟩ := s.runAlone_eq fresh (.login text password device) hst
  simp only [performOn, h] at hrun
  exact ⟨events, hrun⟩

/-- A login that fails, with nobody else at the vault, leaves the store as it is. -/
theorem loginOn_of_runAlone (hst : st.IsConsistent)
    (h : s.runAlone fresh (.login text password device) st = ⟨.finished (.error e), v, i, events⟩) :
    s.loginOn fresh text password device st = .error e ∧ v = ⟨st, none⟩ := by
  obtain ⟨events', hrun⟩ := s.runAlone_eq fresh (.login text password device) hst
  rw [h] at hrun
  simp only [performOn] at hrun
  cases hlogin : s.loginOn fresh text password device st with
  | ok r =>
    rw [hlogin] at hrun
    cases hrun
  | error e' =>
    rw [hlogin] at hrun
    cases hrun
    exact ⟨rfl, rfl⟩

end Service

end SessionAuth
