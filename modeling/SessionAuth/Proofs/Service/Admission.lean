import SessionAuth.Proofs.AccessToken.RoundTrip
import SessionAuth.Proofs.Bytes.ConstantTime
import SessionAuth.Proofs.Result
import SessionAuth.Proofs.Service.Lineage

/-!
# What successful logins and refreshes have checked

A login that gives a session has found the user of its address and verified the user's password
(`Service.Admits`). A refresh that gives one has found a token, which is bound to the device that
presents it, and the owner of the token (`Task.Conforms.of_refresh`). Both have created a token of
the user for the device, and signed an access token about the user's address.
-/

namespace SessionAuth

/-! ### Subjects and devices -/

/-- The token is put together of claims about the subject, and is read as these. -/
def AccessToken.Signed.IsFor (a : AccessToken.Signed) (subject : String) : Prop :=
  ∃ algorithm claims signature, claims.subject = subject ∧
    a.token = signedText algorithm claims ++ "." ++ encodePart signature ∧
    claimsOf? a.token = some claims

/-- The command comes from the device. -/
def Command.Names (c : Command) (device : String) : Prop :=
  (∃ text password, c = .login text password device) ∨ ∃ text, c = .refresh text device

theorem Fingerprint.ext {f g : Fingerprint} (h : f.text = g.text) : f = g := congrArg mk h

namespace Service

variable {s : Service} {fresh : Fresh} {text password device : String} {u : User}
  {access : AccessToken.Signed}

/-- The access token of a user is signed for the user's address. -/
theorem sign_of_signFor (h : s.signFor fresh u = .ok access) :
    s.signer.sign fresh.accessId u.email.text fresh.now = .ok access :=
  mapError_eq_ok.1 h

theorem isFor_of_signFor (h : s.signFor fresh u = .ok access) : access.IsFor u.email.text := by
  have hread := AccessToken.Signer.claimsOf?_sign (sign_of_signFor h)
  obtain ⟨signature, -, rfl⟩ := AccessToken.Signer.sign_eq_ok (sign_of_signFor h)
  exact ⟨s.signer.algorithm, _, signature, rfl, rfl, hread⟩

theorem accessFor_eq_ok (h : s.accessFor fresh password u = .ok access) :
    (∃ p, Password.ofText password = .ok p ∧ s.hasher.verify p u.passwordHash = .ok ()) ∧
      s.signFor fresh u = .ok access := by
  obtain ⟨p, hp, h⟩ := bind_eq_ok.1 h
  obtain ⟨_, hv, h⟩ := bind_eq_ok.1 h
  exact ⟨⟨p, mapError_eq_ok.1 hp, mapError_eq_ok.1 hv⟩, h⟩

/-- A device names itself by the text that it was registered with, and by no other one. -/
theorem eq_of_isPresentedBy {token : RefreshToken} (h : isPresentedBy token device = true) :
    Fingerprint.ofText device = .ok token.fingerprint := by
  unfold isPresentedBy at h
  split at h
  · rename_i f hf
    rw [RefreshToken.isBoundTo, Fingerprint.agrees_eq, decide_eq_true_eq] at h
    rw [hf, Fingerprint.ext h]
  · cases h

end Service

theorem Fingerprint.eq_of_ofText {device : String} {f : Fingerprint} (h : ofText device = .ok f) :
    f = ⟨device⟩ := by
  unfold ofText at h
  split_ifs at h
  cases h
  rfl

/-! ### What a login has verified -/

/-- What a login was told that gives a session of the user. -/
structure Service.Admits (s : Service) (fresh : Fresh) (text password device : String) (u : User)
    (history : List Exchange) (session : Session) : Prop where
  found : ∃ email, Email.ofText text = .ok email ∧
    ⟨.ask (.findUserByEmail email), .ok (some u)⟩ ∈ history
  access : s.accessFor fresh password u = .ok session.access
  created : ∃ f, Fingerprint.ofText device = .ok f ∧
    .creation (s.policy.issue session.tokenId u.id f fresh.now) ∈ history

namespace Service

open Operation (follows_ask_bind follows_call_bind follows_log_bind follows_attempt_bind)

theorem loginWithin_admits (s : Service) (fresh : Fresh) (text password : String) {device : String}
    {f : Fingerprint} (hf : Fingerprint.ofText device = .ok f) (history : List Exchange) :
    (s.loginWithin fresh text password f).run.Follows (fun _ _ _ => True)
      (fun _ history r => ∀ id session, r = .ok (id, session) →
        ∃ u, s.Admits fresh text password device u history session) true history := by
  unfold loginWithin
  cases he : Email.ofText text with
  | error e => exact .done nofun
  | ok email =>
    refine follows_ask_bind trivial (fun _ => nofun) fun u? => ?_
    cases u? with
    | none => exact .done nofun
    | some u =>
      dsimp only
      rw [accessFor_eq]
      cases ha : s.accessFor fresh password u with
      | error e => exact .done nofun
      | ok access =>
        refine follows_ask_bind trivial (fun _ => nofun) fun held => ?_
        have admits (before : List Exchange)
            (hb : ⟨.ask (.findUserByEmail email), .ok (some u)⟩ ∈ before) :
            s.Admits fresh text password device u
              (before ++ [.creation (s.policy.issue fresh.tokenId u.id f fresh.now)])
              ⟨access, fresh.tokenId, s.policy.lifetime⟩ :=
          ⟨⟨email, he, List.mem_append_left _ hb⟩, ha, f, hf, by simp⟩
        split
        · refine follows_ask_bind trivial (fun _ => nofun) fun count => follows_log_bind ?_
          refine follows_ask_bind trivial (fun _ => nofun) fun _ => .done ?_
          rintro id session ⟨⟩
          exact ⟨u, admits _ (by simp)⟩
        · refine follows_ask_bind trivial (fun _ => nofun) fun _ => .done ?_
          rintro id session ⟨⟩
          exact ⟨u, admits _ (by simp)⟩

theorem login_admits (s : Service) (fresh : Fresh) (text password device : String) :
    (s.login fresh text password device).run.Follows (fun _ _ _ => True)
      (fun _ history r => ∀ session, r = .ok session →
        ∃ u, s.Admits fresh text password device u history session) false [] := by
  unfold login
  cases hf : Fingerprint.ofText device with
  | error e => exact .done nofun
  | ok f =>
    refine follows_call_bind trivial (fun _ => nofun) fun _ => follows_attempt_bind ?_
    refine (loginWithin_admits s fresh text password hf _).mono (fun _ _ _ h => h) ?_
    rintro isInside history (e | ⟨id, session⟩) h
    · refine follows_attempt_bind (.call trivial fun x => ?_)
      cases x with
      | ok _ => exact .done (.done nofun)
      | error f => exact .done (.log (.done nofun))
    · refine follows_call_bind trivial (fun _ => nofun) fun _ => follows_log_bind (.done ?_)
      rintro session ⟨⟩
      obtain ⟨u, ⟨email, he, hfound⟩, ha, f, hf, hcreated⟩ := h id session rfl
      exact ⟨u, ⟨email, he, List.mem_append_left _ hfound⟩, ha, f, hf,
        List.mem_append_left _ hcreated⟩

/-- Every login that gives a session has admitted a user. -/
theorem perform_admits (s : Service) (fresh : Fresh) (command : Command) :
    (s.perform fresh command).run.Follows (fun _ _ _ => True)
      (fun _ history r => ∀ text password device session,
        command = .login text password device → r = .ok (.session session) →
          ∃ u, s.Admits fresh text password device u history session) false [] := by
  cases command with
  | login text password device =>
    refine Operation.follows_bind
      ((login_admits s fresh text password device).mono (fun _ _ _ h => h) ?_)
    rintro isInside history (e | session) h
    · exact nofun
    · refine .done ?_
      rintro _ _ _ _ ⟨⟩ ⟨⟩
      exact h session rfl
  | signUp | refresh | logout | cleanUp =>
    exact (Program.follows_true _ _ _).mono (fun _ _ _ h => h) fun _ _ _ _ => nofun

end Service

/-- A refresh is never in a transaction. -/
theorem Service.Calls.outside_of_refresh {s : Service} {fresh : Fresh} {text device : String}
    {isInside : Bool} {history : List Exchange} {c : Call}
    (h : s.Calls fresh (.refresh text device) isInside history c) : isInside = false := by
  cases h <;> rfl

/-! ### Tasks that have given sessions -/

namespace Task

variable {s : Service} {t : Task} {u : User} {text password device : String} {session : Session}

/-- A login that verifies the user's password, on a device. -/
def Verifies (s : Service) (t : Task) (u : User) (device : String) : Prop :=
  ∃ text password p, t.command = .login text password device ∧ Email.ofText text = .ok u.email ∧
    Password.ofText password = .ok p ∧ s.hasher.verify p u.passwordHash = .ok ()

/-- The client is given a session of the user on the device: the command came from the device, the
token was created for the user and the device, and the access token is about the user. -/
structure GivesOn (s : Service) (t : Task) (u : User) (device : String) (session : Session) :
    Prop where
  gives : t.Gives session
  names : t.command.Names device
  created : .creation ⟨session.tokenId, u.id, ⟨device⟩, s.policy.lifetime, t.fresh.now⟩ ∈ t.history
  access : session.access.IsFor u.email.text

theorem Conforms.of_refresh (h : t.Conforms s) (hc : t.command = .refresh text device)
    (hg : t.Gives session) : ∃ id token u, RefreshTokenId.parse? text = some id ∧
      token.fingerprint = ⟨device⟩ ∧
      ⟨.ask (.findToken id), .ok (some token)⟩ ∈ t.history ∧
      ⟨.ask (.findUser token.owner), .ok (some u)⟩ ∈ t.history ∧
      t.GivesOn s u device session := by
  have hends := h.of_returns hg
  rw [hc] at hends
  generalize hh : t.history = history at hends
  cases hends with
  | @renewed _ _ id token u access hid hs =>
    -- what was asked before the token was created
    obtain ⟨isInside, hcall⟩ := h.history _ _ [] hh
    rw [hc] at hcall
    rw [hcall.outside_of_refresh] at hcall
    obtain ⟨_, _, _, token', _, _, hrefresh, hpresented, -, -, hnext, -⟩ := hcall.of_createToken
    cases hrefresh
    have hsame : token.fingerprint = token'.fingerprint := congrArg (·.fingerprint) hnext
    have hdevice : token.fingerprint = ⟨device⟩ := by
      rw [hsame]
      exact Fingerprint.eq_of_ofText (Service.eq_of_isPresentedBy hpresented)
    refine ⟨id, token, u, hid, hdevice, by simp [Service.claim], by simp, hg, .inr ⟨text, hc⟩, ?_,
      Service.isFor_of_signFor hs⟩
    rw [hh, ← hdevice]
    exact List.mem_append_right _ (List.mem_singleton_self _)

end Task

namespace System

variable {s : Service} {mayFail : Bool} {a b : System}

/-- Users whom logins have found have the address, and are still there. -/
def KnowsAddresses (a : System) : Prop :=
  ∀ (email : Email) (u : User), a.Knows ⟨.ask (.findUserByEmail email), .ok (some u)⟩ →
    u.email = email ∧ a.vault.store.users[u.id]? = some u

theorem KnowsAddresses.step (hk : a.KnowsAddresses) (h : Step s mayFail a b)
    (ha : a.IsRegular s) : b.KnowsAddresses := by
  have stays {u : User} (hu : a.vault.store.users[u.id]? = some u) :
      b.vault.store.users[u.id]? = some u := ha.isInformed.user?_of_step h ha.conforms hu
  intro email u hb
  rcases h.told_or_quiet ha.conforms with ⟨hknows, -⟩ | ⟨t, ht, c, x, hc, hturn, hknows⟩
  · exact (hk email u ((hknows _).1 hb)).imp_right stays
  rcases (hknows _).1 hb with hold | hnew
  · exact (hk email u hold).imp_right stays
  · -- a login is told of the user now
    have hfound : a.vault.store.userByEmail? email = some u := Except.ok.inj (hturn.answer_eq hnew)
    obtain ⟨hu, hemail⟩ := ha.redeemsOnce.isSound.store.of_userByEmail? hfound
    exact ⟨hemail, stays hu⟩

theorem Reaches.knowsAddresses (h : initial.Reaches s mayFail a) (hf : a.HasFreshIds) :
    a.KnowsAddresses := by
  induction h with
  | refl => exact fun _ _ h => absurd h (not_knows_initial _)
  | tail hr h ih =>
    have hf' := hf.of_step h
    exact (ih hf').step h (Reaches.isRegular hr isRegular_initial hf')

/-- A login that gives a session has verified the password of a user, who is still there. -/
theorem Reaches.of_login (h : initial.Reaches s mayFail a) (hf : a.HasFreshIds) {t : Task}
    (ht : t ∈ a.tasks) {text password device : String} {session : Session}
    (hc : t.command = .login text password device) (hg : t.Gives session) :
    ∃ u, t.Verifies s u device ∧ a.vault.store.users[u.id]? = some u ∧
      t.GivesOn s u device session := by
  obtain ⟨p, hp, hr⟩ := id hg
  have hadmits := (h.follows s.perform_admits ht p hp).of_returns hr
  obtain ⟨u, hu⟩ := hadmits text password device session hc rfl
  obtain ⟨email, he, hfound⟩ := hu.found
  obtain ⟨rfl, hstored⟩ := h.knowsAddresses hf email u ⟨t, ht, hfound⟩
  obtain ⟨⟨password', hpassword, hverify⟩, hsign⟩ := Service.accessFor_eq_ok hu.access
  obtain ⟨f, hf, hcreated⟩ := hu.created
  rw [Fingerprint.eq_of_ofText hf] at hcreated
  exact ⟨u, ⟨text, password, password', hc, he, hpassword, hverify⟩, hstored, hg,
    .inl ⟨text, password, hc⟩, hcreated, Service.isFor_of_signFor hsign⟩

end System

end SessionAuth
