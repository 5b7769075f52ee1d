import SessionAuth.Proofs.Service.Admission
import SessionAuth.Proofs.Service.Completion
import SessionAuth.Proofs.Service.Effect
import SessionAuth.Proofs.Service.Progress
import SessionAuth.Proofs.Text.Compatibility

/-!
# Accounts are permanent

An account that a sign-up has given stays in the store as it is, in every run. From then on whoever
gives its address and its password, spelt in whatever way, is let in: a login that arrives later is
told of nothing that stands against it (`Exchange.IsServed`), so that it cannot fail.
-/

namespace SessionAuth

/-! ### What a sign-up has stored -/

theorem Store.users_of_createUser {st : Store} {u : User}
    (h : (st.answer (.createUser u)).answer = .ok ()) :
    (st.answer (.createUser u)).store.users[u.id]? = some u := by
  simp only [answer, add] at h ⊢
  split at h
  · rename_i st' hadd
    obtain ⟨-, -, rfl⟩ := addUser_eq_ok_iff.1 hadd
    simp
  · cases h

/-- The store after a request that was answered is the one that the request leaves. -/
theorem Vault.Turn.store_eq {v w : Vault} {i : Bool} {c : Call} {x : Except Failure c.Answer}
    (h : Turn v i c x w) {r : Request} {y : r.Answer}
    (he : (⟨.ask r, .ok y⟩ : Exchange) = ⟨c, x⟩) : w.store = (v.store.answer r).store := by
  cases h with
  | outside s _ r' | inside s _ r' =>
    simp only [Exchange.mk.injEq, Call.ask.injEq] at he
    obtain ⟨rfl, -⟩ := he
    rfl
  | begin | commit | rollback | commitOutside | rollbackOutside | failed => cases he

namespace Service

variable {s : Service} {fresh : Fresh} {text password : String} {history : List Exchange} {u : User}

/-- A sign-up that gives an account has created it from what it was given. -/
theorem Ends.account (h : s.Ends fresh (.signUp text password) history (.ok (.account u))) :
    (∃ email p, Email.ofText text = .ok email ∧ Password.ofText password = .ok p ∧
      u = s.newUser fresh email p) ∧ ⟨.ask (.createUser u), .ok ()⟩ ∈ history := by
  cases h with
  | signedUp h =>
    cases h with
    | createUser he hp => exact ⟨⟨_, _, he, hp, rfl⟩, by simp⟩

end Service

namespace System

variable {s : Service} {mayFail : Bool} {a b : System}

/-- Accounts that were created are there. -/
def KnowsAccounts (a : System) : Prop :=
  ∀ u, a.Knows ⟨.ask (.createUser u), .ok ()⟩ → a.vault.store.users[u.id]? = some u

/-- An account that is known after a step was known before, or is there now. -/
theorem Step.account_stored (h : Step s mayFail a b) (hconf : a.Conforms s) {u : User}
    (hb : b.Knows ⟨.ask (.createUser u), .ok ()⟩) :
    a.Knows ⟨.ask (.createUser u), .ok ()⟩ ∨ b.vault.store.users[u.id]? = some u := by
  rcases h.told_or_quiet hconf with ⟨hknows, -⟩ | ⟨t, ht, c, x, hc, hturn, hknows⟩
  · exact .inl ((hknows _).1 hb)
  refine ((hknows _).1 hb).imp_right fun hnew => ?_
  rw [hturn.store_eq hnew]
  exact Store.users_of_createUser (hturn.answer_eq hnew)

theorem KnowsAccounts.step (hk : a.KnowsAccounts) (h : Step s mayFail a b)
    (ha : a.IsRegular s) : b.KnowsAccounts := by
  intro u hb
  rcases h.account_stored ha.conforms hb with hold | hnew
  · exact ha.isInformed.user?_of_step h ha.conforms (hk u hold)
  · exact hnew

theorem Reaches.knowsAccounts (h : initial.Reaches s mayFail a) (hf : a.HasFreshIds) :
    a.KnowsAccounts := by
  induction h with
  | refl => exact fun _ h => absurd h (not_knows_initial _)
  | tail hr h ih =>
    have hf' := hf.of_step h
    exact (ih hf').step h (Reaches.isRegular hr isRegular_initial hf')

end System

/-! ### What a login is told -/

/-- Nothing went wrong, and who was looked for under the user's address is the user. -/
structure Exchange.IsServed (u : User) (e : Exchange) : Prop where
  succeeds : ∀ c f, e ≠ ⟨c, .error f⟩
  finds : ∀ x, e = ⟨.ask (.findUserByEmail u.email), .ok x⟩ → x = some u

theorem Exchange.ok_ne_error {c : Call} (x : c.Answer) (d : Call) (f : Failure) :
    (⟨c, .ok x⟩ : Exchange) ≠ ⟨d, .error f⟩ := nofun

theorem Exchange.IsServed.of_ne {u : User} {c : Call} (x : c.Answer)
    (hc : c ≠ .ask (.findUserByEmail u.email)) : Exchange.IsServed u ⟨c, .ok x⟩ where
  succeeds := Exchange.ok_ne_error x
  finds _ h := absurd (congrArg Exchange.call h) hc

/-- A request that is answered is answered by the store. -/
theorem Vault.answer_of_reply {v : Vault} {i : Bool} {r : Request} {reply : Reply Vault r.Answer}
    (h : v.reply? i (.ask r) = some reply) : reply.answer = (v.store.answer r).answer := by
  obtain ⟨st, journal⟩ := v
  cases journal with
  | none =>
    cases h
    rfl
  | some journal =>
    cases i with
    | false => cases h
    | true =>
      cases h
      rfl

namespace System

variable {s : Service} {mayFail : Bool} {a b : System} {u : User} {t : Task}

/-- A login that creates a token is let do so. -/
theorem IsRegular.answer_createToken (ha : a.IsRegular s) (ht : t ∈ a.tasks)
    (hno : ∀ token, .creation token ∉ t.history) {w : User}
    (hw : a.vault.store.users[w.id]? = some w) (f : Fingerprint) :
    (a.vault.store.answer (.createToken
      (s.policy.issue t.fresh.tokenId w.id f t.fresh.now))).answer = .ok () := by
  have hadd := Store.addToken_of_unused (t := s.newToken t.fresh w.id f) hw rfl
    (ha.tokens_eq_none ht hno)
  exact congrArg Effect.answer (Service.answer_createToken hadd)

/-- The vault answers every call of a login so that it is served. -/
theorem IsRegular.isServed (ha : a.IsRegular s) (hk : a.KnowsAddresses)
    (hu : a.vault.store.users[u.id]? = some u) (ht : t ∈ a.tasks) {text password device : String}
    (hcommand : t.command = .login text password device) {c : Call}
    (hc : s.Calls t.fresh t.command t.isInside t.history c) {reply : Reply Vault c.Answer}
    (hr : a.vault.reply? t.isInside c = some reply) : Exchange.IsServed u ⟨c, reply.answer⟩ := by
  have hsound := ha.redeemsOnce.isSound.store
  have created {email : Email} {w : User} (f : Fingerprint)
      (hfound : ⟨.ask (.findUserByEmail email), .ok (some w)⟩ ∈ t.history)
      (hno : ∀ token, .creation token ∉ t.history) :=
    ha.answer_createToken ht hno (hk email w ⟨t, ht, hfound⟩).2 f
  rw [hcommand] at hc
  generalize hh : t.history = history at hc
  generalize t.isInside = i at hc hr
  cases hc with
  | begin hf =>
    simp only [Vault.reply?] at hr
    split at hr
    · cases hr
    · cases hr
      exact .of_ne _ (by simp)
  | commit | rollback =>
    cases hr
    exact .of_ne _ (by simp)
  | within hf h =>
    rw [Vault.answer_of_reply hr]
    cases h with
    | @user email he =>
      refine ⟨Exchange.ok_ne_error _, fun x hx => ?_⟩
      cases hx
      exact hsound.userByEmail?_of_user hu
    | held | evict => exact .of_ne _ (by simp)
    | @create email w _ _ | @createEvicted email w _ _ _ =>
      have hfound : ⟨.ask (.findUserByEmail email), .ok (some w)⟩ ∈ t.history := by simp [hh]
      rw [created _ hfound (by simp [hh])]
      exact .of_ne _ (by simp)

/-- All logins from a position on are served. -/
def ServesFrom (n : Nat) (u : User) (a : System) : Prop :=
  ∀ m t text password device, n ≤ m → a.tasks[m]? = some t →
    t.command = .login text password device → ∀ e ∈ t.history, e.IsServed u

theorem ServesFrom.step {n : Nat} (hn : a.ServesFrom n u) (h : Step s false a b)
    (ha : a.IsRegular s) (hk : a.KnowsAddresses) (hu : a.vault.store.users[u.id]? = some u) :
    b.ServesFrom n u := by
  intro m w text password device hm hw hc e he
  cases h with
  | arrival v tasks command fresh =>
    rw [List.getElem?_append] at hw
    split_ifs at hw
    · exact hn m w text password device hm hw hc e he
    · rw [List.mem_singleton.1 (List.mem_of_getElem? hw)] at he
      cases he
  | @progress before after v v' t t' h =>
    rw [getElem?_progress before after t t'] at hw
    split_ifs at hw with hpos
    · subst hpos
      cases hw
      have ht : (before ++ t :: after)[before.length]? = some t := by simp
      have hlogin := h.command_eq.symm.trans hc
      have hold (e : Exchange) (he : e ∈ t.history) : e.IsServed u :=
        hn _ t text password device hm ht hlogin e he
      have hconf := ha.conforms t (by simp)
      cases h with
      | log | abandoned => exact hold e he
      | answered hrest hr =>
        rw [Task.told, List.mem_append, List.mem_singleton] at he
        rcases he with he | rfl
        · exact hold e he
        · exact ha.isServed hk hu (by simp) hlogin (hconf.call hrest) hr
      | failed f hrest hfail => cases hfail
    · exact hn m w text password device hm hw hc e he

/-- Logins that arrive when the account is there are served. -/
theorem Reaches.servesFrom (h : a.Reaches s false b) (ha : initial.Reaches s false a)
    (hf : b.HasFreshIds) (hu : a.vault.store.users[u.id]? = some u) :
    b.ServesFrom a.tasks.length u := by
  induction h with
  | refl =>
    intro m t _ _ _ hm ht
    rw [List.getElem?_eq_none hm] at ht
    cases ht
  | tail hr h ih =>
    have hf' := hf.of_step h
    have hreg := Reaches.isRegular (ha.trans hr) isRegular_initial hf'
    have hstart := Reaches.isRegular ha isRegular_initial (hf'.of_reaches hr)
    exact (ih hf').step h hreg (Reaches.knowsAddresses (ha.trans hr) hf')
      (Reaches.user? hr hstart hf' hu)

end System

/-- A login that is served, with the right credentials, gives a session. -/
theorem Service.Ends.session_of_served {s : Service} {fresh : Fresh} {text password device : String}
    {history : List Exchange} {r : Except Failure Outcome} {u : User} {f : Fingerprint}
    {access : AccessToken.Signed} (h : s.Ends fresh (.login text password device) history r)
    (hserved : ∀ e ∈ history, e.IsServed u) (hf : Fingerprint.ofText device = .ok f)
    (he : Email.ofText text = .ok u.email) (ha : s.accessFor fresh password u = .ok access) :
    ∃ session, r = .ok (.session session) := by
  have hno (c : Call) (e : Failure) : ⟨c, .error e⟩ ∉ history :=
    fun hh => (hserved _ hh).succeeds c e rfl
  cases h with
  | @failed _ _ c e => exact absurd (by simp) (hno c e)
  | invalidDevice hf' =>
    rw [hf] at hf'
    cases hf'
  | committed => exact ⟨_, rfl⟩
  | @uncommitted _ _ _ _ _ _ e => exact absurd (by simp) (hno .commit e)
  | @rolledBack _ _ _ _ _ e _ hf' h =>
    cases h with
    | @failed _ r => exact absurd (by simp) (hno (.ask r) e)
    | malformed he' =>
      rw [he] at he'
      cases he'
    | @unknown email he' =>
      rw [he] at he'
      cases he'
      have hfound := (hserved ⟨.ask (.findUserByEmail u.email), .ok none⟩ (by simp)).finds _ rfl
      cases hfound
    | @refused email w e he' ha' =>
      rw [he] at he'
      cases he'
      have hfound := (hserved ⟨.ask (.findUserByEmail u.email), .ok (some w)⟩ (by simp)).finds _ rfl
      cases hfound
      rw [ha] at ha'
      cases ha'

/-! ### Accounts -/

theorem Email.ofText_congr {text text' : String} (h : normalize text' = normalize text) :
    ofText text' = ofText text := by
  unfold ofText
  rw [h]

theorem Password.ofText_congr {text text' : String}
    (h : Text.Compatibility.normalize text' = Text.Compatibility.normalize text) :
    ofText text' = ofText text := by
  unfold ofText
  rw [h]

namespace System

variable {s : Service} {mayFail : Bool} {a b : System} {t : Task} {u : User}
  {text password : String}

/-- A login that arrives when the account is there, with what belongs to it, gives a session. -/
theorem Reaches.gives_of_login (h : initial.Reaches s false a) (hab : a.Reaches s false b)
    (hb : b.HasFreshIds) (hu : a.vault.store.users[u.id]? = some u) {n : Nat}
    (hn : a.tasks.length ≤ n) (ht : b.tasks[n]? = some t) {device : String} {f : Fingerprint}
    {access : AccessToken.Signed} (hc : t.command = .login text password device)
    (hf : Fingerprint.ofText device = .ok f) (he : Email.ofText text = .ok u.email)
    (ha : s.accessFor t.fresh password u = .ok access) {r : Except Failure Outcome}
    (hr : t.Returns r) : ∃ session, r = .ok (.session session) := by
  have hreg := Reaches.isRegular (h.trans hab) isRegular_initial hb
  have hserved := Reaches.servesFrom hab h hb hu n t _ _ _ hn ht hc
  have hends := (hreg.conforms t (List.mem_of_getElem? ht)).of_returns hr
  rw [hc] at hends
  exact hends.session_of_served hserved hf he ha

/-- Accounts are permanent. Once a sign-up has given an account, the user that it has created stays
in the store as it is, in every later state, and whoever gives the address, the password and a
device is let in: if no other transaction is open, and in every run of all that is going on. There,
as long as the vault answers all calls, a login that arrives later gives nothing but a session, and
can go on to give it whatever state all others are in, unless its client has given it up. -/
theorem accounts_permanent (hs : s.IsUsable) (h : initial.Reaches s mayFail a) (ht : t ∈ a.tasks)
    (hc : t.command = .signUp text password)
    (hsalt : 8 ≤ t.fresh.salt.length ∧ t.fresh.salt.length ≤ 48)
    (hr : t.Returns (.ok (.account u))) :
    (∃ email p, Email.ofText text = .ok email ∧ Password.ofText password = .ok p ∧
      u = s.newUser t.fresh email p) ∧
    ∀ b, a.Reaches s mayFail b → b.HasFreshIds →
      b.vault.store.users[u.id]? = some u ∧ b.vault.settled.users[u.id]? = some u ∧
      ∀ text' password' device f, Email.normalize text' = Email.normalize text →
        Text.Compatibility.normalize password' = Text.Compatibility.normalize password →
        Fingerprint.ofText device = .ok f →
        (∀ fresh, b.vault.journal = none → fresh.tokenId ∉ b.vault.store.tokens →
          ∃ session v events, (s.perform fresh (.login text' password' device)).run.run
            Backend.memory false b.vault = ⟨.finished (.ok (.session session)), v, false, events⟩) ∧
        (mayFail = false → ∀ n t', a.tasks.length ≤ n → b.tasks[n]? = some t' →
          t'.command = .login text' password' device →
          (∀ r, t'.Returns r → ∃ session, r = .ok (.session session)) ∧
          (t'.rest.isSome → ∃ c w session, b.Reaches s mayFail c ∧ c.tasks[n]? = some w ∧
            w.Gives session)) := by
  have hends := (Reaches.conforms h t ht).of_returns hr
  rw [hc] at hends
  obtain ⟨⟨email, p, he, hp, hnew⟩, hcreated⟩ := hends.account
  refine ⟨⟨email, p, he, hp, hnew⟩, fun b hab hb => ?_⟩
  have ha := hb.of_reaches hab
  have hrega := Reaches.isRegular h isRegular_initial ha
  have hregb := Reaches.isRegular hab hrega hb
  have hu := Reaches.knowsAccounts h ha u ⟨t, ht, hcreated⟩
  have hub := Reaches.user? hab hrega hb hu
  refine ⟨hub, ?_, fun text' password' device f htext hpassword hf => ?_⟩
  · rw [← hregb.isInformed.users_eq]
    exact hub
  have he' : Email.ofText text' = .ok u.email := by
    rw [Email.ofText_congr htext, he, hnew]
    rfl
  have hp' : Password.ofText password' = .ok p := by
    rw [Password.ofText_congr hpassword, hp]
  have haccess (fresh : Fresh) : ∃ access, s.accessFor fresh password' u = .ok access := by
    rw [hnew]
    exact s.accessFor_newUser hs hp' hsalt fresh email
  constructor
  · intro fresh hclosed hunused
    obtain ⟨access, hacc⟩ := haccess fresh
    obtain ⟨events, hrun⟩ := Service.runAlone_login hregb.redeemsOnce.isSound.store hub hf he' hacc
      hunused
    have hvault : b.vault = ⟨b.vault.store, none⟩ := by rw [← hclosed]
    rw [hvault]
    exact ⟨_, _, events, hrun⟩
  · rintro rfl n t' hn ht' hc'
    obtain ⟨access, hacc⟩ := haccess t'.fresh
    refine ⟨fun r => Reaches.gives_of_login h hab hb hu hn ht' hc' hf he' hacc, fun hrest => ?_⟩
    obtain ⟨c, w, r, hbc, hcf, hw, hend⟩ := hregb.exists_end ht' hrest false
    obtain ⟨w', hw', hbefore⟩ := Reaches.before hbc ht'
    obtain rfl := Option.some.inj (hw.symm.trans hw')
    rw [← hbefore.command_eq] at hc'
    rw [← hbefore.fresh_eq] at hacc
    obtain ⟨session, rfl⟩ :=
      Reaches.gives_of_login h (hab.trans hbc) hcf hu hn hw hc' hf he' hacc hend.returns
    exact ⟨c, w, session, hbc, hw, hend.returns⟩

/-- The first account, and a login that spells both the address and the password in other ways: the
one with capitals and blanks, the other with a space that does not break. -/
theorem accounts_permanent_first : ∃ a t u session v events, initial.Reaches .least false a ∧
    t ∈ a.tasks ∧ t.command = .signUp "ada@b.cc" "correct horse" ∧
    t.Returns (.ok (.account u)) ∧ a.vault.store.users[u.id]? = some u ∧
    (Service.least.perform (.numbered 2)
        (.login " ADA@B.cc " "correct\u00a0horse" "laptop")).run.run
      Backend.memory false a.vault = ⟨.finished (.ok (.session session)), v, false, events⟩ := by
  obtain ⟨t, hreaches, hc, hfresh, hend⟩ := exists_signed_up false
  have hr : t.Returns (.ok (.account Service.ada)) := hend.returns
  have hsalt : 8 ≤ t.fresh.salt.length ∧ t.fresh.salt.length ≤ 48 := by
    rw [hfresh]
    exact Fresh.length_salt_numbered 1
  have hnumbered : [t].map (·.fresh) = [1].map Fresh.numbered := congrArg (fun f => [f]) hfresh
  have hemail : Email.normalize " ADA@B.cc " = Email.normalize "ada@b.cc" := by decide +kernel
  have hpassword := Text.Compatibility.normalize_noBreakSpace "correct" "horse"
  obtain ⟨-, hlater⟩ := accounts_permanent Service.isUsable_least hreaches (by simp) hc hsalt hr
  obtain ⟨hstored, -, hlogins⟩ :=
    hlater _ .refl (hasFreshIds_of_numbered [1] (by decide) hnumbered _)
  obtain ⟨hlogin, -⟩ := hlogins " ADA@B.cc " "correct\u00a0horse" "laptop" _ hemail hpassword
    Service.takes_ada.device
  obtain ⟨session, v, events, hrun⟩ := hlogin (.numbered 2) rfl
    (Store.tokens_eq_none_iff.1 (Store.tokens_ofUser _ _))
  exact ⟨_, t, _, session, v, events, hreaches, by simp, hc, hr, hstored, hrun⟩

end System

end SessionAuth
