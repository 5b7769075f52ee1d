import SessionAuth.Proofs.Service.Admission
import SessionAuth.Proofs.Service.Completion
import SessionAuth.Proofs.Store.Part

/-!
# Whose account a command is about

Over a whole run, a command is about a user's account or about somebody else's, whoever comes first
(`System.IsAbout`): an address has one user, who is created once, and a token has one owner. A
command about the account asks the store about the user (`System.LeadsTo.concerns`), and any other
but a cleanup spares the user (`System.LeadsTo.spares`).
-/

namespace SessionAuth

namespace System

variable {s : Service} {mayFail : Bool} {a b c : System} {u : User} {t : Task}

/-- Every user in the store was created. -/
def KnowsCreators (a : System) : Prop :=
  ∀ (id : UserId) (u : User), a.vault.store.users[id]? = some u →
    a.Knows ⟨.ask (.createUser u), .ok ()⟩

theorem KnowsCreators.step (hk : a.KnowsCreators) (h : Step s mayFail a b) (ha : a.IsRegular s) :
    b.KnowsCreators := by
  intro id u hb
  rcases h.user_created ha.conforms ha.isInformed.users_eq hb with hold | hnew
  · exact h.knows ha.conforms (hk id u hold)
  · exact hnew

theorem Reaches.knowsCreators (h : initial.Reaches s mayFail a) (hf : a.HasFreshIds) :
    a.KnowsCreators := by
  induction h with
  | refl => exact fun id u h => by simp [initial, Vault.empty, Store.empty] at h
  | tail hr h ih =>
    have hf' := hf.of_step h
    exact (ih hf').step h (Reaches.isRegular hr isRegular_initial hf')

/-- No user has the identifier of one who is about to be created. -/
theorem IsRegular.users_eq_none (ha : a.IsRegular s) (hk : a.KnowsCreators) (ht : t ∈ a.tasks)
    {isInside : Bool} {w : User}
    (hc : s.Calls t.fresh t.command isInside t.history (.ask (.createUser w))) :
    a.vault.store.users[w.id]? = none := by
  rw [Option.eq_none_iff_forall_ne_some]
  intro w' hw
  obtain ⟨t', ht', hh⟩ := hk _ _ hw
  obtain ⟨before, later, hsplit⟩ := List.append_of_mem hh
  obtain ⟨_, hc'⟩ := (ha.conforms t' ht').history before _ later hsplit
  have hid : w'.id = w.id := ha.redeemsOnce.isSound.store.user_id _ _ hw
  have heq := ha.hasFreshIds.eq_of_userId ht' ht
    (by rw [← hc'.of_createUser.1, hid, hc.of_createUser.1])
  rw [heq] at hh
  exact hc.of_createUser.2 _ _ hh

/-! ### Commands about the account -/

/-- The text names a token that was created for the user. -/
def NamesTokenOf (b : System) (u : User) (text : String) : Prop :=
  ∃ token, RefreshTokenId.parse? text = some token.id ∧ token.owner = u.id ∧
    b.Knows (.creation token)

/-- The command is about the user's account: it gives the address, or names one of the tokens. -/
def IsAbout (b : System) (u : User) : Command → Prop
  | .signUp text _ | .login text _ _ => Email.ofText text = .ok u.email
  | .refresh text _ | .logout text => b.NamesTokenOf u text
  | .cleanUp => False

/-- What is known of a state within a run: more will be known at the end of the run, and nobody but
the user will have had the identifier or the address. -/
structure LeadsTo (s : Service) (b : System) (u : User) (a : System) : Prop where
  isRegular : a.IsRegular s
  addresses : a.KnowsAddresses
  creators : a.KnowsCreators
  knows : ∀ e, a.Knows e → b.Knows e
  unique : ∀ token token', b.Knows (.creation token) → b.Knows (.creation token') →
    token.id = token'.id → token = token'
  fits : a.vault.store.Fits u

/-- Who was found under an address is the user exactly if the address is the user's. -/
theorem LeadsTo.found_iff (h : LeadsTo s b u a) {email : Email} {w : User}
    (hfound : a.Knows ⟨.ask (.findUserByEmail email), .ok (some w)⟩) :
    w.id = u.id ↔ email = u.email := by
  obtain ⟨rfl, hw⟩ := h.addresses email w hfound
  exact ⟨fun hid => by rw [h.fits w hw (.inl hid)], fun hemail => by rw [h.fits w hw (.inr hemail)]⟩

/-- The owner of a token is the user exactly if a text that names it names one of the user's. -/
theorem LeadsTo.owner_iff (h : LeadsTo s b u a) {text : String} {token : RefreshToken}
    (hid : RefreshTokenId.parse? text = some token.id) (hk : a.Knows (.creation token)) :
    token.owner = u.id ↔ b.NamesTokenOf u text := by
  constructor
  · exact fun howner => ⟨token, hid, howner, h.knows _ hk⟩
  · rintro ⟨token', hid', howner, hk'⟩
    rw [h.unique token token' (h.knows _ hk) hk' (Option.some.inj (hid.symm.trans hid')), howner]

theorem LeadsTo.owner_of_stored (h : LeadsTo s b u a) {text : String} {id : RefreshTokenId}
    {token : RefreshToken} (hid : RefreshTokenId.parse? text = some id)
    (htoken : a.vault.store.tokens[id]? = some token) :
    token.owner = u.id ↔ b.NamesTokenOf u text := by
  obtain rfl := h.isRegular.redeemsOnce.isSound.store.token_id _ _ htoken
  exact h.owner_iff hid (h.isRegular.redeemsOnce.created token (.inl htoken))

theorem LeadsTo.owner_of_found (h : LeadsTo s b u a) {text : String} {id : RefreshTokenId}
    {token : RefreshToken} (hid : RefreshTokenId.parse? text = some id)
    (hfound : a.Knows ⟨.ask (.findToken id), .ok (some token)⟩) :
    token.owner = u.id ↔ b.NamesTokenOf u text := by
  obtain ⟨rfl, hk⟩ := h.isRegular.isInformed.token id token hfound
  exact h.owner_iff hid hk

/-- The owner of a token that was found has the identifier that was looked for. -/
theorem LeadsTo.id_of_owner (h : LeadsTo s b u a) {id : UserId} {w : User}
    (hfound : a.Knows ⟨.ask (.findUser id), .ok (some w)⟩) : w.id = id :=
  h.isRegular.redeemsOnce.isSound.store.user_id _ _ (h.isRegular.isInformed.user id w hfound)

/-- A command about the account asks about the user. -/
theorem LeadsTo.concerns (h : LeadsTo s b u a) (ht : t ∈ a.tasks) {r : Request}
    (hc : s.Calls t.fresh t.command t.isInside t.history (.ask r))
    (habout : b.IsAbout u t.command) : a.vault.store.Concerns u r := by
  have hunused {token : RefreshToken} (hcreate : r = .createToken token) :
      a.vault.store.tokens[token.id]? = none := by
    subst hcreate
    rw [hc.createToken.1]
    exact h.isRegular.tokens_eq_none ht fun token' => hc.createToken.2 token' _
  have hnew {w : User} (hcreate : r = .createUser w) : a.vault.store.users[w.id]? = none := by
    subst hcreate
    exact h.isRegular.users_eq_none h.creators ht hc
  have hknows {e : Exchange} (he : e ∈ t.history) : a.Knows e := ⟨t, ht, he⟩
  generalize t.command = command at hc habout
  generalize t.history = history at hc hknows
  generalize t.isInside = i at hc
  cases hc with
  | findEmail he => exact Except.ok.inj (he.symm.trans habout)
  | createUser he hp => exact ⟨Except.ok.inj (he.symm.trans habout), hnew rfl⟩
  | within hf hasks =>
    cases hasks with
    | user he => exact Except.ok.inj (he.symm.trans habout)
    | @held email w _ he ha | @evict email w _ _ he ha =>
      exact (h.found_iff (hknows (by simp))).2 (Except.ok.inj (he.symm.trans habout))
    | @create email w _ _ he ha | @createEvicted email w _ _ _ he ha =>
      exact ⟨(h.found_iff (hknows (by simp))).2 (Except.ok.inj (he.symm.trans habout)),
        hunused rfl⟩
  | find hid | redeem hid | revoke hid =>
    exact fun token htoken => (h.owner_of_stored hid htoken).2 habout
  | findOwner hid hf he => exact (h.owner_of_found hid (hknows (by simp [Service.claim]))).2 habout
  | @renew _ _ id token w _ hid hf he hs =>
    have hfound : a.Knows ⟨.ask (.findToken id), .ok (some token)⟩ :=
      hknows (by simp [Service.claim])
    have howner := (h.owner_of_found hid hfound).2 habout
    have hw : w.id = token.owner := h.id_of_owner (hknows (by simp))
    exact ⟨hw.trans howner, hunused rfl⟩
  | cleanUp => exact habout.elim

/-- Any other command spares the user, unless it is a cleanup. -/
theorem LeadsTo.spares (h : LeadsTo s b u a) (ht : t ∈ a.tasks) {r : Request}
    (hc : s.Calls t.fresh t.command t.isInside t.history (.ask r))
    (habout : ¬ b.IsAbout u t.command) (hclean : t.command ≠ .cleanUp) :
    a.vault.store.Spares u r := by
  have hknows {e : Exchange} (he : e ∈ t.history) : a.Knows e := ⟨t, ht, he⟩
  generalize t.command = command at hc habout hclean
  generalize t.history = history at hc hknows
  generalize t.isInside = i at hc
  have hother {text : String} {email : Email} (he : Email.ofText text = .ok email)
      (hno : ¬ Email.ofText text = .ok u.email) : email ≠ u.email := by
    rintro rfl
    exact hno he
  cases hc with
  | findEmail | find | findOwner => trivial
  | createUser he hp => exact hother he habout
  | within hf hasks =>
    cases hasks with
    | user | held => trivial
    | @evict email w _ _ he ha | @create email w _ _ he ha | @createEvicted email w _ _ _ he ha =>
      exact fun hid => hother he habout ((h.found_iff (hknows (by simp))).1 hid)
  | redeem hid | revoke hid =>
    exact fun token htoken howner => habout ((h.owner_of_stored hid htoken).1 howner)
  | @renew _ _ id token w _ hid hf he hs =>
    have hfound : a.Knows ⟨.ask (.findToken id), .ok (some token)⟩ :=
      hknows (by simp [Service.claim])
    have hw : w.id = token.owner := h.id_of_owner (hknows (by simp))
    exact fun hid' => habout ((h.owner_of_found hid hfound).1 (hw.symm.trans hid'))
  | cleanUp => exact absurd rfl hclean

theorem Reaches.leadsTo (ha : initial.Reaches s mayFail a) (hab : a.Reaches s mayFail b)
    (hb : b.HasFreshIds) (hu : b.vault.store.users[u.id]? = some u) : LeadsTo s b u a := by
  have hf := hb.of_reaches hab
  have hreg := Reaches.isRegular ha isRegular_initial hf
  have hregb := Reaches.isRegular hab hreg hb
  refine ⟨hreg, ha.knowsAddresses hf, ha.knowsCreators hf, fun e => hab.knows ha,
    fun token token' => hregb.conforms.creation_unique hb, fun w hw hsame => ?_⟩
  have hwb := Reaches.user? hab hreg hb hw
  have hid : w.id = u.id := by
    rcases hsame with hid | hemail
    · exact hid
    · have hst := hregb.redeemsOnce.isSound.store
      have hentry := hst.emails_of_user hwb
      rw [hemail, hst.emails_of_user hu] at hentry
      exact (Option.some.inj hentry).symm
  rw [hid, hu] at hwb
  exact (Option.some.inj hwb).symm

end System

end SessionAuth
