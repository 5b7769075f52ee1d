import SessionAuth.Proofs.Service.Permanence
import SessionAuth.Proofs.Service.Rehearsal

/-!
# Sessions go on

A refresh that has claimed a valid token has yet to look for the owner and to store the next token,
and until then no token of the session is stored. Whatever others do meanwhile, the owner is still
there and the new identifier is still unused (`Exchange.IsKept`). So the refresh gives a session,
and the next token is stored, also while others rehearse at the vault
(`Rehearsals.sessions_continue`).
-/

namespace SessionAuth

/-! ### What stands between the claim and the next token -/

/-- If the answer is to the search for an owner or to the storing of a token, nothing went wrong:
the owner was found, or the token was stored. -/
structure Exchange.IsKept (e : Exchange) : Prop where
  found : ∀ id x, e = ⟨.ask (.findUser id), x⟩ → ∃ u, x = .ok (some u)
  stored : ∀ token x, e = ⟨.ask (.createToken token), x⟩ → x = .ok ()

theorem Exchange.IsKept.of_ne {e : Exchange} (hfind : ∀ id, e.call ≠ .ask (.findUser id))
    (hcreate : ∀ token, e.call ≠ .ask (.createToken token)) : e.IsKept where
  found id _ h := absurd (congrArg Exchange.call h) (hfind id)
  stored token _ h := absurd (congrArg Exchange.call h) (hcreate token)

namespace System

variable {s : Service} {a b : System} {t : Task}

/-- The owner of a token that was found is a user. -/
theorem IsInformed.user_of_found (ha : a.IsInformed) (ht : t ∈ a.tasks) {id : RefreshTokenId}
    {token : RefreshToken} (hfound : ⟨.ask (.findToken id), .ok (some token)⟩ ∈ t.history) :
    ∃ u, a.vault.store.users[token.owner]? = some u :=
  mem_users_iff.1 (ha.owner token (ha.token id token ⟨t, ht, hfound⟩).2)

/-- Whoever stores a token for a user is let do so. -/
theorem IsRegular.isKept_createToken (ha : a.IsRegular s) (ht : t ∈ a.tasks)
    (hno : ∀ token, .creation token ∉ t.history) {u : User}
    (hu : a.vault.store.users[u.id]? = some u) (f : Fingerprint) {i : Bool}
    {reply : Reply Vault Unit} (hr : a.vault.reply? i
      (.ask (.createToken (s.policy.issue t.fresh.tokenId u.id f t.fresh.now))) = some reply) :
    Exchange.IsKept ⟨.ask (.createToken (s.policy.issue t.fresh.tokenId u.id f t.fresh.now)),
      reply.answer⟩ where
  found _ _ h := by cases h
  stored _ _ h := by
    cases h
    rw [Vault.answer_of_reply hr, ha.answer_createToken ht hno hu f]

/-- The vault answers every call of a task so that it is kept. -/
theorem IsRegular.isKept (ha : a.IsRegular s) (hk : a.KnowsAddresses) (ht : t ∈ a.tasks) {c : Call}
    (hc : s.Calls t.fresh t.command t.isInside t.history c) {reply : Reply Vault c.Answer}
    (hr : a.vault.reply? t.isInside c = some reply) : Exchange.IsKept ⟨c, reply.answer⟩ := by
  have hno := fun token (h : c = .ask (.createToken token)) => (h ▸ hc).createToken.2
  generalize hh : t.history = history at hc
  generalize t.command = command at hc
  generalize t.isInside = i at hc hr
  cases hc with
  | findOwner =>
    obtain ⟨u, hu⟩ := ha.isInformed.user_of_found (t := t) ht (by rw [hh]; exact .head _)
    refine ⟨fun id x h => ?_, fun token x h => by cases h⟩
    cases h
    exact ⟨u, (Vault.answer_of_reply hr).trans (congrArg Except.ok hu)⟩
  | @renew _ _ _ token u =>
    have hu := ha.isInformed.user token.owner u ⟨t, ht, by simp [hh]⟩
    have hid := ha.redeemsOnce.isSound.store.user_id _ u hu
    rw [← hid] at hu
    exact ha.isKept_createToken ht (fun token' => hno _ rfl token' _) hu _ hr
  | within hf h =>
    cases h with
    | create | createEvicted =>
      have hu := (hk _ _ ⟨t, ht, by rw [hh]; exact .tail _ (.head _)⟩).2
      exact ha.isKept_createToken ht (fun token' => hno _ rfl token' _) hu _ hr
    | user | held | evict => exact .of_ne (by simp) (by simp)
  | findEmail | createUser | begin | commit | rollback | find | redeem | revoke | cleanUp =>
    exact .of_ne (by simp) (by simp)

/-- All that tasks were told is kept. -/
def IsKept (a : System) : Prop := ∀ e, a.Knows e → e.IsKept

theorem IsKept.step (hkept : a.IsKept) (h : Step s false a b) (ha : a.IsRegular s)
    (hk : a.KnowsAddresses) : b.IsKept := by
  intro e hb
  rcases h.knows_or_answered ha.conforms hb with hold | ⟨t, ht, c, reply, hc, hr, rfl⟩
  · exact hkept e hold
  · exact ha.isKept hk ht hc hr

theorem Reaches.isKept (h : initial.Reaches s false a) (hf : a.HasFreshIds) : a.IsKept := by
  induction h with
  | refl => exact fun _ h => absurd h (not_knows_initial _)
  | tail hr h ih =>
    have hf' := hf.of_step h
    exact (ih hf').step h (Reaches.isRegular hr isRegular_initial hf')
      (Reaches.knowsAddresses hr hf')

end System

/-! ### Refreshes that have claimed a valid token -/

/-- Tokens are created for devices that have named themselves. -/
theorem Service.Calls.ofText_fingerprint {s : Service} {fresh : Fresh} {command : Command}
    {i : Bool} {history : List Exchange} {token : RefreshToken}
    (h : s.Calls fresh command i history (.ask (.createToken token))) :
    Fingerprint.ofText token.fingerprint.text = .ok token.fingerprint := by
  have named {device : String} {f : Fingerprint} (hf : Fingerprint.ofText device = .ok f) :
      Fingerprint.ofText f.text = .ok f := by
    obtain rfl := Fingerprint.eq_of_ofText hf
    exact hf
  cases h with
  | renew _ hf => exact named (Service.eq_of_isPresentedBy hf)
  | within hf h => cases h <;> exact named hf

/-- The token that a refresh has claimed is the one that it has found. -/
theorem Service.eq_of_found {id id' : RefreshTokenId} {token token' : RefreshToken}
    {later : List Exchange} (hlater : ∀ e ∈ later, ∀ id, e.call ≠ .ask (.findToken id))
    (h : ⟨.ask (.findToken id), .ok (some token)⟩ ∈ claim id' token' ++ later) :
    token = token' := by
  rcases List.mem_append.1 h with h | h
  · rcases List.mem_cons.1 h with h | h
    · cases h
      rfl
    · cases List.mem_singleton.1 h
  · exact absurd rfl (hlater _ h id)

/-- The task is a refresh that has got past the deletion of the token, presented by the device that
it is bound to before its end. -/
structure Task.HasRedeemed (t : Task) (token : RefreshToken) : Prop where
  command : ∃ text, t.command = .refresh text token.fingerprint.text
  claimed : ∃ id, ⟨.ask (.findToken id), .ok (some token)⟩ ∈ t.history ∧ .deletion id ∈ t.history
  isLive : token.isExpiredAt t.fresh.now = false

namespace Task

variable {s : Service} {t u : Task} {token : RefreshToken}

theorem HasRedeemed.before (h : t.HasRedeemed token) (hb : t.Before u) : u.HasRedeemed token where
  command := by
    rw [hb.command_eq]
    exact h.command
  claimed := h.claimed.imp fun _ h => ⟨hb.mem_history _ h.1, hb.mem_history _ h.2⟩
  isLive := by
    rw [hb.fresh_eq]
    exact h.isLive

/-- If all that it was told is kept, a refresh that has redeemed a token ends with a session, or
because no access token can be signed for the owner. -/
theorem HasRedeemed.of_ends (h : t.HasRedeemed token)
    (hpresented : Service.isPresentedBy token token.fingerprint.text)
    (hkept : ∀ e ∈ t.history, e.IsKept) {r : Except Failure Outcome}
    (hends : s.Ends t.fresh t.command t.history r) :
    ∃ u, ⟨.ask (.findUser token.owner), .ok (some u)⟩ ∈ t.history ∧
      ((∃ e, s.signFor t.fresh u = .error e ∧ r = .error e) ∨
        ∃ access, s.signFor t.fresh u = .ok access ∧
          r = .ok (.session ⟨access, t.fresh.tokenId, s.policy.lifetime⟩) ∧
          .creation (s.policy.issue t.fresh.tokenId u.id token.fingerprint t.fresh.now) ∈
            t.history) := by
  obtain ⟨⟨text, hcommand⟩, ⟨id, hfound, hdeleted⟩, hlive⟩ := h
  rw [hcommand] at hends
  generalize t.history = history at *
  cases hends with
  | failed hc =>
    have hlast := hkept _ (List.mem_append_right _ (List.mem_singleton_self _))
    cases hc with
    | find | redeem => simp at hdeleted
    | findOwner =>
      obtain ⟨u, hu⟩ := hlast.found _ _ rfl
      cases hu
    | renew => cases hlast.stored _ _ rfl
  | unreadable | missing | lost => simp at hdeleted
  | foreign _ hf =>
    rw [← List.append_nil (Service.claim _ _)] at hfound
    rw [← Service.eq_of_found (by simp) hfound, hpresented] at hf
    cases hf
  | expired _ he =>
    rw [← List.append_nil (Service.claim _ _)] at hfound
    rw [← Service.eq_of_found (by simp) hfound, hlive] at he
    cases he
  | @orphaned _ _ _ token' =>
    obtain ⟨u, hu⟩ := (hkept ⟨.ask (.findUser token'.owner), .ok none⟩ (by simp)).found _ _ rfl
    cases hu
  | unsigned _ hs =>
    obtain rfl := Service.eq_of_found (by simp) hfound
    exact ⟨_, by simp, .inl ⟨_, hs, rfl⟩⟩
  | renewed _ hs =>
    rw [List.append_assoc] at hfound
    obtain rfl := Service.eq_of_found (by simp) hfound
    exact ⟨_, by simp, .inr ⟨_, hs, rfl, by simp⟩⟩

end Task

theorem Store.tokens_of_createToken {st : Store} {token : RefreshToken}
    (h : (st.answer (.createToken token)).answer = .ok ()) :
    (st.answer (.createToken token)).store.tokens[token.id]? = some token := by
  simp only [answer, add] at h ⊢
  split at h
  · rename_i st' hadd
    obtain ⟨-, -, rfl⟩ := addToken_eq_ok_iff.1 hadd
    rw [tokens_putToken, if_pos rfl]
  · cases h

/-- A token that is created outside of a transaction is in the settled store then. -/
theorem Vault.Turn.settled_of_creation {v w : Vault} {c : Call} {x : Except Failure c.Answer}
    {token : RefreshToken} (h : Turn v false c x w) (he : Exchange.creation token = ⟨c, x⟩) :
    w.settled.tokens[token.id]? = some token := by
  have htoken := Store.tokens_of_createToken (h.answer_eq he)
  rw [← h.store_eq he] at htoken
  generalize hi : false = i at h
  cases h with
  | outside => exact htoken
  | inside | commit | rollback => cases hi
  | begin | commitOutside | rollbackOutside | failed => cases he

namespace System

variable {s : Service} {mayFail : Bool} {a b : System} {t : Task} {token : RefreshToken} {n : Nat}

/-- When a refresh is told that it has created a token, the token is in the settled store. -/
theorem Step.stored_of_creation (h : Step s mayFail a b) (ha : a.Conforms s)
    (hold : ∀ u, a.tasks[n]? = some u → .creation token ∉ u.history) (ht : b.tasks[n]? = some t)
    {text device : String} (hc : t.command = .refresh text device)
    (hnew : .creation token ∈ t.history) : b.vault.settled.tokens[token.id]? = some token := by
  cases h with
  | arrival v tasks command fresh =>
    rw [List.getElem?_append] at ht
    split_ifs at ht
    · exact absurd hnew (hold t ht)
    · rw [List.mem_singleton.1 (List.mem_of_getElem? ht)] at hnew
      cases hnew
  | @progress before after v v' u u' h =>
    rw [getElem?_progress before after u u'] at ht
    split_ifs at ht with hn
    · subst hn
      cases ht
      have hu : .creation token ∉ u.history := hold u (by simp)
      have hcommand := h.command_eq.symm.trans hc
      cases h.move (ha u (by simp)) with
      | logged | abandoned => exact absurd hnew hu
      | told next hr hcall hturn =>
        rw [Task.told, List.mem_append, List.mem_singleton] at hnew
        rw [hcommand] at hcall
        rw [hcall.outside_of_refresh] at hturn
        exact hturn.settled_of_creation (hnew.resolve_left hu)
    · exact absurd hnew (hold t ht)

/-- A refresh that has redeemed a token gives a session, if an access token can be signed for the
owner, who is there. -/
theorem Reaches.of_hasRedeemed (h : initial.Reaches s false a) (hf : a.HasFreshIds)
    (ht : t ∈ a.tasks) (hd : t.HasRedeemed token) :
    ∃ u, a.vault.settled.users[token.owner]? = some u ∧
      (∀ x, ⟨.ask (.findUser token.owner), x⟩ ∈ t.history → x = .ok (some u)) ∧
      ∀ access, s.signFor t.fresh u = .ok access → ∀ r, t.Returns r →
        r = .ok (.session ⟨access, t.fresh.tokenId, s.policy.lifetime⟩) ∧
          .creation (s.newToken t.fresh token.owner token.fingerprint) ∈ t.history := by
  have hreg := Reaches.isRegular h isRegular_initial hf
  have hkept : ∀ e ∈ t.history, e.IsKept := fun e he => Reaches.isKept h hf e ⟨t, ht, he⟩
  obtain ⟨id, hfound, -⟩ := hd.claimed
  obtain ⟨u, hu⟩ := hreg.isInformed.user_of_found ht hfound
  have hsame {w : User} (hw : ⟨.ask (.findUser token.owner), .ok (some w)⟩ ∈ t.history) : w = u :=
    Option.some.inj ((hreg.isInformed.user _ w ⟨t, ht, hw⟩).symm.trans hu)
  refine ⟨u, hreg.isInformed.users_eq ▸ hu, fun x hx => ?_, fun access hs r hr => ?_⟩
  · obtain ⟨w, rfl⟩ := (hkept _ hx).found _ _ rfl
    rw [hsame hx]
  -- the device is the one that the token was created for
  obtain ⟨creator, hcreator, hcreated⟩ := (hreg.isInformed.token id token ⟨t, ht, hfound⟩).2
  obtain ⟨before, later, hh⟩ := List.append_of_mem hcreated
  obtain ⟨i, hcall⟩ := (hreg.conforms creator hcreator).history before _ later hh
  have hpresented := Service.isPresentedBy_of_ofText hcall.ofText_fingerprint rfl
  obtain ⟨w, hw, hend⟩ :=
    hd.of_ends hpresented hkept ((hreg.conforms t ht).of_returns hr)
  obtain rfl := hsame hw
  rcases hend with ⟨e, hs', -⟩ | ⟨access', hs', rfl, hnext⟩
  · rw [hs] at hs'
    cases hs'
  · rw [hs] at hs'
    cases hs'
    rw [hreg.redeemsOnce.isSound.store.user_id _ w hu] at hnext
    exact ⟨rfl, hnext⟩

end System

/-! ### Sessions among rehearsals -/

namespace Rehearsals

variable {κ : Type} {s : Service} {a b : Rehearsals κ} {t : Task} {token : RefreshToken} {n : Nat}

/-- Only the service goes on with a task. -/
theorem Step.stored_of_creation {mayFail : Bool} (h : a.Step s mayFail b)
    (ha : a.system.Conforms s)
    (hold : ∀ u, a.system.tasks[n]? = some u → .creation token ∉ u.history)
    (ht : b.system.tasks[n]? = some t) {text device : String}
    (hc : t.command = .refresh text device) (hnew : .creation token ∈ t.history) :
    b.system.vault.settled.tokens[token.id]? = some token := by
  cases h with
  | service _ h => exact h.stored_of_creation ha hold ht hc hnew
  | begin | ask | giveUp => exact absurd hnew (hold t ht)

/-- A valid redemption loses no session. Among any number of operations of the service, and of
clients who take transactions, create users or whatever else in them, and give them up, a refresh
that has got past the deletion of a token, presented by the device that it is bound to before its
end, finds the owner and is not refused the next token. If an access token can be signed for the
owner, it ends with a session and nothing else, it has created the next token for the same user and
device by then, which is stored at the time when it is created, and it can go on to its end whatever
all others do, unless its client has given it up. -/
theorem sessions_continue (h : initial.Reaches s false b) (hf : b.system.HasFreshIds)
    (ht : b.system.tasks[n]? = some t) (hd : t.HasRedeemed token) :
    ∃ u, b.system.vault.settled.users[token.owner]? = some u ∧
      (∀ x, ⟨.ask (.findUser token.owner), x⟩ ∈ t.history → x = .ok (some u)) ∧
      (∀ next x, ⟨.ask (.createToken next), x⟩ ∈ t.history → x = .ok ()) ∧
      ∀ access next, s.signFor t.fresh u = .ok access →
        next = ⟨t.fresh.tokenId, token.owner, token.fingerprint, s.policy.lifetime, t.fresh.now⟩ →
        (∀ r, t.Returns r →
          r = .ok (.session ⟨access, next.id, next.lifetime⟩) ∧ .creation next ∈ t.history) ∧
        (∀ a, initial.Reaches s false a → a.Step s false b →
          (∀ w, a.system.tasks[n]? = some w → .creation next ∉ w.history) →
          .creation next ∈ t.history →
          b.system.vault.settled.tokens[next.id]? = some next) ∧
        (t.rest.isSome → ∃ c w, b.Reaches s false c ∧ c.system.tasks[n]? = some w ∧
          w.EndsWith (.ok (.session ⟨access, next.id, next.lifetime⟩)) ∧
          .creation next ∈ w.history) := by
  obtain ⟨c, hc, hhides⟩ := Reaches.exists_hidden h
  have htasks := hhides.tasks_eq
  have hcf : c.HasFreshIds := by
    refine ⟨?_, ?_⟩
    · rw [htasks]
      exact hf.tokenId
    · rw [htasks]
      exact hf.userId
  rw [← htasks] at ht
  have hmem := List.mem_of_getElem? ht
  obtain ⟨u, hu, hfound, hgives⟩ := hc.of_hasRedeemed hcf hmem hd
  refine ⟨u, hhides.settled_eq ▸ hu, hfound, fun next x hx => ?_, ?_⟩
  · exact (System.Reaches.isKept hc hcf _ ⟨t, hmem, hx⟩).stored _ _ rfl
  rintro access next hs rfl
  refine ⟨hgives access hs, fun a ha hstep hold hnew => ?_, fun hrest => ?_⟩
  · obtain ⟨a', ha', hhides'⟩ := Reaches.exists_hidden ha
    have hconf : a.system.Conforms s := by
      have hconf' := System.Reaches.conforms ha'
      rwa [System.Conforms, hhides'.tasks_eq] at hconf'
    obtain ⟨text, hcommand⟩ := hd.command
    exact hstep.stored_of_creation hconf hold (htasks ▸ ht) hcommand hnew
  · have hreg := System.Reaches.isRegular hc System.isRegular_initial hcf
    obtain ⟨d, w, r, hcd, hdf, hw, hend⟩ := hreg.exists_end ht hrest false
    obtain ⟨w', hw', hbefore⟩ := System.Reaches.before hcd ht
    obtain rfl := Option.some.inj (hw.symm.trans hw')
    -- the owner is the same at the end
    obtain ⟨u', hu', -, hgives'⟩ :=
      System.Reaches.of_hasRedeemed (hc.trans hcd) hdf (List.mem_of_getElem? hw)
        (hd.before hbefore)
    have hregd := System.Reaches.isRegular hcd hreg hdf
    rw [← hreg.isInformed.users_eq] at hu
    rw [← hregd.isInformed.users_eq, System.Reaches.user? hcd hreg hdf hu] at hu'
    cases hu'
    rw [hbefore.fresh_eq] at hgives'
    obtain ⟨rfl, hnext⟩ := hgives' access hs r hend.returns
    exact ⟨⟨d, ∅⟩, w, (hhides.reaches s false).trans (reaches_of_system hcd ∅), hw, hend, hnext⟩

/-- The account that is rehearsed. -/
def bob : User := Service.least.newUser (.numbered 4) ⟨"bob@b.cc"⟩ ⟨"correct horse"⟩

/-- A refresh goes on that has claimed its token while somebody rehearses to create an account. -/
theorem sessions_continue_rehearsed : ∃ (b : Rehearsals Unit) (t : Task) (token : RefreshToken),
    initial.Reaches .least false b ∧ b.inside = {()} ∧ b.system.HasFreshIds ∧
    b.system.vault.store.users[bob.id]? = some bob ∧
    b.system.vault.settled.users[bob.id]? = none ∧
    b.system.tasks[2]? = some t ∧ t.HasRedeemed token ∧
    ∃ c w session, b.Reaches .least false c ∧ c.system.tasks[2]? = some w ∧
      w.EndsWith (.ok (.session session)) := by
  obtain ⟨t₁, t₂, t₃, h, hfresh, hcommand, hhistory, hrest⟩ :=
    System.exists_claimed Service.isUsable_least (Nat.le_refl 1) Service.takes_ada
      (Fresh.length_salt_numbered 1) Fresh.parse?_two (.numbered 3) false
  have hf := System.hasFreshIds_of_numbered [1, 2, 3] (by decide) hfresh
  have hbegin : Vault.reply? ⟨.ofUser Service.ada, none⟩ false .begin =
      some ⟨.ok (), ⟨.ofUser Service.ada, some []⟩, []⟩ := rfl
  have hbegun : Step .least false _ _ :=
    .begin [t₁, t₂, t₃] () (Set.notMem_empty ()) hbegin
  have hcreate : Vault.reply? ⟨.ofUser Service.ada, some []⟩ true (.ask (.createUser bob)) =
      some (Vault.answerInside (.ofUser Service.ada) [] (.createUser bob)) := rfl
  have hcreated : Step .least false _ _ :=
    .ask [t₁, t₂, t₃] () (Set.mem_insert () ∅) hcreate
  have hreaches := ((reaches_of_system h ∅).tail hbegun).tail hcreated
  have hnone : (Store.ofUser Service.ada).users[bob.id]? = none := by
    have hne : Service.ada.id ≠ bob.id := by decide
    simp [Store.ofUser, Store.empty, hne]
  have hadded : (Store.answer (.ofUser Service.ada) (.createUser bob)).answer = .ok () := by
    have hne : Service.ada.email ≠ bob.email := by decide
    have hemail : (Store.ofUser Service.ada).emails[bob.email]? = none := by
      simp [Store.ofUser, Store.empty, hne]
    exact congrArg Effect.answer
      (Service.answer_createUser (Store.addUser_eq_ok_iff.2 ⟨hemail, hnone, rfl⟩))
  have hsettled := Vault.settled_inside (Store.isConsistent_ofUser Service.ada) [] (.createUser bob)
  have hthird : t₃.fresh = .numbered 3 := by
    simp only [List.map, List.cons.injEq] at hfresh
    exact hfresh.2.2.1
  have hredeemed : t₃.HasRedeemed (Service.least.newToken (.numbered 2) (Fresh.numbered 1).userId
      ⟨"laptop"⟩) := by
    refine ⟨⟨_, hcommand⟩, ⟨(Fresh.numbered 2).tokenId, ?_, ?_⟩, ?_⟩
    · simp [hhistory, Service.claim]
    · simp [hhistory, Service.claim]
    · rw [hthird]
      decide
  have hplace : [t₁, t₂, t₃][2]? = some t₃ := rfl
  obtain ⟨u, -, -, -, hgoes⟩ := sessions_continue hreaches (hf _) hplace hredeemed
  obtain ⟨access, hs⟩ := Service.isUsable_least.signer t₃.fresh u
  obtain ⟨c, w, hbc, hw, hend, -⟩ := (hgoes access _ hs rfl).2.2 hrest
  exact ⟨_, t₃, _, hreaches, insert_empty_eq (), hf _, Store.users_of_createUser hadded,
    hsettled ▸ hnone, hplace, hredeemed, c, w, _, hbc, hw, hend⟩

end Rehearsals

end SessionAuth
