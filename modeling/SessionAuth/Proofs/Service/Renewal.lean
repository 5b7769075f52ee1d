import SessionAuth.Proofs.Service.Exclusion
import SessionAuth.Proofs.Service.Knowledge
import SessionAuth.Proofs.Store.Holdings

/-!
# Sessions

A refresh deletes one token and stores the next one later. In between, the session goes on, but no
token is stored for it. `System.sessions` counts both: the tokens of a user, and the refreshes that
have yet to store one for the user (`Task.Renews`). The only step that raises this number is the
commit of a login (`Step.sessions_le`).
-/

open scoped Classical

namespace SessionAuth

/-! ### Refreshes that go on -/

/-- A refresh of the user's session will store the next token, unless a call fails or nobody waits
for it: it is about to look for the user, for whom an access token can be signed, or to store the
token. -/
inductive Task.Renews (s : Service) (st : Store) (t : Task) (id : UserId) : Prop
  | finding {u : User} {access : AccessToken.Signed} (hr : t.rest.isSome)
    (hc : s.Calls t.fresh t.command false t.history (.ask (.findUser id)))
    (hu : st.users[id]? = some u) (hs : s.signFor t.fresh u = .ok access)
  | storing {token : RefreshToken} (hr : t.rest.isSome)
    (hc : s.Calls t.fresh t.command false t.history (.ask (.createToken token)))
    (ho : token.owner = id)

/-- A task that goes on renewing after it has logged did so before. -/
theorem Task.Renews.of_rest {s : Service} {st : Store} {t : Task} {id : UserId}
    {p : Program (Except Failure Outcome)} (h : Renews s st { t with rest := some p } id)
    (hr : t.rest.isSome) : t.Renews s st id := by
  cases h with
  | finding _ hc hu hs => exact .finding hr hc hu hs
  | storing _ hc ho => exact .storing hr hc ho

namespace Service

variable {s : Service} {fresh : Fresh} {command : Command} {history : List Exchange}

/-- A refresh that looks for the user has claimed a token of this user. -/
theorem Calls.of_findUser {id : UserId}
    (h : s.Calls fresh command false history (.ask (.findUser id))) :
    ∃ text device tokenId token, command = .refresh text device ∧
      RefreshTokenId.parse? text = some tokenId ∧ isPresentedBy token device ∧
      token.isExpiredAt fresh.now = false ∧ token.owner = id ∧ history = claim tokenId token := by
  cases h with
  | findOwner hid hf he => exact ⟨_, _, _, _, rfl, hid, hf, he, rfl, rfl⟩

/-- A refresh that stores a token was told of the user. -/
theorem Calls.of_createToken {next : RefreshToken}
    (h : s.Calls fresh command false history (.ask (.createToken next))) :
    ∃ text device tokenId token u access, command = .refresh text device ∧
      isPresentedBy token device ∧ token.isExpiredAt fresh.now = false ∧
      s.signFor fresh u = .ok access ∧
      next = s.policy.issue fresh.tokenId u.id token.fingerprint fresh.now ∧
      history = claim tokenId token ++ [⟨.ask (.findUser token.owner), .ok (some u)⟩] := by
  cases h with
  | renew hid hf he hs => exact ⟨_, _, _, _, _, _, rfl, hf, he, hs, rfl, rfl⟩

/-- A refresh that looks for the user after an answer was told by it that it has claimed the
token. -/
theorem Calls.findUser_after {id : UserId} {e : Exchange}
    (h : s.Calls fresh command false (history ++ [e]) (.ask (.findUser id))) :
    ∃ tokenId token, history = [⟨.ask (.findToken tokenId), .ok (some token)⟩] ∧
      e = .deletion tokenId ∧ token.owner = id := by
  obtain ⟨-, -, tokenId, token, -, -, -, -, ho, hh⟩ := h.of_findUser
  have hsplit : claim tokenId token =
    [⟨.ask (.findToken tokenId), .ok (some token)⟩] ++ [.deletion tokenId] := rfl
  rw [hsplit] at hh
  obtain ⟨hh, he⟩ := List.append_inj' hh rfl
  exact ⟨tokenId, token, hh, List.singleton_inj.1 he, ho⟩

/-- A refresh that stores a token after an answer was told by it of the user. -/
theorem Calls.createToken_after {next : RefreshToken} {e : Exchange}
    (h : s.Calls fresh command false (history ++ [e]) (.ask (.createToken next))) :
    ∃ owner u access, s.Calls fresh command false history (.ask (.findUser owner)) ∧
      e = ⟨.ask (.findUser owner), .ok (some u)⟩ ∧ s.signFor fresh u = .ok access ∧
      next.owner = u.id := by
  generalize hh : history ++ [e] = all at h
  cases h with
  | renew hid hf he' hs =>
    obtain ⟨hh, he⟩ := List.append_inj' hh rfl
    exact ⟨_, _, _, hh ▸ .findOwner hid hf he', List.singleton_inj.1 he, hs, rfl⟩

end Service

/-! ### Tokens in the settled store -/

namespace Vault

variable {v w : Vault} {isInside : Bool} {c : Call} {x : Except Failure c.Answer} {id : UserId}

/-- A call that is no commit leaves a user with at most as many settled tokens as before, unless it
creates one outside of a transaction. -/
theorem Turn.held_settled (h : Turn v isInside c x w) (hv : v.IsSound)
    (hx : (⟨c, x⟩ : Exchange) ≠ .commitment) (id : UserId) :
    w.settled.held id ≤ v.settled.held id ∨
      ∃ token, token.owner = id ∧ (⟨c, x⟩ : Exchange) = .creation token ∧ v.journal = none ∧
        w.settled.held id = v.settled.held id + 1 := by
  rcases h.settled_eq hv with heq | ⟨heq, -⟩ | ⟨r, hcall, hjournal, heq⟩
  · rw [heq]
    exact .inl (Nat.le_refl _)
  · exact absurd heq hx
  · rw [heq, settled_eq_store hjournal, hcall]
    rcases Store.held_answer hv.store r id with hle | ⟨token, ho, he, hheld⟩
    · exact .inl hle
    · exact .inr ⟨token, ho, he, hjournal, hheld⟩

/-- The deletion of a token outside of a transaction leaves its owner with one token less. -/
theorem Turn.held_deletion {tokenId : RefreshTokenId}
    (h : Turn v false (.ask (.deleteToken tokenId)) (.ok true) w) (hv : v.IsSound) :
    ∃ token, v.Holds token ∧ token.id = tokenId ∧
      w.settled.held token.owner + 1 = v.settled.held token.owner := by
  generalize hx : Except.ok true = x at h
  cases h with
  | outside s _ r =>
    simp only [Store.answer] at hx ⊢
    split at hx
    · rename_i t ht
      have hid := hv.store.token_id _ t ht
      subst hid
      refine ⟨t, holds_closed_iff.2 ht, rfl, ?_⟩
      have hheld := Store.held_removeToken ht t.owner
      rw [if_pos rfl] at hheld
      exact hheld
    · simp at hx
  | failed => cases hx

end Vault

/-! ### Counting sessions -/

namespace System

variable {s : Service} {mayFail : Bool} {a b : System} {id : UserId}

/-- The refreshes that will store a token of the user. -/
noncomputable def renewals (s : Service) (a : System) (id : UserId) : Nat :=
  a.tasks.countP fun t => decide (t.Renews s a.vault.store id)

/-- The sessions of a user: the tokens that the settled store holds and those that refreshes will
store. -/
noncomputable def sessions (s : Service) (a : System) (id : UserId) : Nat :=
  a.vault.settled.held id + a.renewals s id

/-- The logins that have committed. -/
noncomputable def logins (a : System) : Nat :=
  a.tasks.countP fun t => decide (.commitment ∈ t.history)

/-- A task that goes on renewing did so before, whatever another task does. -/
theorem IsInformed.renews_of_step (ha : a.IsInformed) {t : Task} (ht : t ∈ a.tasks)
    (husers : ∀ (id : UserId) (u : User), a.vault.store.users[id]? = some u →
      b.vault.store.users[id]? = some u) :
    t.Renews s b.vault.store id ↔ t.Renews s a.vault.store id := by
  constructor
  · intro h
    cases h with
    | finding hr hc hu hs =>
      obtain ⟨-, -, tokenId, token, -, -, -, -, rfl, hh⟩ := hc.of_findUser
      have hk : a.Knows ⟨.ask (.findToken tokenId), .ok (some token)⟩ :=
        ⟨t, ht, by simp [hh, Service.claim]⟩
      obtain ⟨u', hu'⟩ := mem_users_iff.1 (ha.owner token (ha.token tokenId token hk).2)
      have heq := husers _ u' hu'
      rw [hu] at heq
      cases heq
      exact .finding hr hc hu' hs
    | storing hr hc ho => exact .storing hr hc ho
  · intro h
    cases h with
    | finding hr hc hu hs => exact .finding hr hc (husers _ _ hu) hs
    | storing hr hc ho => exact .storing hr hc ho

/-- All that is known of a system that is reached without a task having an old identifier. -/
structure IsRegular (s : Service) (a : System) : Prop where
  conforms : a.Conforms s
  hasFreshIds : a.HasFreshIds
  redeemsOnce : a.RedeemsOnce
  isInformed : a.IsInformed
  isExclusive : a.IsExclusive
  tellsInside : a.TellsInside

theorem IsRegular.step (ha : a.IsRegular s) (h : Step s mayFail a b) (hf : b.HasFreshIds) :
    b.IsRegular s where
  conforms := h.conforms ha.conforms
  hasFreshIds := hf
  redeemsOnce := ha.redeemsOnce.step h ha.conforms hf
  isInformed := ha.isInformed.step h ha.conforms ha.redeemsOnce
  isExclusive := ha.isExclusive.step h ha.conforms
  tellsInside := ha.tellsInside.step h ha.conforms ha.redeemsOnce.isSound ha.isExclusive

theorem Reaches.isRegular (h : a.Reaches s mayFail b) (ha : a.IsRegular s) (hf : b.HasFreshIds) :
    b.IsRegular s := by
  induction h with
  | refl => exact ha
  | tail hr h ih => exact (ih (hf.of_step h)).step h hf

/-- A user stays through every run. -/
theorem Reaches.user? (h : a.Reaches s mayFail b) (ha : a.IsRegular s) (hf : b.HasFreshIds)
    {id : UserId} {u : User} (hu : a.vault.store.users[id]? = some u) :
    b.vault.store.users[id]? = some u := by
  induction h with
  | refl => exact hu
  | tail hr h ih =>
    have hf' := hf.of_step h
    have hreg := Reaches.isRegular hr ha hf'
    exact hreg.isInformed.user?_of_step h hreg.conforms (ih hf')

theorem isRegular_initial : initial.IsRegular s where
  conforms := conforms_initial
  hasFreshIds := ⟨List.nodup_nil, List.nodup_nil⟩
  redeemsOnce := redeemsOnce_initial
  isInformed := isInformed_initial
  isExclusive := isExclusive_initial
  tellsInside := fun _ h => by cases h

theorem renewals_eq (v : Vault) (before after : List Task) (t : Task) :
    renewals s ⟨v, before ++ t :: after⟩ id =
      renewals s ⟨v, before ++ after⟩ id + if t.Renews s v.store id then 1 else 0 := by
  simp only [renewals, List.countP_append, List.countP_cons, decide_eq_true_eq]
  omega

/-- Tasks that make no step renew as before, if users stay. -/
theorem IsInformed.renewals_eq {v v' : Vault} {tasks others : List Task}
    (ha : IsInformed ⟨v, tasks⟩) (hsub : ∀ t ∈ others, t ∈ tasks)
    (husers : ∀ (id : UserId) (u : User), v.store.users[id]? = some u →
      v'.store.users[id]? = some u) :
    renewals s ⟨v', others⟩ id = renewals s ⟨v, others⟩ id := by
  refine List.countP_congr fun t ht => ?_
  simpa using ha.renews_of_step (b := ⟨v', tasks⟩) (hsub t ht) husers

theorem not_renews_start (s : Service) (command : Command) (fresh : Fresh) (st : Store)
    (id : UserId) : ¬ (Task.start s command fresh).Renews s st id := by
  intro h
  cases h with
  | finding hr hc hu hs =>
    obtain ⟨_, _, _, _, _, _, _, _, _, hh⟩ := hc.of_findUser
    cases hh
  | storing hr hc ho =>
    obtain ⟨_, _, _, _, _, _, _, _, _, _, _, hh⟩ := hc.of_createToken
    cases hh

theorem not_renews_abandoned (s : Service) (t : Task) (st : Store) (id : UserId) :
    ¬ t.abandoned.Renews s st id := by
  intro h
  cases h with
  | finding hr | storing hr => cases hr

/-- A task that goes on renewing after an answer has claimed a token of the user by it, or it was
told of the user and renewed before. -/
theorem IsRegular.renews_told (ha : a.IsRegular s) {w : Vault} {t : Task} (ht : t ∈ a.tasks)
    {c : Call} {next : Except Failure c.Answer → Program (Except Failure Outcome)}
    {x : Except Failure c.Answer} (hr : t.rest.isSome)
    (hc : s.Calls t.fresh t.command t.isInside t.history c)
    (hturn : a.vault.Turn t.isInside c x w) (h : (t.told c next x).Renews s w.store id) :
    w.settled.held id + 1 = a.vault.settled.held id ∨
      t.Renews s a.vault.store id ∧ ∀ token, (⟨c, x⟩ : Exchange) ≠ .creation token := by
  cases h with
  | finding _ hcall =>
    obtain ⟨tokenId, token, hh, he, rfl⟩ := hcall.findUser_after
    cases he
    rw [hc.deleteToken] at hturn
    obtain ⟨token', hholds, hid', hheld⟩ := hturn.held_deletion ha.redeemsOnce.isSound
    have hk : a.Knows ⟨.ask (.findToken tokenId), .ok (some token)⟩ := ⟨t, ht, by simp [hh]⟩
    obtain ⟨hid, hk⟩ := ha.isInformed.token tokenId token hk
    have hk' := ha.redeemsOnce.created token' hholds
    rw [ha.conforms.creation_unique ha.hasFreshIds hk hk' (hid.trans hid'.symm)]
    exact .inl hheld
  | storing _ hcall ho =>
    obtain ⟨owner, u, access, hfind, he, hs, hnext⟩ := hcall.createToken_after
    have hu : a.vault.store.users[owner]? = some u := Except.ok.inj (hturn.answer_eq he.symm)
    have hid : u.id = owner := ha.redeemsOnce.isSound.store.user_id owner u hu
    subst hid
    rw [← ho, hnext]
    refine .inr ⟨.finding hr hfind hu hs, fun token hcreation => ?_⟩
    rw [he] at hcreation
    cases hcreation

/-- A task that creates a token outside of a transaction renewed a session of its owner. -/
theorem IsRegular.renews_of_creation (ha : a.IsRegular s) {t : Task} (ht : t ∈ a.tasks)
    {token : RefreshToken} (hr : t.rest.isSome)
    (hc : s.Calls t.fresh t.command t.isInside t.history (.ask (.createToken token)))
    (hjournal : a.vault.journal = none) : t.Renews s a.vault.store token.owner := by
  rw [ha.isExclusive.eq_false_of_closed ht hjournal] at hc
  exact .storing hr hc rfl

/-- An answer that is no commit does not add to the user's tokens and the session that the task
renews, taken together. -/
theorem IsRegular.held_add_renewal_le (ha : a.IsRegular s) {w : Vault} {t : Task}
    (ht : t ∈ a.tasks) {c : Call}
    {next : Except Failure c.Answer → Program (Except Failure Outcome)}
    {x : Except Failure c.Answer} (hr : t.rest.isSome)
    (hc : s.Calls t.fresh t.command t.isInside t.history c)
    (hturn : a.vault.Turn t.isInside c x w) (hx : (⟨c, x⟩ : Exchange) ≠ .commitment) (id : UserId) :
    w.settled.held id + (if (t.told c next x).Renews s w.store id then 1 else 0) ≤
      a.vault.settled.held id + if t.Renews s a.vault.store id then 1 else 0 := by
  have hheld := hturn.held_settled ha.redeemsOnce.isSound hx id
  by_cases hnew : (t.told c next x).Renews s w.store id
  · rw [if_pos hnew]
    rcases ha.renews_told ht hr hc hturn hnew with hless | ⟨hold, hno⟩
    · omega
    · rw [if_pos hold]
      rcases hheld with hle | ⟨token, -, he, -⟩
      · exact Nat.add_le_add_right hle _
      · exact absurd he (hno token)
  · rw [if_neg hnew]
    rcases hheld with hle | ⟨token, rfl, he, hjournal, hmore⟩
    · exact Nat.add_le_add hle (Nat.zero_le _)
    · cases he
      rw [if_pos (ha.renews_of_creation ht hr hc hjournal)]
      exact Nat.le_of_eq hmore

/-- A step that is no commit of a login opens no session. -/
theorem IsRegular.sessions_le (ha : a.IsRegular s) (h : Step s mayFail a b)
    (hlogins : b.logins = a.logins) : b.sessions s id ≤ a.sessions s id := by
  have husers := fun (id : UserId) (u : User) (hu : a.vault.store.users[id]? = some u) =>
    ha.isInformed.user?_of_step h ha.conforms hu
  cases h with
  | arrival v tasks command fresh =>
    have hnone := not_renews_start s command fresh v.store id
    simp [sessions, renewals, List.countP_append, hnone]
  | @progress before after v v' t t' h =>
    have hothers : renewals s ⟨v', before ++ after⟩ id = renewals s ⟨v, before ++ after⟩ id :=
      ha.isInformed.renewals_eq (by simp; tauto) husers
    have hmem : t ∈ before ++ t :: after := by simp
    have hle : v'.settled.held id + (if t'.Renews s v'.store id then 1 else 0) ≤
        v.settled.held id + if t.Renews s v.store id then 1 else 0 := by
      cases h.move (ha.conforms t hmem) with
      | logged p hr =>
        refine Nat.add_le_add_left ?_ _
        split_ifs with hnew hold
        · exact Nat.le_refl _
        · exact absurd (hnew.of_rest hr) hold
        · exact Nat.zero_le _
        · exact Nat.le_refl _
      | abandoned hc =>
        have hsettled : (if t.isInside then v.drop else v).settled = v.settled := by
          split <;> rfl
        rw [if_neg (not_renews_abandoned s t _ id), hsettled]
        exact Nat.le_add_right _ _
      | @told c next x w hr hc hturn =>
        refine ha.held_add_renewal_le hmem hr hc hturn (fun heq => ?_) id
        simp [logins, List.countP_append, Task.told, heq, hc.commitment_not_mem] at hlogins
    simp only [sessions, renewals_eq, hothers]
    omega

end System

end SessionAuth
