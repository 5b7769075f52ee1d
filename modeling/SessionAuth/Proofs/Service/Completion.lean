import SessionAuth.Proofs.Service.Alone
import SessionAuth.Proofs.Service.Renewal

/-!
# Refreshes that end

A refresh that has yet to store a token, left alone with a vault that is not locked, stores it
(`Task.Renews.runs`). So any state goes on, without the commit of a login, to one in which a user
holds as many tokens as there were sessions (`exists_held_eq_sessions`).
-/

open scoped Classical

namespace SessionAuth

namespace Service

variable {s : Service} {fresh : Fresh} {command : Command} {isInside : Bool}
  {history : List Exchange} {c : Call} {r : Except Failure Outcome}

/-! ### One call at a time -/

theorem claim_inj {id id' : RefreshTokenId} {token token' : RefreshToken}
    (h : claim id token = claim id' token') : id = id' ∧ token = token' := by
  simp only [claim, List.cons.injEq, Exchange.mk.injEq, Call.ask.injEq] at h
  obtain ⟨⟨hid, hanswer⟩, -⟩ := h
  cases hid
  cases hanswer
  exact ⟨rfl, rfl⟩

theorem claim_append_inj {id id' : RefreshTokenId} {token token' : RefreshToken} {u u' : User}
    (h : claim id token ++ [⟨.ask (.findUser token.owner), .ok (some u)⟩] =
      claim id' token' ++ [⟨.ask (.findUser token'.owner), .ok (some u')⟩]) :
    token = token' ∧ u = u' := by
  obtain ⟨hclaim, hlast⟩ := List.append_inj' h rfl
  obtain ⟨-, rfl⟩ := claim_inj hclaim
  cases hlast
  exact ⟨rfl, rfl⟩

/-- A refresh that is about to look for the user makes no other call. -/
theorem Calls.eq_findUser {id : UserId}
    (h : s.Calls fresh command false history (.ask (.findUser id)))
    (hc : s.Calls fresh command isInside history c) : c = .ask (.findUser id) := by
  obtain ⟨text, device, tokenId, token, rfl, -, -, -, rfl, rfl⟩ := h.of_findUser
  generalize hh : claim tokenId token = history at hc
  cases hc with
  | find | redeem | renew => simp [claim] at hh
  | findOwner => rw [(claim_inj hh).2]

/-- A refresh that is about to store a token makes no other call. -/
theorem Calls.eq_createToken {next : RefreshToken}
    (h : s.Calls fresh command false history (.ask (.createToken next)))
    (hc : s.Calls fresh command isInside history c) : c = .ask (.createToken next) := by
  obtain ⟨text, device, tokenId, token, u, access, rfl, -, -, -, rfl, rfl⟩ := h.of_createToken
  generalize hh : claim tokenId token ++ _ = history at hc
  cases hc with
  | find | redeem | findOwner => simp [claim] at hh
  | renew =>
    obtain ⟨rfl, rfl⟩ := claim_append_inj hh
    rfl

/-- A refresh that is about to look for the user does not end. -/
theorem Calls.not_ends_of_findUser {id : UserId}
    (h : s.Calls fresh command false history (.ask (.findUser id))) :
    ¬ s.Ends fresh command history r := by
  obtain ⟨text, device, tokenId, token, rfl, -, hf, he, rfl, rfl⟩ := h.of_findUser
  intro hends
  generalize hh : claim tokenId token = history at hends
  cases hends with
  | failed h =>
    have hlast := congrArg List.getLast? hh
    rw [List.getLast?_concat] at hlast
    cases hlast
  | unreadable | missing | lost | orphaned | unsigned | renewed => simp [claim] at hh
  | foreign _ hf' =>
    rw [← (claim_inj hh).2, hf] at hf'
    cases hf'
  | expired _ he' =>
    rw [← (claim_inj hh).2, he] at he'
    cases he'

/-- A refresh that is about to store a token does not end. -/
theorem Calls.not_ends_of_createToken {next : RefreshToken}
    (h : s.Calls fresh command false history (.ask (.createToken next))) :
    ¬ s.Ends fresh command history r := by
  obtain ⟨text, device, tokenId, token, u, access, rfl, hf, he, hs, rfl, rfl⟩ := h.of_createToken
  intro hends
  generalize hh : claim tokenId token ++ _ = history at hends
  cases hends with
  | failed h => cases List.singleton_inj.1 (List.append_inj' hh rfl).2
  | unreadable | missing | lost | foreign | expired | renewed => simp [claim] at hh
  | orphaned =>
    obtain ⟨hclaim, hlast⟩ := List.append_inj' hh rfl
    obtain ⟨-, rfl⟩ := claim_inj hclaim
    cases hlast
  | unsigned _ hs' =>
    rw [← (claim_append_inj hh).2, hs] at hs'
    cases hs'

end Service

/-! ### A refresh left alone -/

namespace Task

variable {s : Service} {t t' : Task} {mayFail : Bool} {v v' : Vault} {st : Store} {id : UserId}

theorem Runs.conforms {p q : Vault × Task} (h : Runs mayFail p q) (hp : p.2.Conforms s) :
    q.2.Conforms s := by
  induction h with
  | refl => exact hp
  | tail _ h ih => exact h.conforms ih

theorem Conforms.rest_isSome_of_inside (h : t.Conforms s) (hi : t.isInside = true) :
    t.rest.isSome := by
  rw [Option.isSome_iff_ne_none]
  intro hnone
  rw [h.outside hnone] at hi
  cases hi

theorem Renews.rest_isSome (h : t.Renews s st id) : t.rest.isSome := by
  cases h with
  | finding hr | storing hr => exact hr

/-- A task that is not at its end gets to its next call. -/
theorem Conforms.runs_to_call (h : t.Conforms s) (hr : t.rest.isSome)
    (hno : ∀ r, ¬ (t.isInside = false ∧ s.Ends t.fresh t.command t.history r)) (mayFail : Bool)
    (v : Vault) :
    ∃ c next, Runs mayFail (v, t) (v, { t with rest := some (.call c next) }) ∧
      s.Calls t.fresh t.command t.isInside t.history c := by
  obtain ⟨p, hp⟩ := Option.isSome_iff_exists.1 hr
  induction p generalizing t with
  | done r => exact absurd (h.ends hp) (hno r)
  | log e p ih =>
    have hstep : t.Step mayFail v v { t with rest := some p } := .log hp
    obtain ⟨c, next, hruns, hc⟩ := ih (hstep.conforms h) rfl hno rfl
    exact ⟨c, next, .head hstep hruns, hc⟩
  | call c next =>
    refine ⟨c, next, ?_, h.call hp⟩
    rw [← hp]

/-- A refresh that is about to store a token stores it. -/
theorem Conforms.runs_storing (h : t.Conforms s) (hr : t.rest.isSome) {token : RefreshToken}
    (hc : s.Calls t.fresh t.command false t.history (.ask (.createToken token)))
    (howner : token.owner ∈ st.users) (hid : st.tokens[token.id]? = none) (mayFail : Bool) :
    ∃ t', Runs mayFail (⟨st, none⟩, t) (⟨st.putToken token, none⟩, t') ∧
      t'.history = t.history ++ [.creation token] := by
  obtain ⟨c, next, hruns, hcall⟩ := h.runs_to_call hr
    (fun r hends => hc.not_ends_of_createToken hends.2) mayFail ⟨st, none⟩
  obtain rfl := hc.eq_createToken hcall
  have heffect : st.answer (.createToken token) =
      ⟨.ok (), st.putToken token, [.removeToken token.id]⟩ := by
    simp only [Store.answer, Store.addToken_eq_ok_iff.2 ⟨howner, hid, rfl⟩, Store.add]
  exact ⟨_, hruns.tail (Step.ask rfl heffect mayFail), rfl⟩

/-- A refresh that is about to look for the user gets to where it stores the token. -/
theorem Conforms.runs_finding (h : t.Conforms s) (hr : t.rest.isSome)
    (hc : s.Calls t.fresh t.command false t.history (.ask (.findUser id))) {u : User}
    {access : AccessToken.Signed} (hu : st.users[id]? = some u)
    (hs : s.signFor t.fresh u = .ok access) (mayFail : Bool) :
    ∃ t' token, Runs mayFail (⟨st, none⟩, t) (⟨st, none⟩, t') ∧ t'.rest.isSome ∧
      t'.fresh = t.fresh ∧ token.owner = u.id ∧
      s.Calls t'.fresh t'.command false t'.history (.ask (.createToken token)) := by
  obtain ⟨c, next, hruns, hcall⟩ := h.runs_to_call hr
    (fun r hends => hc.not_ends_of_findUser hends.2) mayFail ⟨st, none⟩
  obtain rfl := hc.eq_findUser hcall
  have heffect : st.answer (.findUser id) = ⟨.ok (some u), st, []⟩ := by
    simp only [Store.answer, Store.user?, hu]
  obtain ⟨text, device, tokenId, token, hcommand, hid, hf, he, rfl, hh⟩ := hc.of_findUser
  refine ⟨_, s.policy.issue t.fresh.tokenId u.id token.fingerprint t.fresh.now,
    hruns.tail (Step.ask rfl heffect mayFail), rfl, rfl, rfl, ?_⟩
  simp only [hcommand, hh]
  exact .renew hid hf he hs

/-- A refresh that has yet to store a token of the user stores one under its new identifier, and has
then nothing left to store. -/
theorem Renews.runs (hren : t.Renews s st id) (h : t.Conforms s) (hst : st.IsConsistent)
    (hfresh : st.tokens[t.fresh.tokenId]? = none) (howner : id ∈ st.users) (mayFail : Bool) :
    ∃ t' token, Runs mayFail (⟨st, none⟩, t) (⟨st.putToken token, none⟩, t') ∧ token.owner = id ∧
      st.tokens[token.id]? = none ∧ .commitment ∉ t'.history ∧
      ∀ st', ¬ t'.Renews s st' id := by
  obtain ⟨t₁, token, hruns₁, hr, hfr, ho, hc⟩ : ∃ t₁ token,
      Runs mayFail (⟨st, none⟩, t) (⟨st, none⟩, t₁) ∧ t₁.rest.isSome ∧ t₁.fresh = t.fresh ∧
      token.owner = id ∧
      s.Calls t₁.fresh t₁.command false t₁.history (.ask (.createToken token)) := by
    cases hren with
    | storing hr hc ho => exact ⟨t, _, .refl, hr, rfl, ho, hc⟩
    | finding hr hc hu hs =>
      rw [← hst.user_id _ _ hu]
      exact h.runs_finding hr hc hu hs mayFail
  have hid : st.tokens[token.id]? = none := by
    rw [hc.createToken.1, hfr]
    exact hfresh
  subst ho
  obtain ⟨t', hruns₂, hh⟩ := (hruns₁.conforms h).runs_storing hr hc howner hid mayFail
  refine ⟨t', token, hruns₁.trans hruns₂, rfl, hid, ?_, fun st' hren' => ?_⟩
  · simp [hh, hc.commitment_not_mem]
  · cases hren' with
    | finding _ hc' =>
      rw [hh] at hc'
      obtain ⟨_, _, _, he, _⟩ := hc'.findUser_after
      cases he
    | storing _ hc' =>
      rw [hh] at hc'
      obtain ⟨_, _, _, _, he, _⟩ := hc'.createToken_after
      cases he

/-! ### A login left alone -/

/-- A task in the transaction gets to its next call, and may be abandoned there. -/
theorem Conforms.runs_dropped (h : t.Conforms s) (hi : t.isInside = true) (mayFail : Bool)
    (v : Vault) : ∃ t', Runs mayFail (v, t) (v.drop, t') ∧ t'.rest = none ∧
      .commitment ∉ t'.history := by
  obtain ⟨c, next, hruns, hc⟩ := h.runs_to_call (h.rest_isSome_of_inside hi)
    (fun r hends => by simp [hends.1] at hi) mayFail v
  have hstep : Step mayFail v { t with rest := some (.call c next) }
      (if t.isInside then v.drop else v) t.abandoned := .abandoned rfl
  rw [if_pos hi] at hstep
  exact ⟨t.abandoned, hruns.tail hstep, rfl, hc.commitment_not_mem⟩

/-- A task in the transaction is a login. -/
theorem Conforms.login_of_inside (h : t.Conforms s) (hi : t.isInside = true) :
    ∃ text password device, t.command = .login text password device := by
  obtain ⟨c, next, -, hcall⟩ := h.runs_to_call (h.rest_isSome_of_inside hi)
    (fun r hends => by simp [hends.1] at hi) false .empty
  rw [hi] at hcall
  exact hcall.login_of_inside

/-- A task in the transaction renews no session. -/
theorem Conforms.not_renews_of_inside (h : t.Conforms s) (hi : t.isInside = true) :
    ¬ t.Renews s st id := by
  obtain ⟨text, password, device, hlogin⟩ := h.login_of_inside hi
  intro hren
  cases hren with
  | finding _ hc =>
    obtain ⟨_, _, _, _, hrefresh, -⟩ := hc.of_findUser
    rw [hlogin] at hrefresh
    cases hrefresh
  | storing _ hc =>
    obtain ⟨_, _, _, _, _, _, hrefresh, -⟩ := hc.of_createToken
    rw [hlogin] at hrefresh
    cases hrefresh

end Task

/-! ### All refreshes, one after the other -/

namespace System

variable {s : Service} {mayFail : Bool} {a b : System} {id : UserId}

/-- A step that commits no login. -/
def StepsOn (s : Service) (mayFail : Bool) (a b : System) : Prop :=
  Step s mayFail a b ∧ b.logins = a.logins

theorem reaches_of_stepsOn (h : Relation.ReflTransGen (StepsOn s mayFail) a b) :
    a.Reaches s mayFail b := Relation.ReflTransGen.mono (fun _ _ h => h.1) _ _ h

/-- The steps of one task, among others that wait. -/
theorem stepsOn_of_runs (s : Service) (before after : List Task) {p q : Vault × Task}
    (h : Task.Runs mayFail p q) (hn : .commitment ∉ q.2.history) :
    Relation.ReflTransGen (StepsOn s mayFail) ⟨p.1, before ++ p.2 :: after⟩
      ⟨q.1, before ++ q.2 :: after⟩ := by
  induction h with
  | refl => exact .refl
  | tail _ hstep ih =>
    have hn' : Exchange.commitment ∉ _ := fun he => hn (hstep.mem_history he)
    refine (ih hn').tail ⟨.progress before after hstep, ?_⟩
    simp only [logins, List.countP_append, List.countP_cons, hn, hn', decide_false]

/-- What the steps of one task leave is as regular. -/
theorem IsRegular.runs {before after : List Task} {p q : Vault × Task}
    (ha : IsRegular s ⟨p.1, before ++ p.2 :: after⟩) (h : Task.Runs mayFail p q) :
    IsRegular s ⟨q.1, before ++ q.2 :: after⟩ := by
  have hmap : (before ++ p.2 :: after).map (·.fresh) =
      (before ++ q.2 :: after).map (·.fresh) ++ [] := by
    simp [h.fresh_eq]
  exact Reaches.isRegular (reaches_of_runs before after h) ha (.of_map_eq hmap ha.hasFreshIds)

/-- Nothing is stored under the new identifier of a task that has created no token. -/
theorem IsRegular.tokens_eq_none (ha : a.IsRegular s) {t : Task} (ht : t ∈ a.tasks)
    (hno : ∀ token, .creation token ∉ t.history) :
    a.vault.store.tokens[t.fresh.tokenId]? = none := by
  by_contra hne
  obtain ⟨token, htoken⟩ := Option.ne_none_iff_exists'.1 hne
  have hid := ha.redeemsOnce.isSound.store.token_id _ token htoken
  rw [← hid] at htoken
  obtain ⟨u, hu, hh⟩ := ha.redeemsOnce.created token (.inl htoken)
  have heq := ha.hasFreshIds.eq_of_tokenId hu ht (by rw [← hid, ha.conforms.tokenId_eq hu hh])
  rw [heq] at hh
  exact hno token hh

/-- Whoever renews a session of a user knows that there is the user, and has created no token. -/
theorem IsRegular.of_renews (ha : a.IsRegular s) {t : Task} (ht : t ∈ a.tasks)
    (h : t.Renews s a.vault.store id) :
    id ∈ a.vault.store.users ∧ ∀ token, .creation token ∉ t.history := by
  cases h with
  | finding _ hc hu =>
    obtain ⟨_, _, _, _, -, -, -, -, -, hh⟩ := hc.of_findUser
    exact ⟨mem_users_iff.2 ⟨_, hu⟩, by simp [hh, Service.claim]⟩
  | storing _ hc ho =>
    refine ⟨?_, fun token => hc.createToken.2 token _⟩
    obtain ⟨_, _, tokenId, token, u, _, -, -, -, -, hnext, hh⟩ := hc.of_createToken
    have hu := ha.isInformed.user token.owner u ⟨t, ht, by simp [hh]⟩
    rw [← ho, hnext]
    exact mem_users_iff.2 ⟨u, (ha.redeemsOnce.isSound.store.user_id _ u hu) ▸ hu⟩

/-- One of the refreshes under way can end, so that the user has one token more. -/
theorem IsRegular.exists_stored {st : Store} {tasks : List Task}
    (ha : IsRegular s ⟨⟨st, none⟩, tasks⟩) {t : Task} (ht : t ∈ tasks) (hren : t.Renews s st id)
    (mayFail : Bool) : ∃ st' tasks',
      Relation.ReflTransGen (StepsOn s mayFail) ⟨⟨st, none⟩, tasks⟩ ⟨⟨st', none⟩, tasks'⟩ ∧
      IsRegular s ⟨⟨st', none⟩, tasks'⟩ ∧ st'.held id = st.held id + 1 ∧
      renewals s ⟨⟨st', none⟩, tasks'⟩ id + 1 = renewals s ⟨⟨st, none⟩, tasks⟩ id := by
  obtain ⟨howner, hno⟩ := ha.of_renews ht hren
  obtain ⟨t', token, hruns, rfl, hid, hcommit, hdone⟩ := hren.runs (ha.conforms t ht)
    ha.redeemsOnce.isSound.store (ha.tokens_eq_none ht hno) howner mayFail
  obtain ⟨before, after, rfl⟩ := List.append_of_mem ht
  have hothers : renewals s ⟨⟨st.putToken token, none⟩, before ++ after⟩ token.owner =
      renewals s ⟨⟨st, none⟩, before ++ after⟩ token.owner :=
    ha.isInformed.renewals_eq (by simp; tauto) fun _ _ hu => hu
  refine ⟨st.putToken token, before ++ t' :: after, stepsOn_of_runs s before after hruns hcommit,
    ha.runs hruns, ?_, ?_⟩
  · rw [Store.held_putToken hid, if_pos rfl]
  · rw [renewals_eq, renewals_eq, if_neg (hdone _), if_pos hren, hothers]

/-- The refreshes under way can end one after the other, so that every session of the user has its
token. -/
theorem IsRegular.exists_held_eq (mayFail : Bool) (n : Nat) {st : Store} {tasks : List Task}
    (ha : IsRegular s ⟨⟨st, none⟩, tasks⟩) (hn : renewals s ⟨⟨st, none⟩, tasks⟩ id = n) :
    ∃ b, Relation.ReflTransGen (StepsOn s mayFail) ⟨⟨st, none⟩, tasks⟩ b ∧ b.HasFreshIds ∧
      b.vault.store.held id = st.held id + n := by
  induction n generalizing st tasks with
  | zero => exact ⟨_, .refl, ha.hasFreshIds, rfl⟩
  | succ n ih =>
    have hpos : 0 < renewals s ⟨⟨st, none⟩, tasks⟩ id := hn.symm ▸ Nat.succ_pos n
    obtain ⟨t, ht, hren⟩ := List.countP_pos_iff.1 hpos
    obtain ⟨st', tasks', hsteps, hreg, hheld, hrenewals⟩ :=
      ha.exists_stored ht (of_decide_eq_true hren) mayFail
    obtain ⟨b, hb, hbf, hheld'⟩ := ih hreg (by omega)
    exact ⟨b, hsteps.trans hb, hbf, by omega⟩

/-- The open transaction, if there is one, can be dropped, which no session depends on. -/
theorem IsRegular.exists_closed (ha : a.IsRegular s) (mayFail : Bool) (id : UserId) :
    ∃ st tasks, Relation.ReflTransGen (StepsOn s mayFail) a ⟨⟨st, none⟩, tasks⟩ ∧
      IsRegular s ⟨⟨st, none⟩, tasks⟩ ∧ sessions s ⟨⟨st, none⟩, tasks⟩ id = a.sessions s id := by
  obtain ⟨⟨st, journal⟩, tasks⟩ := a
  cases journal with
  | none => exact ⟨st, tasks, .refl, ha, rfl⟩
  | some journal =>
    have hcount : tasks.countP (·.isInside) = 1 := ha.isExclusive
    obtain ⟨t, ht, hi⟩ := List.countP_pos_iff.1 (Nat.lt_of_lt_of_eq Nat.one_pos hcount.symm)
    have hconf := ha.conforms t ht
    obtain ⟨t', hdropped, hrest, hcommit⟩ := hconf.runs_dropped hi mayFail ⟨st, some journal⟩
    obtain ⟨before, after, rfl⟩ := List.append_of_mem ht
    have hsteps := stepsOn_of_runs s before after hdropped hcommit
    have hclosed := ha.runs hdropped
    have hothers : renewals s ⟨Vault.drop ⟨st, some journal⟩, before ++ after⟩ id =
        renewals s ⟨⟨st, some journal⟩, before ++ after⟩ id := by
      refine ha.isInformed.renewals_eq (by simp; tauto) fun id u hu => ?_
      rw [ha.isInformed.users_eq] at hu
      exact hu
    have hbefore : ¬ t.Renews s st id := hconf.not_renews_of_inside hi
    have hafter : ¬ t'.Renews s (Vault.drop ⟨st, some journal⟩).store id := fun hren => by
      have hr := hren.rest_isSome
      rw [hrest] at hr
      cases hr
    have hsessions : sessions s ⟨Vault.drop ⟨st, some journal⟩, before ++ t' :: after⟩ id =
        sessions s ⟨⟨st, some journal⟩, before ++ t :: after⟩ id := by
      rw [sessions, sessions, renewals_eq, renewals_eq, if_neg hbefore, if_neg hafter, hothers]
      rfl
    exact ⟨_, _, hsteps, hclosed, hsessions⟩

/-- Any state goes on, without the commit of a login, to one in which the user holds as many tokens
as there were sessions. -/
theorem IsRegular.exists_held_eq_sessions (ha : a.IsRegular s) (mayFail : Bool) (id : UserId) :
    ∃ b, Relation.ReflTransGen (StepsOn s mayFail) a b ∧ b.HasFreshIds ∧
      b.vault.store.held id = a.sessions s id := by
  obtain ⟨st, tasks, hsteps, hclosed, hsessions⟩ := ha.exists_closed mayFail id
  obtain ⟨b, hb, hfresh, hheld⟩ := hclosed.exists_held_eq mayFail _ rfl
  exact ⟨b, hsteps.trans hb, hfresh, hheld.trans hsessions⟩

end System

end SessionAuth
