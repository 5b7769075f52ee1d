import SessionAuth.Proofs.Service.Completion

/-!
# The quota

A login leaves its user with at most as many tokens as the quota allows. But it does not see the
refreshes that have yet to store a token, so that the quota bounds the tokens exactly as long as
each login leaves at most as many sessions (`quota_bounds_exactly`).
-/

open scoped Classical

namespace SessionAuth

/-! ### Within a login -/

namespace Store

variable {s s' : Store} {history later : List Exchange} {id : UserId}

theorem Tells.isConsistent (h : s.Tells history s') (hs : s.IsConsistent) : s'.IsConsistent := by
  induction history generalizing s with
  | nil =>
    cases h
    exact hs
  | cons e history ih =>
    rcases h with ⟨r, -, h⟩ | ⟨-, h⟩
    · exact ih h (isConsistent_answer hs r)
    · exact ih h hs

theorem tells_append :
    s.Tells (history ++ later) s' ↔ ∃ mid, s.Tells history mid ∧ mid.Tells later s' := by
  induction history generalizing s with
  | nil => simp [Tells]
  | cons e history ih =>
    simp only [List.cons_append, Tells, ih]
    constructor
    · rintro (⟨r, he, mid, hmid, h⟩ | ⟨he, mid, hmid, h⟩)
      · exact ⟨mid, .inl ⟨r, he, hmid⟩, h⟩
      · exact ⟨mid, .inr ⟨he, hmid⟩, h⟩
    · rintro ⟨mid, ⟨r, he, hmid⟩ | ⟨he, hmid⟩, h⟩
      · exact .inl ⟨r, he, mid, hmid, h⟩
      · exact .inr ⟨he, mid, hmid, h⟩

/-- As long as no token is created, no user gets more of them. -/
theorem Tells.held_le (h : s.Tells history s') (hs : s.IsConsistent)
    (hno : ∀ token, .creation token ∉ history) (id : UserId) : s'.held id ≤ s.held id := by
  induction history generalizing s with
  | nil =>
    cases h
    exact Nat.le_refl _
  | cons e history ih =>
    have hno' : ∀ token, .creation token ∉ history := fun token ht =>
      hno token (List.mem_cons_of_mem e ht)
    rcases h with ⟨r, he, h⟩ | ⟨-, h⟩
    · refine Nat.le_trans (ih h (isConsistent_answer hs r) hno') ?_
      rcases held_answer hs r id with hle | ⟨token, -, hc, -⟩
      · exact hle
      · exact absurd (List.mem_cons.2 (.inl (hc.symm.trans he.symm))) (hno token)
    · exact ih h hs hno'

/-- The creation of a token gives its owner one more, and nobody else. -/
theorem Tells.held_creation {token : RefreshToken} (h : s.Tells (.creation token :: later) s')
    (hs : s.IsConsistent) (hno : ∀ token, .creation token ∉ later) (id : UserId) :
    s'.held id ≤ s.held id + if token.owner = id then 1 else 0 := by
  obtain ⟨hanswer, h⟩ := h.of_ok
  refine Nat.le_trans (h.held_le (isConsistent_answer hs _) hno id) ?_
  simp only [answer, add] at hanswer ⊢
  split at hanswer
  · rename_i s₁ hs₁
    obtain ⟨-, ht, rfl⟩ := addToken_eq_ok_iff.1 hs₁
    exact Nat.le_of_eq (held_putToken ht _)
  · cases hanswer

end Store

/-- Before a login creates a token, it has made sure that its user holds fewer tokens than the quota
allows. -/
theorem Service.LoginAsks.held_lt {s : Service} {fresh : Fresh} {text password : String}
    {f : Fingerprint} {history : List Exchange} {token : RefreshToken} {st st' : Store}
    (h : LoginAsks s fresh text password f history (.createToken token))
    (hq : 1 ≤ s.policy.quota) (ht : st.Tells history st') :
    st'.held token.owner < s.policy.quota := by
  cases h with
  | create he ha hheld =>
    obtain ⟨-, ht₁⟩ := ht.of_ok
    obtain ⟨heq, ht₂⟩ := ht₁.of_ok
    cases heq
    have hst : st' = st := ht₂
    rw [hst]
    exact hheld
  | createEvicted he ha hheld =>
    obtain ⟨-, ht₁⟩ := ht.of_ok
    obtain ⟨-, ht₂⟩ := ht₁.of_ok
    obtain ⟨-, ht₃⟩ := ht₂.of_ok
    have hst : st' = st.removeTokensWhere (·.owner = _) := ht₃
    rw [hst]
    exact lt_of_eq_of_lt Store.held_removeTokensOf hq

/-- A token that is created in a transaction is created by a login. -/
theorem Service.Calls.loginAsks {s : Service} {fresh : Fresh} {command : Command} {isInside : Bool}
    {later : List Exchange} {token : RefreshToken}
    (h : s.Calls fresh command isInside (⟨.begin, .ok ()⟩ :: later) (.ask (.createToken token))) :
    ∃ text password f, LoginAsks s fresh text password f later (.createToken token) := by
  cases h with
  | within _ h => exact ⟨_, _, _, h⟩

namespace Task

variable {s : Service} {t : Task}

/-- After a token was created, the task creates no other one. -/
theorem Conforms.not_creation_after (h : t.Conforms s) {before later : List Exchange}
    {token : RefreshToken} (hh : t.history = before ++ .creation token :: later)
    (token' : RefreshToken) : .creation token' ∉ later := by
  intro hmem
  obtain ⟨mid, rest, rfl⟩ := List.append_of_mem hmem
  rw [← List.cons_append, ← List.append_assoc] at hh
  obtain ⟨i, hc⟩ := h.history _ _ rest hh
  exact absurd (by simp) (hc.createToken.2 token (.ok ()))

end Task

namespace System

variable {s : Service} {mayFail : Bool} {a b : System} {id : UserId}

/-- A user never holds more tokens than the quota allows or the settled store holds, not even in the
eyes of a transaction. -/
theorem IsRegular.held_le_max (ha : a.IsRegular s) (hq : 1 ≤ s.policy.quota) (id : UserId) :
    a.vault.store.held id ≤ max s.policy.quota (a.vault.settled.held id) := by
  cases hj : a.vault.journal.isSome with
  | false =>
    have hsettled : a.vault.settled = a.vault.store := by
      rw [Vault.settled, Option.isNone_iff_eq_none.1 (Option.isSome_eq_false_iff.1 hj)]
      rfl
    rw [hsettled]
    exact Nat.le_max_right _ _
  | true =>
    have hcount := ha.isExclusive
    rw [IsExclusive, hj] at hcount
    obtain ⟨t, ht, hi⟩ := List.countP_pos_iff.1 (Nat.lt_of_lt_of_eq Nat.one_pos hcount.symm)
    obtain ⟨later, hh, htells⟩ := ha.tellsInside t ht hi
    have hsettled := ha.redeemsOnce.isSound.settled
    by_cases hno : ∀ token, .creation token ∉ later
    · exact Nat.le_trans (htells.held_le hsettled hno id) (Nat.le_max_right _ _)
    · simp only [not_forall, not_not] at hno
      obtain ⟨token, hmem⟩ := hno
      obtain ⟨before, rest, rfl⟩ := List.append_of_mem hmem
      obtain ⟨mid, hmid, hrest⟩ := Store.tells_append.1 htells
      rw [← List.cons_append] at hh
      obtain ⟨i, hc⟩ := (ha.conforms t ht).history _ _ rest hh
      obtain ⟨text, password, f, hasks⟩ := Service.Calls.loginAsks hc
      have hlt := hasks.held_lt hq hmid
      have hle := hmid.held_le hsettled
        (fun token' hmem' => hc.createToken.2 token' (.ok ()) (List.mem_cons_of_mem _ hmem')) id
      have hnew := hrest.held_creation (hmid.isConsistent hsettled)
        ((ha.conforms t ht).not_creation_after hh) id
      split_ifs at hnew with howner
      · rw [← howner] at hnew ⊢
        omega
      · omega

/-! ### More tokens than the quota allows -/

/-- If its user logs in while a refresh has yet to store a token, the user has two sessions, even if
the quota is one. -/
theorem exists_two_sessions {text password device tokenText : String} {email : Email}
    {p : Password} {f : Fingerprint} {first second : Fresh} (hs : s.IsUsable)
    (hq : 1 ≤ s.policy.quota) (hc : Service.Takes text password device email p f)
    (hsalt : 8 ≤ first.salt.length ∧ first.salt.length ≤ 48)
    (hid : RefreshTokenId.parse? tokenText = some second.tokenId) (third fourth : Fresh)
    (hlive : (s.newToken second first.userId f).isExpiredAt third.now = false)
    (mayFail : Bool) : ∃ a, initial.Reaches s mayFail a ∧
      a.tasks.map (·.fresh) = [first, second, third, fourth] ∧
      2 ≤ a.sessions s first.userId := by
  obtain ⟨t₁, t₂, t₃, t₄, h, hfresh, hcommand, hhistory, hrest⟩ :=
    exists_claimed_and_login hs hq hc hsalt hid third fourth mayFail
  let u := s.newUser first email p
  let token := s.newToken fourth u.id f
  obtain ⟨access, haccess⟩ := hs.signer third u
  have ht₃ : t₃.fresh = third := by
    simp only [List.map, List.cons.injEq] at hfresh
    exact hfresh.2.2.1
  have hcall : s.Calls t₃.fresh t₃.command false t₃.history (.ask (.findUser u.id)) := by
    rw [ht₃, hcommand, hhistory]
    exact .findOwner hid (Service.isPresentedBy_of_ofText hc.device rfl) hlive
  let st := (Store.ofUser u).putToken token
  have huser : st.users[u.id]? = some u := by
    simp [st, Store.ofUser, Store.putToken]
  have hren : t₃.Renews s st u.id := .finding hrest hcall huser (ht₃ ▸ haccess)
  have howner : token.owner = u.id := rfl
  have hheld : st.held u.id = 1 := by
    rw [Store.held_putToken (Store.tokens_ofUser u _), Store.held_ofUser, if_pos howner]
  have hrenewals : 0 < renewals s ⟨⟨st, none⟩, [t₁, t₂, t₃, t₄]⟩ u.id :=
    List.countP_pos_iff.2 ⟨t₃, by simp, decide_eq_true hren⟩
  have hsessions : 2 ≤ st.held u.id + renewals s ⟨⟨st, none⟩, [t₁, t₂, t₃, t₄]⟩ u.id := by
    omega
  exact ⟨_, h, hfresh, hsessions⟩

/-! ### When the quota holds -/

/-- If no user has more sessions than the quota allows, no user holds more tokens. -/
theorem IsRegular.held_le_quota (ha : a.IsRegular s) (hq : 1 ≤ s.policy.quota)
    (hle : ∀ id, a.sessions s id ≤ s.policy.quota) (id : UserId) :
    a.vault.store.held id ≤ s.policy.quota := by
  have hsettled : a.vault.settled.held id ≤ s.policy.quota :=
    Nat.le_trans (Nat.le_add_right _ _) (hle id)
  exact Nat.le_trans (ha.held_le_max hq id) (Nat.max_le.2 ⟨Nat.le_refl _, hsettled⟩)

theorem IsRegular.sessions_le_of_stepsOn (ha : a.IsRegular s)
    (h : Relation.ReflTransGen (StepsOn s mayFail) a b) (hf : b.HasFreshIds) (id : UserId) :
    b.sessions s id ≤ a.sessions s id := by
  induction h with
  | refl => exact Nat.le_refl _
  | tail hr h ih =>
    have hf' := hf.of_step h.1
    have hreg := Reaches.isRegular (reaches_of_stepsOn hr) ha hf'
    exact Nat.le_trans (hreg.sessions_le h.1 h.2) (ih hf')

/-- A step that leaves every user with at most as many sessions as the quota allows, if it is the
commit of a login. -/
def KeepsQuota (s : Service) (mayFail : Bool) (a b : System) : Prop :=
  Step s mayFail a b ∧ (b.logins = a.logins ∨ ∀ id, b.sessions s id ≤ s.policy.quota)

theorem sessions_initial (id : UserId) : initial.sessions s id = 0 :=
  Nat.add_eq_zero_iff.2 ⟨Store.held_empty id, rfl⟩

theorem sessions_le_of_keepsQuota (h : Relation.ReflTransGen (KeepsQuota s mayFail) initial a)
    (hf : a.HasFreshIds) : a.IsRegular s ∧ ∀ id, a.sessions s id ≤ s.policy.quota := by
  induction h with
  | refl =>
    exact ⟨isRegular_initial, fun id =>
      Nat.le_trans (Nat.le_of_eq (sessions_initial id)) (Nat.zero_le _)⟩
  | tail _ hstep ih =>
    obtain ⟨hstep, hkeeps⟩ := hstep
    obtain ⟨hreg, hle⟩ := ih (hf.of_step hstep)
    refine ⟨hreg.step hstep hf, fun id => ?_⟩
    rcases hkeeps with hlogins | hkeeps
    · exact Nat.le_trans (hreg.sessions_le hstep hlogins) (hle id)
    · exact hkeeps id

/-- The quota bounds the tokens of every user in all states of a run in which every login leaves at
most as many sessions as it allows. That is also necessary: a state goes on, without a further
login, only to states that keep to the quota exactly if nobody has more sessions in it. -/
theorem quota_bounds_exactly (hq : 1 ≤ s.policy.quota) (mayFail : Bool) :
    (∀ a, Relation.ReflTransGen (KeepsQuota s mayFail) initial a → a.HasFreshIds →
      ∀ id, a.vault.store.held id ≤ s.policy.quota) ∧
    ∀ a, initial.Reaches s mayFail a → a.HasFreshIds →
      ((∀ b, Relation.ReflTransGen (StepsOn s mayFail) a b → b.HasFreshIds →
        ∀ id, b.vault.store.held id ≤ s.policy.quota) ↔
          ∀ id, a.sessions s id ≤ s.policy.quota) := by
  refine ⟨fun a h hf id => ?_, fun a h hf => ⟨fun hheld id => ?_, fun hle b hb hbf id => ?_⟩⟩
  · obtain ⟨hreg, hle⟩ := sessions_le_of_keepsQuota h hf
    exact hreg.held_le_quota hq hle id
  · have hreg := Reaches.isRegular h isRegular_initial hf
    obtain ⟨b, hb, hbf, hheld'⟩ := hreg.exists_held_eq_sessions mayFail id
    rw [← hheld']
    exact hheld b hb hbf id
  · have hreg := Reaches.isRegular h isRegular_initial hf
    have hreg' := Reaches.isRegular (reaches_of_stepsOn hb) hreg hbf
    exact hreg'.held_le_quota hq
      (fun id => Nat.le_trans (hreg.sessions_le_of_stepsOn hb hbf id) (hle id)) id

/-- With a quota of one token, a user gets two of them. -/
theorem quota_bounds_exactly_least : ∃ a b id, initial.Reaches .least false a ∧
    Relation.ReflTransGen (StepsOn .least false) a b ∧ b.HasFreshIds ∧
    Service.least.policy.quota < b.vault.store.held id := by
  obtain ⟨a, h, hfresh, hsessions⟩ := exists_two_sessions Service.isUsable_least (Nat.le_refl 1)
    Service.takes_ada (Fresh.length_salt_numbered 1) Fresh.parse?_two (.numbered 3) (.numbered 4)
    (by decide) false
  have hf : a.HasFreshIds := hasFreshIds_of_numbered [1, 2, 3, 4] (by decide) hfresh _
  by_contra hnone
  have hheld : ∀ b, Relation.ReflTransGen (StepsOn .least false) a b → b.HasFreshIds →
      ∀ id, b.vault.store.held id ≤ Service.least.policy.quota := by
    intro b hb hbf id
    by_contra hlt
    exact hnone ⟨a, b, id, h, hb, hbf, Nat.lt_of_not_le hlt⟩
  have hle := ((quota_bounds_exactly (Nat.le_refl 1) false).2 a h hf).1 hheld
  exact absurd (Nat.le_trans hsessions (hle (Fresh.numbered 1).userId)) (by decide)

end System

end SessionAuth
