import SessionAuth.Proofs.Service.Redemption

/-!
# What tasks know

What a task was told of users stays true, and a token that it was told of is the one that was
created under the identifier (`IsInformed`). Within a transaction no user is created, so that users
are the same in both stores of the vault.
-/

namespace SessionAuth

/-- Users are only added, under identifiers that were not in use. -/
theorem Store.users_answer (s : Store) (r : Request) :
    (s.answer r).store.users = s.users ∨
      ∃ u, r = .createUser u ∧ s.users[u.id]? = none ∧
        (s.answer r).store.users = s.users.insert u.id u := by
  cases r with
  | createUser u =>
    simp only [answer, add]
    split
    · rename_i s' hs
      obtain ⟨-, hu, rfl⟩ := addUser_eq_ok_iff.1 hs
      exact .inr ⟨u, rfl, hu, rfl⟩
    · exact .inl rfl
  | createToken t =>
    simp only [answer, add]
    split
    · rename_i s' hs
      obtain ⟨-, -, rfl⟩ := addToken_eq_ok_iff.1 hs
      exact .inl rfl
    · exact .inl rfl
  | deleteToken id =>
    simp only [answer]
    split <;> exact .inl rfl
  | findUserByEmail | findUser | findToken | tokensOf | deleteTokensOf | deleteExpired =>
    exact .inl rfl

theorem Store.user?_answer {s : Store} {id : UserId} {u : User} (h : s.users[id]? = some u)
    (r : Request) : (s.answer r).store.users[id]? = some u := by
  rcases s.users_answer r with heq | ⟨u', -, hnone, heq⟩
  · rw [heq, h]
  · rw [heq, Std.ExtTreeMap.getElem?_insert]
    split_ifs with hid
    · rw [Std.compare_eq_iff_eq] at hid
      rw [hid, h] at hnone
      cases hnone
    · exact h

/-- A user is in the store after a request only if the user was there before or has been created. -/
theorem Store.user_of_answer {st : Store} {r : Request} {id : UserId} {u : User}
    (h : (st.answer r).store.users[id]? = some u) :
    st.users[id]? = some u ∨
      u.id = id ∧ (⟨.ask r, (st.answer r).answer⟩ : Exchange) = ⟨.ask (.createUser u), .ok ()⟩ := by
  rcases st.users_answer r with heq | ⟨w, rfl, hnone, heq⟩
  · rw [heq] at h
    exact .inl h
  rw [heq, Std.ExtTreeMap.getElem?_insert] at h
  split_ifs at h with hid
  · cases h
    refine .inr ⟨Std.compare_eq_iff_eq.1 hid, ?_⟩
    simp only [answer, add] at heq ⊢
    split
    · rfl
    next hadd =>
      rw [hadd] at heq
      have hinsert := congrArg (fun users => users[u.id]?) heq
      simp [hnone] at hinsert
  · exact .inl h

namespace Vault

variable {v w : Vault} {isInside : Bool} {c : Call} {x : Except Failure c.Answer}

/-- A user stays. -/
theorem Turn.user? (h : Turn v isInside c x w) (hv : v.store.users = v.settled.users) {id : UserId}
    {u : User} (hu : v.store.users[id]? = some u) : w.store.users[id]? = some u := by
  cases h with
  | outside | inside => exact Store.user?_answer hu _
  | begin | commit | commitOutside | rollbackOutside => exact hu
  | rollback v =>
    rw [hv] at hu
    exact hu
  | failed v isInside c f =>
    rcases afterFailure_eq v isInside c with h | ⟨-, h⟩
    · rw [h]
      exact hu
    · rw [h]
      rw [hv] at hu
      exact hu

/-- If no user is created within a transaction, users are the same in both stores. -/
theorem Turn.users_eq (h : Turn v isInside c x w) (hs : v.IsSound)
    (hv : v.store.users = v.settled.users)
    (hc : isInside = true → ∀ u, c ≠ .ask (.createUser u)) : w.store.users = w.settled.users := by
  cases h with
  | outside | begin | commit | rollback => rfl
  | inside s journal r =>
    rw [settled_inside hs.store, ← hv]
    rcases s.users_answer r with heq | ⟨u, rfl, -⟩
    · exact heq
    · exact absurd rfl (hc rfl u)
  | commitOutside | rollbackOutside => exact hv
  | failed v isInside c f =>
    rcases afterFailure_eq v isInside c with h | ⟨-, h⟩
    · rw [h]
      exact hv
    · rw [h]
      rfl

/-- A request that is answered without a failure is answered by the store. -/
theorem Turn.answer_eq (h : Turn v isInside c x w) {r : Request} {y : r.Answer}
    (he : (⟨.ask r, .ok y⟩ : Exchange) = ⟨c, x⟩) : (v.store.answer r).answer = .ok y := by
  cases h with
  | outside s _ r' | inside s _ r' =>
    simp only [Exchange.mk.injEq, Call.ask.injEq] at he
    obtain ⟨rfl, hx⟩ := he
    exact (eq_of_heq hx).symm
  | begin | commit | rollback | commitOutside | rollbackOutside | failed => cases he

/-- The owner of a token that is created is a user. -/
theorem Turn.owner_mem (h : Turn v isInside c x w) {t : RefreshToken}
    (he : Exchange.creation t = ⟨c, x⟩) : t.owner ∈ v.store.users := by
  have hanswer := h.answer_eq he
  simp only [Store.answer, Store.add] at hanswer
  split at hanswer
  · rename_i s' hs
    exact (Store.addToken_eq_ok_iff.1 hs).1
  · cases hanswer

/-- A user is in the vault after a turn only if the user was there before or has been created. -/
theorem Turn.user_created (h : Turn v isInside c x w) (hv : v.store.users = v.settled.users)
    {id : UserId} {u : User} (hu : w.store.users[id]? = some u) :
    v.store.users[id]? = some u ∨ (⟨c, x⟩ : Exchange) = ⟨.ask (.createUser u), .ok ()⟩ := by
  cases h with
  | outside | inside => exact (Store.user_of_answer hu).imp_right And.right
  | begin | commit | commitOutside | rollbackOutside => exact .inl hu
  | rollback v =>
    rw [hv]
    exact .inl hu
  | failed v isInside c f =>
    rcases afterFailure_eq v isInside c with h | ⟨-, h⟩
    · rw [h] at hu
      exact .inl hu
    · rw [h] at hu
      rw [hv]
      exact .inl hu

end Vault

namespace System

variable {s : Service} {mayFail : Bool} {a b : System}

/-- Users are the same in both stores, and what tasks were told of users and tokens is true: the
owner of each token that was created is a user, a token that was found is one that was created, and
a user who was found is still the same. -/
structure IsInformed (a : System) : Prop where
  users_eq : a.vault.store.users = a.vault.settled.users
  owner : ∀ token, a.Knows (.creation token) → token.owner ∈ a.vault.store.users
  token : ∀ id token, a.Knows ⟨.ask (.findToken id), .ok (some token)⟩ →
    token.id = id ∧ a.Knows (.creation token)
  user : ∀ id u, a.Knows ⟨.ask (.findUser id), .ok (some u)⟩ → a.vault.store.users[id]? = some u

theorem isInformed_initial : initial.IsInformed where
  users_eq := rfl
  owner _ h := absurd h (not_knows_initial _)
  token _ _ h := absurd h (not_knows_initial _)
  user _ _ h := absurd h (not_knows_initial _)

theorem mem_users_iff {st : Store} {id : UserId} : id ∈ st.users ↔ ∃ u, st.users[id]? = some u := by
  rw [Std.ExtTreeMap.mem_iff_isSome_getElem?, Option.isSome_iff_exists]

/-- A user stays, whatever happens. -/
theorem Step.user? (h : Step s mayFail a b) (hconf : a.Conforms s)
    (ha : a.vault.store.users = a.vault.settled.users) {id : UserId} {u : User}
    (hu : a.vault.store.users[id]? = some u) : b.vault.store.users[id]? = some u := by
  rcases h.told_or_quiet hconf with ⟨-, hv | hv⟩ | ⟨t, ht, c, x, hc, hturn, hknows⟩
  · rw [hv]
    exact hu
  · rw [hv]
    rw [ha] at hu
    exact hu
  · exact hturn.user? ha hu

theorem IsInformed.user?_of_step (ha : a.IsInformed) (h : Step s mayFail a b)
    (hconf : a.Conforms s) {id : UserId} {u : User} (hu : a.vault.store.users[id]? = some u) :
    b.vault.store.users[id]? = some u := h.user? hconf ha.users_eq hu

/-- Users are the same in both stores, whatever happens. -/
theorem Step.users_eq (h : Step s mayFail a b) (hconf : a.Conforms s) (hs : a.vault.IsSound)
    (ha : a.vault.store.users = a.vault.settled.users) :
    b.vault.store.users = b.vault.settled.users := by
  rcases h.told_or_quiet hconf with ⟨-, hv | hv⟩ | ⟨t, ht, c, x, hc, hturn, hknows⟩
  · rw [hv]
    exact ha
  · rw [hv]
    rfl
  · refine hturn.users_eq hs ha fun hi u hu => ?_
    subst hu
    rw [hi] at hc
    exact hc.not_createUser

/-- A user is there after a step only if the user was there before or has been created. -/
theorem Step.user_created (h : Step s mayFail a b) (hconf : a.Conforms s)
    (ha : a.vault.store.users = a.vault.settled.users) {id : UserId} {u : User}
    (hu : b.vault.store.users[id]? = some u) :
    a.vault.store.users[id]? = some u ∨ b.Knows ⟨.ask (.createUser u), .ok ()⟩ := by
  rcases h.told_or_quiet hconf with ⟨-, hv | hv⟩ | ⟨t, ht, c, x, hc, hturn, hknows⟩
  · rw [hv] at hu
    exact .inl hu
  · rw [hv] at hu
    rw [ha]
    exact .inl hu
  · exact (hturn.user_created ha hu).imp_right fun he => (hknows _).2 (.inr he.symm)

/-- Nothing that tasks know changes when no call is answered, or a transaction is dropped. -/
theorem IsInformed.of_quiet (ha : a.IsInformed) (hknows : ∀ e, b.Knows e ↔ a.Knows e)
    (hv : b.vault = a.vault ∨ b.vault = a.vault.drop) : b.IsInformed := by
  have husers : b.vault.store.users = a.vault.store.users := by
    rcases hv with hv | hv
    · rw [hv]
    · rw [hv, ha.users_eq]
      rfl
  refine ⟨?_, fun token hk => ?_, fun id token hk => ?_, fun id u hk => ?_⟩
  · rcases hv with hv | hv
    · rw [hv]
      exact ha.users_eq
    · rw [hv]
      rfl
  · rw [husers]
    exact ha.owner token ((hknows _).1 hk)
  · rw [hknows] at hk ⊢
    exact ha.token id token hk
  · rw [husers]
    exact ha.user id u ((hknows _).1 hk)

theorem IsInformed.step (ha : a.IsInformed) (h : Step s mayFail a b) (hconf : a.Conforms s)
    (hr : a.RedeemsOnce) : b.IsInformed := by
  rcases h.told_or_quiet hconf with ⟨hknows, hv⟩ | ⟨t, ht, c, x, hc, hturn, hknows⟩
  · exact ha.of_quiet hknows hv
  have hmem : ∀ id, id ∈ a.vault.store.users → id ∈ b.vault.store.users := by
    intro id hid
    obtain ⟨u, hu⟩ := mem_users_iff.1 hid
    exact mem_users_iff.2 ⟨u, ha.user?_of_step h hconf hu⟩
  refine ⟨h.users_eq hconf hr.isSound ha.users_eq, fun token hk => ?_, fun id token hk => ?_,
    fun id u hk => ?_⟩
  · rcases (hknows _).1 hk with hold | hnew
    · exact hmem _ (ha.owner token hold)
    · exact hmem _ (hturn.owner_mem hnew)
  · rw [hknows]
    rcases (hknows _).1 hk with hold | hnew
    · exact (ha.token id token hold).imp_right .inl
    · -- the task is told of a token in the store now, and tokens there were created
      have htoken : a.vault.store.tokens[id]? = some token := Except.ok.inj (hturn.answer_eq hnew)
      have hid := hr.isSound.store.token_id id token htoken
      subst hid
      exact ⟨rfl, .inl (hr.created token (.inl htoken))⟩
  · refine hturn.user? ha.users_eq ?_
    rcases (hknows _).1 hk with hold | hnew
    · exact ha.user id u hold
    · exact Except.ok.inj (hturn.answer_eq hnew)

theorem Reaches.isInformed (h : initial.Reaches s mayFail a) (hf : a.HasFreshIds) :
    a.IsInformed := by
  induction h with
  | refl => exact isInformed_initial
  | tail hr h ih =>
    have hf' := hf.of_step h
    exact (ih hf').step h (Reaches.conforms hr) (Reaches.redeemsOnce hr hf')

/-- Under one identifier only one token is ever created. -/
theorem Conforms.creation_unique (hconf : a.Conforms s) (hf : a.HasFreshIds)
    {token token' : RefreshToken} (hk : a.Knows (.creation token))
    (hk' : a.Knows (.creation token')) (hid : token.id = token'.id) : token = token' := by
  obtain ⟨t, ht, hh⟩ := hk
  obtain ⟨u, hu, hh'⟩ := hk'
  have heq := hf.eq_of_tokenId ht hu
    (by rw [← hconf.tokenId_eq ht hh, hid, hconf.tokenId_eq hu hh'])
  subst heq
  exact (hconf t ht).creation_unique hh hh'

end System

end SessionAuth
