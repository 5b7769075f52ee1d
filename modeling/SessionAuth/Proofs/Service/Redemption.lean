import SessionAuth.Proofs.Service.Scenarios

/-!
# Redeeming a refresh token

A refresh token is redeemed at most once, however the operations are interleaved. The invariant
(`RedeemsOnce`) ties three things together: what the vault holds, in its store or in the one that it
returns to when the open transaction is dropped; what was created; and what was deleted outside of a
transaction. A token in either store was created by a task, and one that was deleted outside of a
transaction is in neither, so that no rollback brings it back. As new identifiers are never used
twice, it is not created again either.
-/

namespace SessionAuth

/-- The text that a refresh presents names the token. -/
def Command.Presents (c : Command) (id : RefreshTokenId) : Prop :=
  ∃ text device, c = .refresh text device ∧ RefreshTokenId.parse? text = some id

/-- The task is a refresh that has got past the deletion of the token that it presents. -/
def Task.HasClaimed (t : Task) (id : RefreshTokenId) : Prop :=
  t.command.Presents id ∧ .deletion id ∈ t.history

namespace System

variable {s : Service} {mayFail : Bool} {a b : System}

/-! ### The invariant -/

/-- Every token in the vault was created, and every token that was deleted outside of a transaction
was created and is not in the vault. -/
structure RedeemsOnce (a : System) : Prop where
  isSound : a.vault.IsSound
  created : ∀ token, a.vault.Holds token → a.Knows (.creation token)
  deleted : ∀ id, a.Knows (.deletion id) →
    (∃ token, token.id = id ∧ a.Knows (.creation token)) ∧
      ∀ token, a.vault.Holds token → token.id ≠ id

theorem redeemsOnce_initial : initial.RedeemsOnce where
  isSound := Vault.isSound_empty
  created token h := by
    rw [initial, Vault.empty, Vault.holds_closed_iff] at h
    simp [Store.empty] at h
  deleted id h := absurd h (not_knows_initial _)

/-- A task creates tokens under its own new identifier. -/
theorem Conforms.tokenId_eq (ha : a.Conforms s) {t : Task} (ht : t ∈ a.tasks)
    {token : RefreshToken} (h : .creation token ∈ t.history) : token.id = t.fresh.tokenId := by
  obtain ⟨before, later, hh⟩ := List.append_of_mem h
  obtain ⟨isInside, hc⟩ := (ha t ht).history before _ later hh
  exact hc.createToken.1

/-- An identifier under which a token was created is not used for a second one. -/
theorem Conforms.not_recreated (ha : a.Conforms s) (hf : a.HasFreshIds) {t : Task}
    (ht : t ∈ a.tasks) {isInside : Bool} {token token' : RefreshToken}
    (hc : s.Calls t.fresh t.command isInside t.history (.ask (.createToken token)))
    (hk : a.Knows (.creation token')) : token'.id ≠ token.id := by
  intro heq
  obtain ⟨u, hu, hh⟩ := hk
  have hid : u.fresh.tokenId = t.fresh.tokenId := by
    rw [← ha.tokenId_eq hu hh, heq, hc.createToken.1]
  rw [hf.eq_of_tokenId hu ht hid] at hh
  exact hc.createToken.2 _ _ hh

/-- Nothing is brought back when no call is answered, or a transaction is dropped. -/
theorem RedeemsOnce.of_quiet (ha : a.RedeemsOnce) (hknows : ∀ e, b.Knows e ↔ a.Knows e)
    (hv : b.vault = a.vault ∨ b.vault = a.vault.drop) : b.RedeemsOnce := by
  have hholds : ∀ token, b.vault.Holds token → a.vault.Holds token := by
    intro token hb
    rcases hv with hv | hv
    · rwa [hv] at hb
    · rw [hv] at hb
      exact hb.of_drop
  refine ⟨?_, fun token hb => ?_, fun id hid => ?_⟩
  · rcases hv with hv | hv
    · rw [hv]
      exact ha.isSound
    · rw [hv]
      exact ha.isSound.drop
  · rw [hknows]
    exact ha.created token (hholds token hb)
  · obtain ⟨⟨token, rfl, hk⟩, hgone⟩ := ha.deleted id ((hknows _).1 hid)
    exact ⟨⟨token, rfl, (hknows _).2 hk⟩, fun token' hb => hgone token' (hholds token' hb)⟩

theorem RedeemsOnce.step (ha : a.RedeemsOnce) (h : Step s mayFail a b) (hconf : a.Conforms s)
    (hf : b.HasFreshIds) : b.RedeemsOnce := by
  rcases h.told_or_quiet hconf with ⟨hknows, hv⟩ | ⟨t, ht, c, x, hc, hturn, hknows⟩
  · exact ha.of_quiet hknows hv
  refine ⟨hturn.isSound ha.isSound, fun token hb => ?_, fun id hid => ?_⟩
  · rw [hknows]
    rcases hturn.holds ha.isSound hb with hold | hnew
    · exact .inl (ha.created token hold)
    · exact .inr hnew.symm
  rcases (hknows _).1 hid with hid | hnew
  · -- the token was deleted before, and the task does not create it anew
    obtain ⟨⟨token, rfl, hk⟩, hgone⟩ := ha.deleted id hid
    refine ⟨⟨token, rfl, (hknows _).2 (.inl hk)⟩, fun token' hb => ?_⟩
    rcases hturn.holds ha.isSound hb with hold | hnew
    · exact hgone token' hold
    · cases hnew
      exact (hconf.not_recreated (hf.of_step h) ht hc hk).symm
  · -- the task deletes the token now
    cases hnew
    rw [hc.deleteToken] at hturn
    obtain ⟨⟨token, hold, rfl⟩, hgone⟩ := hturn.deleteToken ha.isSound
    exact ⟨⟨token, rfl, (hknows _).2 (.inl (ha.created token hold))⟩, hgone⟩

theorem Reaches.redeemsOnce (h : initial.Reaches s mayFail a) (hf : a.HasFreshIds) :
    a.RedeemsOnce := by
  induction h with
  | refl => exact redeemsOnce_initial
  | tail hr h ih => exact (ih (hf.of_step h)).step h (Reaches.conforms hr) hf

/-! ### One deletion only -/

/-- A token that is being deleted outside of a transaction was not deleted so before. -/
theorem RedeemsOnce.not_deleted (ha : a.RedeemsOnce) {v : Vault} {id : RefreshTokenId}
    (h : Vault.Turn a.vault false (.ask (.deleteToken id)) (.ok true) v) :
    ¬ a.Knows (.deletion id) := by
  intro hk
  obtain ⟨⟨token, hold, hid⟩, -⟩ := h.deleteToken ha.isSound
  exact (ha.deleted id hk).2 token hold hid

/-- No two tasks were told what clashes. -/
def TellsApart (clash : Exchange → Exchange → Prop) (a : System) : Prop :=
  a.tasks.Pairwise fun t u => ∀ e ∈ t.history, ∀ f ∈ u.history, ¬ clash e f

theorem TellsApart.step {clash : Exchange → Exchange → Prop} (hp : a.TellsApart clash)
    (h : Step s mayFail a b) (hconf : a.Conforms s)
    (hnew : ∀ t ∈ a.tasks, ∀ c x, s.Calls t.fresh t.command t.isInside t.history c →
      a.vault.Turn t.isInside c x b.vault → ∀ e, a.Knows e → ¬ clash ⟨c, x⟩ e ∧ ¬ clash e ⟨c, x⟩) :
    b.TellsApart clash := by
  unfold TellsApart at hp ⊢
  cases h with
  | arrival v tasks command fresh =>
    refine List.pairwise_append.2 ⟨hp, List.pairwise_singleton _ _, fun t _ u hu e _ f hf => ?_⟩
    rw [List.mem_singleton.1 hu] at hf
    cases hf
  | @progress before after v v' t t' h =>
    have hmove : ∀ e ∈ t'.history, e ∈ t.history ∨
        ∀ u ∈ before ++ t :: after, ∀ f ∈ u.history, ¬ clash e f ∧ ¬ clash f e := by
      intro e he
      cases h.move (hconf t (by simp)) with
      | logged | abandoned => exact .inl he
      | told next hr hc hturn =>
        rw [Task.told, List.mem_append, List.mem_singleton] at he
        refine he.imp_right fun heq u hu f hf => ?_
        subst heq
        exact hnew t (by simp) _ _ hc hturn f ⟨u, hu, hf⟩
    rw [List.pairwise_append, List.pairwise_cons] at hp ⊢
    obtain ⟨hbefore, ⟨ht, hafter⟩, hcross⟩ := hp
    refine ⟨hbefore, ⟨fun u hu e he f hf => ?_, hafter⟩, fun u hu w hw f hf e he => ?_⟩
    · rcases hmove e he with hold | hnone
      · exact ht u hu e hold f hf
      · exact (hnone u (by simp [hu]) f hf).1
    · rcases List.mem_cons.1 hw with rfl | hw
      · rcases hmove e he with hold | hnone
        · exact hcross u hu t (by simp) f hf e hold
        · exact (hnone u (by simp [hu]) f hf).2
      · exact hcross u hu w (by simp [hw]) f hf e he

/-- Two tasks that were told what clashes are one. -/
theorem TellsApart.position_eq {clash : Exchange → Exchange → Prop} (h : a.TellsApart clash)
    {i j : Nat} {t u : Task} (ht : a.tasks[i]? = some t) (hu : a.tasks[j]? = some u)
    {e f : Exchange} (he : e ∈ t.history) (hf : f ∈ u.history) (hef : clash e f)
    (hfe : clash f e) : i = j := by
  obtain ⟨hi, rfl⟩ := List.getElem?_eq_some_iff.1 ht
  obtain ⟨hj, rfl⟩ := List.getElem?_eq_some_iff.1 hu
  have hapart := List.pairwise_iff_getElem.1 h
  rcases Nat.lt_trichotomy i j with hlt | heq | hgt
  · exact absurd hef (hapart i j hi hj hlt e he f hf)
  · exact heq
  · exact absurd hfe (hapart j i hj hi hgt f hf e he)

/-- No two tasks were told that they deleted the same token. -/
def DeletesApart (a : System) : Prop :=
  a.tasks.Pairwise fun t u => ∀ id, .deletion id ∈ t.history → .deletion id ∉ u.history

/-- Two deletions of one token. -/
def IsSameDeletion (e f : Exchange) : Prop := ∃ id, e = .deletion id ∧ f = .deletion id

theorem deletesApart_iff : a.DeletesApart ↔ a.TellsApart IsSameDeletion := by
  constructor
  · refine fun h => h.imp fun {t u} hapart e he f hf => ?_
    rintro ⟨id, rfl, rfl⟩
    exact hapart id he hf
  · exact fun h => h.imp fun {t u} hapart id ht hu => hapart _ ht _ hu ⟨id, rfl, rfl⟩

theorem DeletesApart.step (hp : a.DeletesApart) (h : Step s mayFail a b) (hconf : a.Conforms s)
    (ha : a.RedeemsOnce) : b.DeletesApart := by
  rw [deletesApart_iff] at hp ⊢
  refine hp.step h hconf fun t _ c x hc hturn e hk => ⟨?_, ?_⟩
  all_goals
    rintro ⟨id, h₁, h₂⟩
    cases h₁
    cases h₂
    rw [hc.deleteToken] at hturn
    exact ha.not_deleted hturn hk

theorem Reaches.deletesApart (h : initial.Reaches s mayFail a) (hf : a.HasFreshIds) :
    a.DeletesApart := by
  induction h with
  | refl => exact .nil
  | tail hr h ih =>
    have hf' := hf.of_step h
    exact (ih hf').step h (Reaches.conforms hr) (Reaches.redeemsOnce hr hf')

theorem DeletesApart.eq_of_deletion (h : a.DeletesApart) {i j : Nat} {t u : Task}
    (ht : a.tasks[i]? = some t) (hu : a.tasks[j]? = some u) {id : RefreshTokenId}
    (htd : .deletion id ∈ t.history) (hud : .deletion id ∈ u.history) : i = j :=
  (deletesApart_iff.1 h).position_eq ht hu htd hud ⟨id, rfl, rfl⟩ ⟨id, rfl, rfl⟩

/-- What a task was told stays known. -/
theorem Step.knows (h : Step s mayFail a b) (hconf : a.Conforms s) {e : Exchange}
    (hk : a.Knows e) : b.Knows e := by
  rcases h.told_or_quiet hconf with ⟨hknows, -⟩ | ⟨t, ht, c, x, hc, hturn, hknows⟩
  · exact (hknows e).2 hk
  · exact (hknows e).2 (.inl hk)

theorem Reaches.knows (h : a.Reaches s mayFail b) (ha : initial.Reaches s mayFail a)
    {e : Exchange} (hk : a.Knows e) : b.Knows e := by
  induction h with
  | refl => exact hk
  | tail hr h ih => exact h.knows (Reaches.conforms (ha.trans hr)) ih

/-- A refresh that succeeds has claimed its token. -/
theorem Conforms.hasClaimed (ha : a.Conforms s) {t : Task} (ht : t ∈ a.tasks)
    {id : RefreshTokenId} (hp : t.command.Presents id) {o : Outcome} (ho : t.EndsWith (.ok o)) :
    t.HasClaimed id := by
  obtain ⟨text, device, hc, hid⟩ := hp
  have hends := ((ha t ht).ends ho).2
  rw [hc] at hends
  obtain ⟨id', hid', hh⟩ := hends.claimed
  rw [hid] at hid'
  cases hid'
  exact ⟨⟨text, device, hc, hid⟩, hh⟩

/-- A refresh token is redeemed at most once. However any number of operations are interleaved, and
whatever becomes of their transactions, at most one refresh that presents an identifier gets past
the deletion of the token, at most one succeeds, and once one has got past it, no later state has a
token under the identifier. -/
theorem redeemed_at_most_once (h : initial.Reaches s mayFail a) (hf : a.HasFreshIds)
    (id : RefreshTokenId) :
    (∀ (i j : Nat) (t u : Task), a.tasks[i]? = some t → a.tasks[j]? = some u →
      t.HasClaimed id → u.HasClaimed id → i = j) ∧
    (∀ (i j : Nat) (t u : Task) (o o' : Outcome), a.tasks[i]? = some t → a.tasks[j]? = some u →
      t.command.Presents id → u.command.Presents id →
      t.EndsWith (.ok o) → u.EndsWith (.ok o') → i = j) ∧
    ∀ t ∈ a.tasks, t.HasClaimed id → ∀ b, a.Reaches s mayFail b → b.HasFreshIds →
      b.vault.store.tokens[id]? = none := by
  have hapart := Reaches.deletesApart h hf
  have hconf := Reaches.conforms h
  refine ⟨?_, ?_, ?_⟩
  · intro i j t u ht hu htc huc
    exact hapart.eq_of_deletion ht hu htc.2 huc.2
  · intro i j t u o o' ht hu htp hup hto huo
    have htc := hconf.hasClaimed (List.mem_of_getElem? ht) htp hto
    have huc := hconf.hasClaimed (List.mem_of_getElem? hu) hup huo
    exact hapart.eq_of_deletion ht hu htc.2 huc.2
  · intro t ht htc b hab hb
    have hk : b.Knows (.deletion id) := Reaches.knows hab h ⟨t, ht, htc.2⟩
    have hredeems := Reaches.redeemsOnce (h.trans hab) hb
    by_contra hne
    obtain ⟨token, htoken⟩ := Option.ne_none_iff_exists'.1 hne
    have hid := hredeems.isSound.store.token_id id token htoken
    subst hid
    exact (hredeems.deleted _ hk).2 token (.inl htoken) rfl

/-- The token of the second operation, claimed by the third. -/
theorem redeemed_at_most_once_second : ∃ a t, initial.Reaches .least true a ∧ a.HasFreshIds ∧
    t ∈ a.tasks ∧ t.HasClaimed (Fresh.numbered 2).tokenId ∧
    ∀ b, a.Reaches .least true b → b.HasFreshIds →
      b.vault.store.tokens[(Fresh.numbered 2).tokenId]? = none := by
  obtain ⟨t₁, t₂, t₃, h, hfresh, hcommand, hhistory, -⟩ :=
    exists_claimed Service.isUsable_least (Nat.le_refl 1) Service.takes_ada
      (Fresh.length_salt_numbered 1) Fresh.parse?_two (.numbered 3) true
  have hf := hasFreshIds_of_numbered [1, 2, 3] (by decide) hfresh
  have hclaimed : t₃.HasClaimed (Fresh.numbered 2).tokenId :=
    ⟨⟨_, _, hcommand, Fresh.parse?_two⟩, by simp [hhistory, Service.claim]⟩
  obtain ⟨-, -, hgone⟩ := redeemed_at_most_once h (hf _) (Fresh.numbered 2).tokenId
  exact ⟨_, t₃, h, hf _, by simp, hclaimed, hgone t₃ (by simp) hclaimed⟩

end System

end SessionAuth
