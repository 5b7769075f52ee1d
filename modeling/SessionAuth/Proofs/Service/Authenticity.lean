import SessionAuth.Proofs.Service.Admission
import SessionAuth.Proofs.Service.Scenarios

/-!
# Sessions are authentic

Every session goes back to one login, through refreshes that each redeemed the token of the one
before. The login verified the password of a user, who owns all tokens of the session and is the
subject of all its access tokens. All of its tokens are bound to the device of the login, and every
refresh named exactly this device. At most one token of the session is stored at a time.
-/

namespace SessionAuth

namespace System

variable {s : Service} {mayFail : Bool} {a b : System} {chain : List Nat} {m n : Nat}
  {id id' : RefreshTokenId}

/-! ### One user, one device -/

/-- What a refresh is given is of the user and the device of the session that it continues. -/
theorem IsRegular.givesOn_of_continues (ha : a.IsRegular s) (hn : a.Continues m n) {t : Task}
    {u : User} {device : String} {session : Session} (ht : a.tasks[m]? = some t)
    (hg : t.GivesOn s u device session) (hu : a.vault.store.users[u.id]? = some u) :
    ∃ t session, a.tasks[n]? = some t ∧ t.GivesOn s u device session := by
  obtain ⟨id, t', next, hissues, ht', ⟨text, device', hc, hid⟩, hg'⟩ := hn
  have hmem := List.mem_of_getElem? ht'
  obtain ⟨id', token, u', hid', hdevice, hfound, howner, hgives⟩ :=
    (ha.conforms t' hmem).of_refresh hc hg'
  rw [hid] at hid'
  cases hid'
  -- the token that was found is the one that was created for the session
  have hsession : session.tokenId = id := Issues.id_eq ⟨t, session, ht, hg.gives, rfl⟩ hissues
  obtain ⟨hsame, hcreated⟩ := ha.isInformed.token id token ⟨t', hmem, hfound⟩
  have htoken : token = s.policy.issue session.tokenId u.id ⟨device⟩ t.fresh.now :=
    ha.conforms.creation_unique ha.hasFreshIds hcreated
      ⟨t, List.mem_of_getElem? ht, hg.created⟩ (hsame.trans hsession.symm)
  subst htoken
  cases hdevice
  have hu' := ha.isInformed.user _ u' ⟨t', hmem, howner⟩
  cases Option.some.inj (hu.symm.trans hu')
  exact ⟨t', next, ht', hgives⟩

/-- All tokens of a session are of the user whom its login verified, on the device of the login. -/
theorem Lineage.exists_user (hl : a.Lineage chain) (h : initial.Reaches s mayFail a)
    (hf : a.HasFreshIds) : ∃ first t u device, chain.getLast? = some first ∧
      a.tasks[first]? = some t ∧ t.Verifies s u device ∧ a.vault.store.users[u.id]? = some u ∧
      ∀ n ∈ chain, ∃ t session, a.tasks[n]? = some t ∧ t.GivesOn s u device session := by
  induction hl with
  | @opened n hn =>
    obtain ⟨t, session, text, password, device, ht, hc, hg⟩ := hn
    obtain ⟨u, hverifies, hu, hgives⟩ := h.of_login hf (List.mem_of_getElem? ht) hc hg
    refine ⟨n, t, u, device, rfl, ht, hverifies, hu, fun k hk => ?_⟩
    rw [List.mem_singleton.1 hk]
    exact ⟨t, session, ht, hgives⟩
  | @renewed n m chain hl hn ih =>
    obtain ⟨first, t, u, device, hlast, ht, hverifies, hu, hall⟩ := ih
    refine ⟨first, t, u, device, ?_, ht, hverifies, hu, fun k hk => ?_⟩
    · rw [List.getLast?_cons_cons]
      exact hlast
    · rcases List.mem_cons.1 hk with rfl | hk
      · obtain ⟨t', session, ht', hgives⟩ := hall m List.mem_cons_self
        exact (h.isRegular isRegular_initial hf).givesOn_of_continues hn ht' hgives hu
      · exact hall k hk

/-! ### One token at a time -/

/-- Some task has created a token under the identifier. -/
def HasCreated (a : System) (id : RefreshTokenId) : Prop :=
  ∃ token, token.id = id ∧ a.Knows (.creation token)

/-- Once the token of a refresh is created, the one that it presented is deleted. This is so at the
time of any earlier state too. -/
theorem IsRegular.deleted_of_created (ha : a.IsRegular s) (hb : b.IsRegular s)
    (hba : b.Reaches s mayFail a) (hn : a.Continues m n) (hm : a.Issues m id)
    (hid : a.Issues n id') (hcreated : b.HasCreated id') : b.Knows (.deletion id) := by
  obtain ⟨id₀, t, session, hm', ht, ⟨text, device, hc, hparse⟩, hg⟩ := hn
  cases hm.id_eq hm'
  have hsession : t.fresh.tokenId = id' := by
    rw [← ha.conforms.tokenId_of_gives ht hg]
    exact Issues.id_eq ⟨t, session, ht, hg, rfl⟩ hid
  -- the task that created the token in the earlier state is the refresh
  obtain ⟨token, rfl, t₀, ht₀, hh⟩ := hcreated
  obtain ⟨k, hk⟩ := List.mem_iff_getElem?.1 ht₀
  obtain ⟨t', ht', hbefore⟩ := hba.before hk
  have hfresh : t'.fresh.tokenId = t.fresh.tokenId := by
    rw [hbefore.fresh_eq, ← hb.conforms.tokenId_eq ht₀ hh, hsession]
  cases ha.hasFreshIds.position_eq ht' ht hfresh
  cases Option.some.inj (ht'.symm.trans ht)
  have hc₀ : t₀.command = .refresh text device := hbefore.command_eq.symm.trans hc
  obtain ⟨before, later, hsplit⟩ := List.append_of_mem hh
  obtain ⟨isInside, hcall⟩ := (hb.conforms t₀ ht₀).history before _ later hsplit
  rw [hc₀] at hcall
  refine ⟨t₀, ht₀, ?_⟩
  rw [hsplit]
  refine List.mem_append_left _ ?_
  cases hcall with
  | renew hid' =>
    rw [hparse] at hid'
    cases hid'
    simp [Service.claim]

/-- Once the token of a refresh is created, all earlier tokens of the session are deleted. -/
theorem IsRegular.deleted_of_transGen (ha : a.IsRegular s) (hb : b.IsRegular s)
    (hba : b.Reaches s mayFail a) (hn : Relation.TransGen a.Continues m n) (hm : a.Issues m id)
    (hid : a.Issues n id') (hcreated : b.HasCreated id') : b.Knows (.deletion id) := by
  induction hn using Relation.TransGen.head_induction_on generalizing id with
  | single hn => exact ha.deleted_of_created hb hba hn hm hid hcreated
  | head hmk _ ih =>
    obtain ⟨_, hk⟩ := hmk.issues
    exact ha.deleted_of_created hb hba hmk hm hk (hb.redeemsOnce.deleted _ (ih hk)).1

/-- All of a lineage continues its login. -/
theorem Lineage.reflTransGen (hl : a.Lineage chain) {first : Nat}
    (hfirst : chain.getLast? = some first) (hn : n ∈ chain) :
    Relation.ReflTransGen a.Continues first n := by
  induction hl generalizing n with
  | @opened k h =>
    obtain rfl : k = first := Option.some.inj hfirst
    rw [List.mem_singleton.1 hn]
  | renewed hl hcontinues ih =>
    rw [List.getLast?_cons_cons] at hfirst
    rcases List.mem_cons.1 hn with rfl | hn
    · exact (ih hfirst List.mem_cons_self).tail hcontinues
    · exact ih hfirst hn

/-- Two tokens that go back to one login are not stored at the same time. -/
theorem IsRegular.eq_of_stored (ha : a.IsRegular s) (hapart : a.DeletesApart) (hb : b.IsRegular s)
    (hba : b.Reaches s mayFail a) {first : Nat}
    (hm : Relation.ReflTransGen a.Continues first m)
    (hn : Relation.ReflTransGen a.Continues first n) (hid : a.Issues m id) (hid' : a.Issues n id')
    (hs : id ∈ b.vault.store.tokens) (hs' : id' ∈ b.vault.store.tokens) : id = id' := by
  have created {id : RefreshTokenId} (hs : id ∈ b.vault.store.tokens) :
      ∃ token, token.id = id ∧ b.vault.Holds token := by
    obtain ⟨token, htoken⟩ := Option.isSome_iff_exists.1
      (Std.ExtTreeMap.mem_iff_isSome_getElem?.1 hs)
    have htid := hb.redeemsOnce.isSound.store.token_id id token htoken
    subst htid
    exact ⟨token, rfl, .inl htoken⟩
  -- a token that is stored is not deleted, and so no later one is created
  have apart {m n : Nat} {id id' : RefreshTokenId} (hmn : Relation.TransGen a.Continues m n)
      (hid : a.Issues m id) (hid' : a.Issues n id') (hs : id ∈ b.vault.store.tokens)
      (hs' : id' ∈ b.vault.store.tokens) : False := by
    obtain ⟨token', htid', hholds'⟩ := created hs'
    have hdeleted := ha.deleted_of_transGen hb hba hmn hid hid'
      ⟨token', htid', hb.redeemsOnce.created token' hholds'⟩
    obtain ⟨token, htid, hholds⟩ := created hs
    exact (hb.redeemsOnce.deleted id hdeleted).2 token hholds htid
  have hunique : Relator.RightUnique a.Continues :=
    fun _ _ _ h h' => h.target_eq h' ha.conforms hapart
  rcases Relation.ReflTransGen.total_of_right_unique hunique hm hn with hmn | hnm
  · rcases Relation.reflTransGen_iff_eq_or_transGen.1 hmn with rfl | hmn
    · exact hid.id_eq hid'
    · exact (apart hmn hid hid' hs hs').elim
  · rcases Relation.reflTransGen_iff_eq_or_transGen.1 hnm with rfl | hnm
    · exact hid.id_eq hid'
    · exact (apart hnm hid' hid hs' hs).elim

/-- Sessions are authentic, however operations are interleaved. Every refresh that succeeds goes
back through exactly one chain of refreshes, each of which presented the token that the one before
was given, to a login. The login verified the password of a user, and for all of the chain, tokens
are owned by this user and bound to the device of the login, access tokens are about the user's
address, and refreshes came from just this device. Of all tokens that go back to one login, at most
one is stored, in any state before or after. -/
theorem sessions_authentic (h : initial.Reaches s mayFail a) (hf : a.HasFreshIds) :
    (∀ (n : Nat) (t : Task) (text device : String) (o : Outcome), a.tasks[n]? = some t →
      t.command = .refresh text device → t.Returns (.ok o) →
      ∃! earlier, a.Lineage (n :: earlier)) ∧
    (∀ chain, a.Lineage chain → ∃ first t u device, chain.getLast? = some first ∧
      a.tasks[first]? = some t ∧ t.Verifies s u device ∧ a.vault.store.users[u.id]? = some u ∧
      ∀ n ∈ chain, ∃ t session, a.tasks[n]? = some t ∧ t.GivesOn s u device session) ∧
    ∀ chain chain', a.Lineage chain → a.Lineage chain' → chain.getLast? = chain'.getLast? →
      ∀ b, initial.Reaches s mayFail b → b.HasFreshIds →
        b.Reaches s mayFail a ∨ a.Reaches s mayFail b →
        ∀ m ∈ chain, ∀ n ∈ chain', ∀ id id', a.Issues m id → a.Issues n id' →
          id ∈ b.vault.store.tokens → id' ∈ b.vault.store.tokens → id = id' := by
  have ha := h.isRegular isRegular_initial hf
  refine ⟨fun n t text device o ht hc hr => ?_, fun chain hl => hl.exists_user h hf, ?_⟩
  · have hends := (ha.conforms t (List.mem_of_getElem? ht)).of_returns hr
    rw [hc] at hends
    obtain ⟨session, rfl⟩ : ∃ session, o = .session session := by
      generalize t.history = history at hends
      cases hends with
      | renewed => exact ⟨_, rfl⟩
    obtain ⟨earlier, hl⟩ := ha.conforms.exists_lineage (h.isTraced hf).found ht hr
    exact ⟨earlier, hl, fun _ hl' => hl'.unique hl ha.conforms hf⟩
  · intro chain chain' hl hl' hlast b hb hfb hab m hm n hn id id' hid hid' hs hs'
    have hbr := hb.isRegular isRegular_initial hfb
    obtain ⟨first, t, u, device, hfirst, -⟩ := hl.exists_user h hf
    rcases hab with hba | hab
    · exact ha.eq_of_stored (h.deletesApart hf) hbr hba (hl.reflTransGen hfirst hm)
        (hl'.reflTransGen (hlast ▸ hfirst) hn) hid hid' hs hs'
    · -- what is known of a chain stays known
      have hself : b.Reaches s mayFail b := .refl
      exact hbr.eq_of_stored (hb.deletesApart hfb) hbr hself
        ((hl.reaches hab).reflTransGen hfirst hm)
        ((hl'.reaches hab).reflTransGen (hlast ▸ hfirst) hn) (hid.reaches hab) (hid'.reaches hab)
        hs hs'

/-- A sign-up, a login and a refresh: the refresh goes back to the login alone, and the token of the
refresh is stored, the one of the login is not. -/
theorem sessions_authentic_refreshed : ∃ a t o, initial.Reaches .least true a ∧ a.HasFreshIds ∧
    a.tasks[2]? = some t ∧ t.command.Presents (Fresh.numbered 2).tokenId ∧
    t.Returns (.ok o) ∧ (∃! earlier, a.Lineage (2 :: earlier)) ∧ a.Lineage [2, 1] ∧
    (∃ first t u device, [2, 1].getLast? = some first ∧ a.tasks[first]? = some t ∧
      t.Verifies .least u device ∧ a.vault.store.users[u.id]? = some u ∧
      ∀ n ∈ [2, 1], ∃ t session, a.tasks[n]? = some t ∧ t.GivesOn .least u device session) ∧
    a.Issues 1 (Fresh.numbered 2).tokenId ∧ a.Issues 2 (Fresh.numbered 3).tokenId ∧
    (Fresh.numbered 3).tokenId ∈ a.vault.store.tokens ∧
    (Fresh.numbered 2).tokenId ∉ a.vault.store.tokens := by
  obtain ⟨st, t₁, t₂, t₃, x, y, h, hfresh, hc₂, hg₂, hc₃, hg₃, hstored⟩ :=
    exists_refreshed Service.isUsable_least (Nat.le_refl 1) Service.takes_ada
      (Fresh.length_salt_numbered 1) Fresh.parse?_two (.numbered 3) rfl true
  have hf := hasFreshIds_of_numbered [1, 2, 3] (by decide) hfresh ⟨st, none⟩
  obtain ⟨hchain, huser, hone⟩ := sessions_authentic h hf
  have hconf := Reaches.conforms h
  simp only [List.map, List.cons.injEq, and_true] at hfresh
  obtain ⟨-, hfresh₂, hfresh₃⟩ := hfresh
  have hissues₂ : Issues ⟨⟨st, none⟩, [t₁, t₂, t₃]⟩ 1 (Fresh.numbered 2).tokenId := by
    refine ⟨t₂, x, rfl, hg₂.returns, ?_⟩
    rw [hconf.tokenId_of_gives (n := 1) rfl hg₂.returns, hfresh₂]
  have hissues₃ : Issues ⟨⟨st, none⟩, [t₁, t₂, t₃]⟩ 2 (Fresh.numbered 3).tokenId := by
    refine ⟨t₃, y, rfl, hg₃.returns, ?_⟩
    rw [hconf.tokenId_of_gives (n := 2) rfl hg₃.returns, hfresh₃]
  have hpresents : t₃.command.Presents (Fresh.numbered 2).tokenId := ⟨_, _, hc₃, Fresh.parse?_two⟩
  have hlineage : Lineage ⟨⟨st, none⟩, [t₁, t₂, t₃]⟩ [2, 1] :=
    .renewed (.opened ⟨t₂, x, _, _, _, rfl, hc₂, hg₂.returns⟩)
      ⟨_, t₃, y, hissues₂, rfl, hpresents, hg₃.returns⟩
  have hunique := hchain 2 t₃ _ _ _ rfl hc₃ hg₃.returns
  refine ⟨_, t₃, _, h, hf, rfl, hpresents, hg₃.returns, hunique, hlineage, huser _ hlineage,
    hissues₂, hissues₃, hstored, fun hstored₂ => ?_⟩
  have heq := hone _ _ hlineage hlineage rfl _ h hf (.inl .refl) 1 (by simp) 2 (by simp) _ _
    hissues₂ hissues₃ hstored₂ hstored
  exact absurd heq (by decide)

end System

end SessionAuth
