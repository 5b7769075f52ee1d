import SessionAuth.Proofs.Service.Return

/-!
# Where sessions come from

A session is opened by a login and continued by refreshes, each of which presents the token that the
one before was given (`System.Lineage`). The invariant (`IsTraced`) says of the tokens in the
settled store, and of those that refreshes have found, that some client was given them, and that
they go back to a login. A token that is still in the open transaction is none of them: it is given
when the transaction commits.
-/

namespace SessionAuth

namespace System

variable {s : Service} {mayFail : Bool} {a b : System} {n m : Nat} {id : RefreshTokenId}
  {chain : List Nat}

/-! ### Lineages -/

/-- The client at the position is given a session with the token. -/
def Issues (a : System) (n : Nat) (id : RefreshTokenId) : Prop :=
  ∃ t session, a.tasks[n]? = some t ∧ t.Gives session ∧ session.tokenId = id

/-- A login that gives a session. -/
def Opens (a : System) (n : Nat) : Prop :=
  ∃ t session text password device, a.tasks[n]? = some t ∧
    t.command = .login text password device ∧ t.Gives session

/-- A refresh that presents the token given at the first position, and gives a session. -/
def Continues (a : System) (m n : Nat) : Prop :=
  ∃ id t session, a.Issues m id ∧ a.tasks[n]? = some t ∧ t.command.Presents id ∧ t.Gives session

/-- Successful refreshes, each of which presents the token that the next one in the list was given,
back to a successful login. -/
inductive Lineage (a : System) : List Nat → Prop
  | opened {n : Nat} (h : a.Opens n) : Lineage a [n]
  | renewed {n m : Nat} {chain : List Nat} (h : Lineage a (m :: chain)) (hn : a.Continues m n) :
    Lineage a (n :: m :: chain)

/-- The token was given to a client, by a login or by a refresh that goes back to one. -/
def HasOrigin (a : System) (id : RefreshTokenId) : Prop :=
  ∃ n earlier, a.Issues n id ∧ a.Lineage (n :: earlier)

/-! ### What stays -/

theorem Issues.reaches (h : a.Issues n id) (hab : a.Reaches s mayFail b) : b.Issues n id := by
  obtain ⟨t, session, ht, hg, hid⟩ := h
  obtain ⟨u, hu, htu⟩ := hab.before ht
  exact ⟨u, session, hu, htu.returns _ hg, hid⟩

theorem Opens.reaches (h : a.Opens n) (hab : a.Reaches s mayFail b) : b.Opens n := by
  obtain ⟨t, session, text, password, device, ht, hc, hg⟩ := h
  obtain ⟨u, hu, htu⟩ := hab.before ht
  exact ⟨u, session, text, password, device, hu, htu.command_eq.trans hc, htu.returns _ hg⟩

theorem Continues.reaches (h : a.Continues m n) (hab : a.Reaches s mayFail b) :
    b.Continues m n := by
  obtain ⟨id, t, session, hid, ht, hp, hg⟩ := h
  obtain ⟨u, hu, htu⟩ := hab.before ht
  refine ⟨id, u, session, hid.reaches hab, hu, ?_, htu.returns _ hg⟩
  rw [htu.command_eq]
  exact hp

theorem Lineage.reaches (h : a.Lineage chain) (hab : a.Reaches s mayFail b) :
    b.Lineage chain := by
  induction h with
  | opened h => exact .opened (h.reaches hab)
  | renewed _ hn ih => exact .renewed ih (hn.reaches hab)

theorem HasOrigin.reaches (h : a.HasOrigin id) (hab : a.Reaches s mayFail b) :
    b.HasOrigin id := by
  obtain ⟨n, earlier, hid, hl⟩ := h
  exact ⟨n, earlier, hid.reaches hab, hl.reaches hab⟩

/-! ### One lineage only -/

theorem Conforms.tokenId_of_gives (hconf : a.Conforms s) {t : Task} {session : Session}
    (ht : a.tasks[n]? = some t) (hg : t.Gives session) : session.tokenId = t.fresh.tokenId :=
  ((hconf t (List.mem_of_getElem? ht)).of_returns hg).tokenId_eq

/-- A token is given to one client. -/
theorem Issues.position_eq (h : a.Issues m id) (h' : a.Issues n id) (hconf : a.Conforms s)
    (hf : a.HasFreshIds) : m = n := by
  obtain ⟨t, session, ht, hg, rfl⟩ := h
  obtain ⟨u, session', hu, hg', hid⟩ := h'
  refine hf.position_eq ht hu ?_
  rw [← hconf.tokenId_of_gives ht hg, ← hid, hconf.tokenId_of_gives hu hg']

/-- A client is given one token. -/
theorem Issues.id_eq {id' : RefreshTokenId} (h : a.Issues n id) (h' : a.Issues n id') :
    id = id' := by
  obtain ⟨t, session, ht, hg, rfl⟩ := h
  obtain ⟨u, session', hu, hg', rfl⟩ := h'
  rw [ht] at hu
  cases hu
  cases hg.unique hg'
  rfl

theorem Continues.issues (h : a.Continues m n) : ∃ id, a.Issues n id := by
  obtain ⟨-, t, session, -, ht, -, hg⟩ := h
  exact ⟨session.tokenId, t, session, ht, hg, rfl⟩

theorem Opens.not_continues (h : a.Opens n) : ¬ a.Continues m n := by
  obtain ⟨t, session, text, password, device, ht, hc, -⟩ := h
  rintro ⟨id, u, next, -, hu, ⟨text', device', hc', -⟩, -⟩
  rw [ht] at hu
  cases hu
  rw [hc] at hc'
  cases hc'

/-- A refresh continues one session. -/
theorem Continues.source_eq {m' : Nat} (h : a.Continues m n) (h' : a.Continues m' n)
    (hconf : a.Conforms s) (hf : a.HasFreshIds) : m = m' := by
  obtain ⟨id, t, session, hid, ht, ⟨text, device, hc, hp⟩, -⟩ := h
  obtain ⟨id', t', session', hid', ht', ⟨text', device', hc', hp'⟩, -⟩ := h'
  rw [ht] at ht'
  cases ht'
  rw [hc] at hc'
  cases hc'
  rw [hp] at hp'
  cases hp'
  exact hid.position_eq hid' hconf hf

theorem Lineage.unique {chain' : List Nat} (h : a.Lineage (n :: chain))
    (h' : a.Lineage (n :: chain')) (hconf : a.Conforms s) (hf : a.HasFreshIds) :
    chain = chain' := by
  induction chain generalizing n chain' with
  | nil =>
    cases h with
    | opened h =>
      cases h' with
      | opened => rfl
      | renewed _ hn => exact absurd hn h.not_continues
  | cons m chain ih =>
    cases h with
    | renewed h hn =>
      cases h' with
      | opened h' => exact absurd hn h'.not_continues
      | renewed h' hn' =>
        cases hn.source_eq hn' hconf hf
        rw [ih h h']

/-- A session is continued by one refresh. -/
theorem Continues.target_eq {n' : Nat} (h : a.Continues m n) (h' : a.Continues m n')
    (hconf : a.Conforms s) (hapart : a.DeletesApart) : n = n' := by
  obtain ⟨id, t, session, hid, ht, hp, hg⟩ := h
  obtain ⟨id', t', session', hid', ht', hp', hg'⟩ := h'
  cases hid.id_eq hid'
  have claimed {k : Nat} {u : Task} {session : Session} (hu : a.tasks[k]? = some u)
      (hp : u.command.Presents id) (hg : u.Gives session) : .deletion id ∈ u.history := by
    obtain ⟨text, device, hc, hparse⟩ := hp
    have hends := (hconf u (List.mem_of_getElem? hu)).of_returns hg
    rw [hc] at hends
    obtain ⟨id', hparse', hh⟩ := hends.claimed
    rw [hparse] at hparse'
    cases hparse'
    exact hh
  exact hapart.eq_of_deletion ht ht' (claimed ht hp hg) (claimed ht' hp' hg')

/-! ### The invariant -/

/-- The tokens of the settled store and those that refreshes have found were given to clients, by
logins or by refreshes that go back to one. -/
structure IsTraced (a : System) : Prop where
  settled : ∀ (id : RefreshTokenId) (token : RefreshToken),
    a.vault.settled.tokens[id]? = some token → a.HasOrigin id
  found : ∀ (id : RefreshTokenId) (token : RefreshToken),
    a.Knows ⟨.ask (.findToken id), .ok (some token)⟩ → a.HasOrigin id

theorem isTraced_initial : initial.IsTraced where
  settled id token h := by
    rw [initial, Vault.empty, Vault.settled_of_closed] at h
    simp [Store.empty] at h
  found _ _ h := absurd h (not_knows_initial _)

end System

/-! ### What refreshes find -/

/-- Refreshes look for their tokens outside of transactions. -/
theorem Service.Calls.findToken {s : Service} {fresh : Fresh} {command : Command}
    {isInside : Bool} {history : List Exchange} {id : RefreshTokenId}
    (h : s.Calls fresh command isInside history (.ask (.findToken id))) : isInside = false := by
  cases h with
  | within hf h => cases h
  | find => rfl

/-- Who is answered outside of a transaction sees the settled store. -/
theorem Vault.Turn.settled_eq_store_of_ok {v w : Vault} {c : Call} {x : Except Failure c.Answer}
    (h : Turn v false c x w) {r : Request} {y : r.Answer}
    (he : (⟨.ask r, .ok y⟩ : Exchange) = ⟨c, x⟩) : v.settled = v.store := by
  generalize hi : false = isInside at h
  cases h with
  | outside s _ r' => exact settled_of_closed s
  | inside => cases hi
  | begin | commit | rollback | commitOutside | rollbackOutside | failed => cases he

/-- A refresh that succeeds has found the token that it presents. -/
theorem Service.Ends.found {s : Service} {fresh : Fresh} {text device : String} {o : Outcome}
    {history : List Exchange} (h : s.Ends fresh (.refresh text device) history (.ok o)) :
    ∃ id token, RefreshTokenId.parse? text = some id ∧
      ⟨.ask (.findToken id), .ok (some token)⟩ ∈ history := by
  cases h with
  | renewed hid _ => exact ⟨_, _, hid, List.mem_cons_self⟩

/-- A token that is there after what was told was there before, or was created by it. -/
theorem Store.Tells.token {st st' : Store} {history : List Exchange} (h : st.Tells history st')
    {id : RefreshTokenId} {token : RefreshToken} (ht : st'.tokens[id]? = some token) :
    st.tokens[id]? = some token ∨ token.id = id ∧ .creation token ∈ history := by
  induction history generalizing st with
  | nil =>
    cases h
    exact .inl ht
  | cons e history ih =>
    rcases h with ⟨r, rfl, h⟩ | ⟨-, h⟩
    · rcases ih h with hold | ⟨hid, hh⟩
      · refine (Store.tokens_answer hold).imp_right fun hnew => ⟨hnew.1, ?_⟩
        rw [hnew.2]
        exact List.mem_cons_self
      · exact .inr ⟨hid, List.mem_cons_of_mem _ hh⟩
    · exact (ih h).imp_right fun hnew => ⟨hnew.1, List.mem_cons_of_mem _ hnew.2⟩

namespace System

variable {s : Service} {mayFail : Bool} {a b : System} {n : Nat} {id : RefreshTokenId}
  {t : Task} {session : Session} {token : RefreshToken}

/-- Who is given a session goes back to a login, if the tokens that refreshes have found do. -/
theorem Conforms.exists_lineage (hconf : a.Conforms s)
    (hfound : ∀ (id : RefreshTokenId) (token : RefreshToken),
      a.Knows ⟨.ask (.findToken id), .ok (some token)⟩ → a.HasOrigin id)
    (ht : a.tasks[n]? = some t) (hg : t.Gives session) : ∃ earlier, a.Lineage (n :: earlier) := by
  have hmem := List.mem_of_getElem? ht
  have hends := (hconf t hmem).of_returns hg
  rcases hends.login_or_refresh with ⟨text, password, device, hc⟩ | ⟨text, device, hc⟩
  · exact ⟨[], .opened ⟨t, session, text, password, device, ht, hc, hg⟩⟩
  · rw [hc] at hends
    obtain ⟨id, token, hid, hh⟩ := hends.found
    obtain ⟨m, earlier, hissues, hl⟩ := hfound id token ⟨t, hmem, hh⟩
    exact ⟨m :: earlier,
      .renewed hl ⟨id, t, session, hissues, ht, ⟨text, device, hc, hid⟩, hg⟩⟩

/-- A token that its creator is given has an origin. -/
theorem Conforms.hasOrigin_of_creation (hconf : a.Conforms s)
    (hfound : ∀ (id : RefreshTokenId) (token : RefreshToken),
      a.Knows ⟨.ask (.findToken id), .ok (some token)⟩ → a.HasOrigin id)
    (ht : t ∈ a.tasks) (hh : .creation token ∈ t.history)
    (hg : ∃ session, t.Gives session ∧ session.tokenId = t.fresh.tokenId) :
    a.HasOrigin token.id := by
  obtain ⟨session, hg, hid⟩ := hg
  obtain ⟨n, hn⟩ := List.mem_iff_getElem?.1 ht
  obtain ⟨earlier, hl⟩ := hconf.exists_lineage hfound hn hg
  refine ⟨n, earlier, ⟨t, session, hn, hg, ?_⟩, hl⟩
  rw [hid, hconf.tokenId_eq ht hh]

theorem IsTraced.found_of_step (ha : a.IsTraced) (h : Step s mayFail a b) (hconf : a.Conforms s)
    (hk : b.Knows ⟨.ask (.findToken id), .ok (some token)⟩) : b.HasOrigin id := by
  rcases h.told_or_quiet hconf with ⟨hknows, -⟩ | ⟨t, ht, c, x, hc, hturn, hknows⟩
  · exact (ha.found id token ((hknows _).1 hk)).reaches (.single h)
  rcases (hknows _).1 hk with hold | hnew
  · exact (ha.found id token hold).reaches (.single h)
  · -- what a refresh finds now is in the settled store, as it looks from outside
    cases hnew
    rw [hc.findToken] at hturn
    have htoken := Except.ok.inj (hturn.answer_eq rfl)
    refine (ha.settled id token ?_).reaches (.single h)
    rw [hturn.settled_eq_store_of_ok rfl]
    exact htoken

/-- A token that gets into the settled store is given to a client from then on. -/
theorem IsRegular.settled_of_step (ha : a.IsRegular s) (hb : b.Conforms s) (htraced : a.IsTraced)
    (hfound : ∀ (id : RefreshTokenId) (token : RefreshToken),
      b.Knows ⟨.ask (.findToken id), .ok (some token)⟩ → b.HasOrigin id)
    (h : Step s mayFail a b) (ht : b.vault.settled.tokens[id]? = some token) :
    b.HasOrigin id := by
  have stays (hold : a.vault.settled.tokens[id]? = some token) : b.HasOrigin id :=
    (htraced.settled id token hold).reaches (.single h)
  cases h with
  | arrival => exact stays ht
  | @progress before after v v' t t' h =>
    have hmem : t ∈ before ++ t :: after := by simp
    have hmem' : t' ∈ before ++ t' :: after := by simp
    cases h.move (ha.conforms t hmem) with
    | logged => exact stays ht
    | abandoned =>
      split at ht
      · exact stays ht
      · exact stays ht
    | @told c next x w hr hc hturn =>
      rcases hturn.settled_eq ha.redeemsOnce.isSound with heq | ⟨heq, hin, hw⟩ | ⟨r, heq, hj, hw⟩
      · rw [heq] at ht
        exact stays ht
      · -- the commit settles what was created in the transaction
        rw [hw] at ht
        obtain ⟨later, hh, htells⟩ := ha.tellsInside t hmem hin
        rcases htells.token ht with hold | ⟨rfl, hnew⟩
        · exact stays hold
        · refine hb.hasOrigin_of_creation hfound hmem' (by simp [Task.told, hh, hnew]) ?_
          exact (hb _ hmem').gives_of_commitment rfl (by simp [Task.told, heq])
      · -- a request outside of a transaction settles at once
        rw [hw] at ht
        rcases Store.tokens_answer ht with hold | ⟨rfl, hnew⟩
        · rw [← Vault.settled_eq_store hj] at hold
          exact stays hold
        · rw [← heq] at hnew
          cases hnew
          rw [ha.isExclusive.eq_false_of_closed hmem hj] at hc
          obtain ⟨text, device, -, -, -, -, hcommand, -⟩ := hc.of_createToken
          have hlast : .creation token ∈
              (t.told (.ask (.createToken token)) next (.ok ())).history := by simp [Task.told]
          exact hb.hasOrigin_of_creation hfound hmem' hlast
            ((hb _ hmem').gives_of_creation rfl hcommand hlast)

theorem IsTraced.step (htraced : a.IsTraced) (ha : a.IsRegular s) (h : Step s mayFail a b) :
    b.IsTraced where
  settled _ _ ht := ha.settled_of_step (h.conforms ha.conforms) htraced
    (fun _ _ hk => htraced.found_of_step h ha.conforms hk) h ht
  found _ _ hk := htraced.found_of_step h ha.conforms hk

theorem Reaches.isTraced (h : initial.Reaches s mayFail a) (hf : a.HasFreshIds) : a.IsTraced := by
  induction h with
  | refl => exact isTraced_initial
  | tail hr h ih =>
    have hf' := hf.of_step h
    exact (ih hf').step (Reaches.isRegular hr isRegular_initial hf') h

end System

end SessionAuth
