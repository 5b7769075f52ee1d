import SessionAuth.Proofs.Service.Rotation

/-!
# Cleanups and refreshes

A cleanup costs no usable session. A refresh that comes after it gives a session if and only if it
would have given one without it, for the same user and with the same next token; and the stores
differ by nothing but the tokens that the cleanup has removed (`Service.refresh_after_cleanUp`).
What carries this is that a token which has expired stays so. The one thing to be noticed is that a
removed token is no longer told from one that never was.
-/

namespace SessionAuth

namespace Store

variable {st : Store} {gone : RefreshTokenId → Bool} {t : RefreshToken} {id : RefreshTokenId}

/-! ### Stores without some tokens -/

/-- The store without the tokens under some identifiers. -/
def without (st : Store) (gone : RefreshTokenId → Bool) : Store :=
  { st with tokens := st.tokens.filter fun id _ => !gone id }

/-- There is a token under the identifier, and it has expired. -/
def holdsExpired (st : Store) (now : Instant) (id : RefreshTokenId) : Bool :=
  st.tokens[id]?.any (·.isExpiredAt now)

theorem tokens_without (st : Store) (gone : RefreshTokenId → Bool) (id : RefreshTokenId) :
    (st.without gone).tokens[id]? = if gone id then none else st.tokens[id]? := by
  simp only [without, Std.ExtTreeMap.getElem?_filter']
  cases st.tokens[id]? <;> cases gone id <;> rfl

theorem without_removeToken (st : Store) (gone : RefreshTokenId → Bool) (id : RefreshTokenId) :
    (st.removeToken id).without gone = (st.without gone).removeToken id := by
  refine ext (fun _ => rfl) (fun _ => rfl) fun id' => ?_
  simp only [tokens_without, tokens_removeToken]
  split_ifs <;> rfl

theorem without_removeToken_of_gone (st : Store) (h : gone id = true) :
    (st.removeToken id).without gone = st.without gone := by
  rw [without_removeToken]
  refine removeToken_of_none ?_
  show (st.without gone).tokens[id]? = none
  rw [tokens_without, if_pos h]

theorem without_putToken (h : gone t.id = false) :
    (st.putToken t).without gone = (st.without gone).putToken t := by
  refine ext (fun _ => rfl) (fun _ => rfl) fun id' => ?_
  simp only [tokens_without, tokens_putToken]
  by_cases hid : t.id = id'
  · subst hid
    simp [h]
  · simp [hid]

/-- What has expired is removed, by whichever of the two it is named. -/
theorem removeExpired_eq (st : Store) (now : Instant) :
    st.removeTokensWhere (·.isExpiredAt now) = st.without (st.holdsExpired now) := by
  refine ext (fun _ => rfl) (fun _ => rfl) fun id => ?_
  rw [tokens_removeTokensWhere, tokens_without, holdsExpired]
  cases st.tokens[id]? with
  | none => rfl
  | some t => cases hend : t.isExpiredAt now <;> simp [Option.filter, hend]

end Store

/-! ### Faults of a key -/

/-- A key that fails to sign always fails for the same reason. -/
theorem Key.Private.fault_unique {key : Private} {m m' : Bytes}
    {fault fault' : AccessToken.KeyFault} (h : key.sign m = .error fault)
    (h' : key.sign m' = .error fault') : fault = fault' := by
  cases key with
  | edwards | elliptic => cases h
  | rsa scheme hash key =>
    simp only [sign] at h h'
    split at h
    · cases h
    · split at h'
      · cases h'
      · cases h
        cases h'
        rfl
  | unusable fault =>
    cases h
    cases h'
    rfl

namespace Service

variable {s : Service} {clean fresh fresh' : Fresh} {st : Store} {text device : String} {u : User}
  {e e' : Failure}

/-- Each user's access token can be signed with the identifiers of both operations or with those of
neither. This is so if the identifiers are the same, and with a key that signs whatever it is
given. -/
def SignsAlike (s : Service) (fresh fresh' : Fresh) : Prop :=
  ∀ u, (∃ access, s.signFor fresh u = .ok access) ↔ ∃ access, s.signFor fresh' u = .ok access

@[refl]
theorem SignsAlike.refl (s : Service) (fresh : Fresh) : s.SignsAlike fresh fresh := fun _ => Iff.rfl

theorem SignsAll.signsAlike (h : s.SignsAll) (fresh fresh' : Fresh) : s.SignsAlike fresh fresh' :=
  fun u => iff_of_true (h fresh u) (h fresh' u)

theorem signFor_eq_error (h : s.signFor fresh u = .error e) : ∃ m fault,
    s.signer.key.sign m = .error fault ∧ e = .signing fault.message := by
  unfold signFor AccessToken.Signer.sign at h
  dsimp only at h
  split at h
  · cases h
  next fault hm =>
    cases h
    exact ⟨_, fault, hm, rfl⟩

theorem signFor_error_unique (h : s.signFor fresh u = .error e)
    (h' : s.signFor fresh' u = .error e') : e = e' := by
  obtain ⟨m, fault, hm, rfl⟩ := signFor_eq_error h
  obtain ⟨m', fault', hm', rfl⟩ := signFor_eq_error h'
  rw [Key.Private.fault_unique hm hm']

/-! ### Refreshes with and without a cleanup -/

/-- How a refresh without the cleanup compares with one after it. -/
inductive Unharmed (s : Service) (fresh fresh' : Fresh) (st : Store) (now : Instant)
    (text : String) : Except Failure Session → Except Failure Session → Prop where
  | opened {u : User} {x y : Session} (hx : s.Grants fresh u x) (hy : s.Grants fresh' u y) :
      Unharmed s fresh fresh' st now text (.ok x) (.ok y)
  | refused (e : Failure) : Unharmed s fresh fresh' st now text (.error e) (.error e)
  | forgotten {id : RefreshTokenId} {e : Failure} (hid : RefreshTokenId.parse? text = some id)
      (hremoved : st.holdsExpired now id = true)
      (he : e = .fingerprintMismatch ∨ e = .refreshTokenExpired) :
      Unharmed s fresh fresh' st now text (.error e) (.error .invalidRefreshToken)

/-- The cleanup does no harm to a refresh: it compares with the one on the store without what has
expired, and the two leave the same store but for that. -/
def CleanUpSpares (s : Service) (fresh fresh' : Fresh) (st : Store) (now : Instant)
    (text device : String) : Prop :=
  s.Unharmed fresh fresh' st now text (s.refreshOn fresh text device st).1
      (s.refreshOn fresh' text device (st.without (st.holdsExpired now))).1 ∧
    (s.refreshOn fresh' text device (st.without (st.holdsExpired now))).2 =
      (s.refreshOn fresh text device st).2.without (st.holdsExpired now)

section Cases

variable {now : Instant} {id : RefreshTokenId} {t : RefreshToken}

theorem spares_of_unknown (h : ∀ id, RefreshTokenId.parse? text = some id → id ∉ st.tokens) :
    s.CleanUpSpares fresh fresh' st now text device := by
  have hswept : ∀ id, RefreshTokenId.parse? text = some id →
      id ∉ (st.without (st.holdsExpired now)).tokens := by
    intro id hid
    rw [← Store.tokens_eq_none_iff, Store.tokens_without,
      Store.tokens_eq_none_iff.2 (h id hid), ite_self]
  unfold CleanUpSpares
  rw [refreshOn_of_unknown h, refreshOn_of_unknown hswept]
  exact ⟨.refused _, rfl⟩

/-- A token that the cleanup removes would have been refused, for its device or its end. -/
theorem spares_of_expired (hst : st.IsConsistent) (hle : now ≤ fresh.now)
    (hnew : fresh.tokenId ∉ st.tokens) (hid : RefreshTokenId.parse? text = some id)
    (ht : st.tokens[id]? = some t) (hend : t.isExpiredAt now = true) :
    s.CleanUpSpares fresh fresh' st now text device := by
  obtain ⟨u, hu, howner⟩ := hst.exists_owner ht
  have hgone : st.holdsExpired now id = true := by
    rw [Store.holdsExpired, ht, Option.any_some, hend]
  have hswept : ∀ id', RefreshTokenId.parse? text = some id' →
      id' ∉ (st.without (st.holdsExpired now)).tokens := by
    intro id' hid'
    obtain rfl := Option.some.inj (hid.symm.trans hid')
    rw [← Store.tokens_eq_none_iff, Store.tokens_without, if_pos hgone]
  -- what had expired at the cleanup is still so at the refresh
  have hlater := RefreshToken.isExpiredAt_of_le hend hle
  have hstore := (st.without_removeToken_of_gone hgone).symm
  unfold CleanUpSpares
  rw [refreshOn_of_unknown hswept, refreshOn_of_found hid ht,
    renewOn_of_unused hu howner (Store.tokens_eq_none_iff.2 hnew), if_pos hlater]
  by_cases hdevice : isPresentedBy t device = true
  · rw [if_pos hdevice]
    exact ⟨.forgotten hid hgone (.inr rfl), hstore⟩
  · rw [if_neg hdevice]
    exact ⟨.forgotten hid hgone (.inl rfl), hstore⟩

/-- With a token that the cleanup leaves, both refreshes go the same way. -/
theorem spares_of_left (hst : st.IsConsistent) (htokenId : fresh'.tokenId = fresh.tokenId)
    (hnow : fresh'.now = fresh.now) (hnew : fresh.tokenId ∉ st.tokens)
    (hsign : s.SignsAlike fresh fresh') (hid : RefreshTokenId.parse? text = some id)
    (ht : st.tokens[id]? = some t) (hleft : ¬ t.isExpiredAt now = true) :
    s.CleanUpSpares fresh fresh' st now text device := by
  obtain ⟨u, hu, howner⟩ := hst.exists_owner ht
  have hunused := Store.tokens_eq_none_iff.2 hnew
  unfold CleanUpSpares
  generalize hg : st.holdsExpired now = gone
  have hgone : gone fresh.tokenId = false := by
    rw [← hg, Store.holdsExpired, hunused, Option.any_none]
  have ht' : (st.without gone).tokens[id]? = some t := by
    rw [Store.tokens_without, ← hg, Store.holdsExpired, ht, Option.any_some, if_neg hleft]
  have hunused' : (st.without gone).tokens[fresh'.tokenId]? = none := by
    rw [Store.tokens_without, htokenId, hunused, ite_self]
  have hu' : (st.without gone).users[u.id]? = some u := hu
  have hnext : s.newToken fresh' u.id t.fingerprint = s.newToken fresh u.id t.fingerprint := by
    unfold newToken
    rw [htokenId, hnow]
  have hremoved := (st.without_removeToken gone id).symm
  have hput : ((st.without gone).removeToken id).putToken (s.newToken fresh u.id t.fingerprint) =
      ((st.removeToken id).putToken (s.newToken fresh u.id t.fingerprint)).without gone := by
    rw [Store.without_putToken hgone, hremoved]
  rw [refreshOn_of_found hid ht, refreshOn_of_found hid ht', renewOn_of_unused hu howner hunused,
    renewOn_of_unused hu' howner hunused', hnow, hnext]
  by_cases hdevice : isPresentedBy t device = true
  · rw [if_pos hdevice, if_pos hdevice]
    by_cases hend : t.isExpiredAt fresh.now = true
    · rw [if_pos hend, if_pos hend]
      exact ⟨.refused _, hremoved⟩
    · rw [if_neg hend, if_neg hend]
      -- only the identifiers of the access tokens differ, and `hsign` is about these
      cases ha : s.signFor fresh u with
      | error e =>
        cases ha' : s.signFor fresh' u with
        | error e' =>
          obtain rfl := signFor_error_unique ha ha'
          exact ⟨.refused _, hremoved⟩
        | ok access' =>
          obtain ⟨access, hok⟩ := (hsign u).2 ⟨access', ha'⟩
          rw [ha] at hok
          cases hok
      | ok access =>
        obtain ⟨access', ha'⟩ := (hsign u).1 ⟨access, ha⟩
        rw [ha']
        exact ⟨.opened (grants_of_signFor ha) (grants_of_signFor ha'), hput⟩
  · rw [if_neg hdevice, if_neg hdevice]
    exact ⟨.refused _, hremoved⟩

end Cases

/-- No refresh is harmed by an earlier cleanup. -/
theorem cleanUpSpares (hst : st.IsConsistent) (hle : clean.now ≤ fresh.now)
    (htokenId : fresh'.tokenId = fresh.tokenId) (hnow : fresh'.now = fresh.now)
    (hnew : fresh.tokenId ∉ st.tokens) (hsign : s.SignsAlike fresh fresh') (text device : String) :
    s.CleanUpSpares fresh fresh' st clean.now text device := by
  rcases found_or_unknown st text with ⟨id, t, hid, ht⟩ | hunknown
  · by_cases hend : t.isExpiredAt clean.now = true
    · exact spares_of_expired hst hle hnew hid ht hend
    · exact spares_of_left hst htokenId hnow hnew hsign hid ht hend
  · exact spares_of_unknown hunknown

/-- A cleanup costs no usable session. It removes exactly the tokens that have expired and tells
how many there were. A refresh after it comes to what it would have come to without it, with the
same new identifier, in a store that lacks nothing but the tokens removed. Only for one of these is
there a difference: it is refused as one that does not exist, for whatever reason it was refused
before. -/
theorem refresh_after_cleanUp (hst : st.IsConsistent) (hle : clean.now ≤ fresh.now)
    (htokenId : fresh'.tokenId = fresh.tokenId) (hnow : fresh'.now = fresh.now)
    (hnew : fresh.tokenId ∉ st.tokens) (hsign : s.SignsAlike fresh fresh') (text device : String) :
    ∃ swept events,
      s.runAlone clean .cleanUp st =
        ⟨.finished (.ok (.cleanedUp (st.tokens.filter fun _ t => t.isExpiredAt clean.now).size)),
          ⟨swept, none⟩, false, events⟩ ∧
      swept = { st with tokens := st.tokens.filter fun _ t => !t.isExpiredAt clean.now } ∧
      ∃ result result' st' events events',
        s.runAlone fresh (.refresh text device) st =
          ⟨.finished (result.map .session), ⟨st', none⟩, false, events⟩ ∧
        s.runAlone fresh' (.refresh text device) swept =
          ⟨.finished (result'.map .session), ⟨st'.without (st.holdsExpired clean.now), none⟩, false,
            events'⟩ ∧
        s.Unharmed fresh fresh' st clean.now text result result' := by
  have hswept := hst.removeTokensWhere (·.isExpiredAt clean.now)
  obtain ⟨hunharmed, hstore⟩ := cleanUpSpares hst hle htokenId hnow hnew hsign text device
  obtain ⟨events₀, hclean⟩ := s.runAlone_eq clean .cleanUp hst
  obtain ⟨events, hrun⟩ := s.runAlone_eq fresh (.refresh text device) hst
  obtain ⟨events', hrun'⟩ := s.runAlone_eq fresh' (.refresh text device) hswept
  simp only [performOn] at hclean hrun hrun'
  rw [Store.length_tokensWhere] at hclean
  rw [Store.removeExpired_eq, hstore] at hrun'
  refine ⟨_, events₀, hclean, rfl, _, _, _, events, events', hrun, ?_, hunharmed⟩
  rw [Store.removeExpired_eq]
  exact hrun'

/-- A token of the first user that ends when it is created. -/
def spentToken : RefreshToken :=
  { firstToken with id := (Fresh.numbered 5).tokenId, lifetime := 0 }

theorem isConsistent_spent : (Store.signedIn.putToken spentToken).IsConsistent := by
  refine Store.isConsistent_signedIn.putToken ?_
  rw [Std.ExtTreeMap.mem_iff_isSome_getElem?]
  exact Option.isSome_of_mem Store.ada_signedIn

theorem firstToken_spent :
    (Store.signedIn.putToken spentToken).tokens[firstToken.id]? = some firstToken := by
  rw [Store.tokens_putToken, if_neg (by decide), Store.firstToken_signedIn]

theorem not_mem_spent :
    (Fresh.numbered 3).tokenId ∉ (Store.signedIn.putToken spentToken).tokens := by
  rw [← Store.tokens_eq_none_iff, Store.tokens_putToken, if_neg (by decide)]
  exact Store.tokens_eq_none_iff.2 (Store.not_mem_signedIn (by decide))

/-- A cleanup removes the spent token, and the first token is redeemed as if it had not come. -/
theorem refresh_after_cleanUp_ada :
    let st := Store.signedIn.putToken spentToken
    let fresh := Fresh.numbered 3
    let fresh' := { fresh with accessId := ⟨4⟩ }
    let text := "00000000-0000-0000-0000-000000000002"
    st.IsConsistent ∧ fresh.now ≤ fresh.now ∧ fresh.tokenId ∉ st.tokens ∧
      least.SignsAlike fresh fresh' ∧ st.tokens[spentToken.id]? = some spentToken ∧
      ∃ count swept events session session' st' st'' events' events'',
        least.runAlone fresh .cleanUp st =
          ⟨.finished (.ok (.cleanedUp count)), ⟨swept, none⟩, false, events⟩ ∧
        swept.tokens[spentToken.id]? = none ∧
        least.runAlone fresh (.refresh text "laptop") st =
          ⟨.finished (.ok (.session session)), ⟨st', none⟩, false, events'⟩ ∧
        least.runAlone fresh' (.refresh text "laptop") swept =
          ⟨.finished (.ok (.session session')), ⟨st'', none⟩, false, events''⟩ := by
  have hsign : least.SignsAll := isUsable_least.signer
  have halike := hsign.signsAlike (.numbered 3) { Fresh.numbered 3 with accessId := ⟨4⟩ }
  have hle : (Fresh.numbered 3).now ≤ (Fresh.numbered 3).now := Int.le_refl _
  have hspent : (Store.signedIn.putToken spentToken).tokens[spentToken.id]? = some spentToken := by
    rw [Store.tokens_putToken, if_pos rfl]
  obtain ⟨_, _, _, hwithout, hrefreshes⟩ := exists_refreshes isConsistent_spent hsign
    not_mem_spent "00000000-0000-0000-0000-000000000002" "laptop"
  obtain ⟨u, session, rfl, -, -⟩ :=
    hrefreshes.of_live Fresh.parse?_two firstToken_spent takes_ada.device firstToken_live
  obtain ⟨swept, events, hclean, hswept, _, _, st', events', events'', hrun, hrun', hunharmed⟩ :=
    @refresh_after_cleanUp least (.numbered 3) (.numbered 3)
      { Fresh.numbered 3 with accessId := ⟨4⟩ } (Store.signedIn.putToken spentToken)
      isConsistent_spent hle rfl rfl not_mem_spent halike
      "00000000-0000-0000-0000-000000000002" "laptop"
  have hgone : swept.tokens[spentToken.id]? = none := by
    have hended : spentToken.isExpiredAt (Fresh.numbered 3).now = true := by decide
    rw [hswept]
    show ((Store.signedIn.putToken spentToken).removeTokensWhere
      (·.isExpiredAt (Fresh.numbered 3).now)).tokens[spentToken.id]? = none
    rw [Store.tokens_removeTokensWhere, hspent, Option.filter_some, hended]
    rfl
  rw [hwithout] at hrun
  cases hunharmed with
  | opened hx hy =>
    exact ⟨isConsistent_spent, hle, not_mem_spent, halike, hspent, _, swept, events, session, _, _,
      _, _, events'', hclean, hgone, hwithout, hrun'⟩
  | refused => cases hrun
  | forgotten => cases hrun

end Service

end SessionAuth
