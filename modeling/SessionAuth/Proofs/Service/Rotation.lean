import SessionAuth.Proofs.RefreshToken.Expiry
import SessionAuth.Proofs.Service.Opening
import SessionAuth.Proofs.Service.Refusal

/-!
# Refreshes, exactly

What a refresh comes to with nobody else at the vault, and the store that it leaves behind
(`Service.Refreshes`). A text that names no stored token changes nothing. In all other cases the
token that it names is gone, and is replaced with the next one only for the device that it is bound
to, before its end (`Service.refresh_exact`). All else in the store stays as it is.
-/

namespace SessionAuth

namespace Service

variable {s : Service} {fresh : Fresh} {st : Store} {text device : String}

theorem isPresentedBy_iff {token : RefreshToken} :
    isPresentedBy token device = true ↔ Fingerprint.ofText device = .ok token.fingerprint :=
  ⟨eq_of_isPresentedBy, fun h => isPresentedBy_of_ofText h rfl⟩

/-- What a refresh comes to, and the store after it. -/
inductive Refreshes (s : Service) (fresh : Fresh) (st : Store) (text device : String) :
    Except Failure Session → Store → Prop where
  | unknown (hid : ∀ id, RefreshTokenId.parse? text = some id → id ∉ st.tokens) :
      Refreshes s fresh st text device (.error .invalidRefreshToken) st
  | foreign {id : RefreshTokenId} {t : RefreshToken} (hid : RefreshTokenId.parse? text = some id)
      (ht : st.tokens[id]? = some t) (hdevice : Fingerprint.ofText device ≠ .ok t.fingerprint) :
      Refreshes s fresh st text device (.error .fingerprintMismatch)
        { st with tokens := st.tokens.erase id }
  | ended {id : RefreshTokenId} {t : RefreshToken} (hid : RefreshTokenId.parse? text = some id)
      (ht : st.tokens[id]? = some t) (hdevice : Fingerprint.ofText device = .ok t.fingerprint)
      (hend : t.HasEndedBy fresh.now) :
      Refreshes s fresh st text device (.error .refreshTokenExpired)
        { st with tokens := st.tokens.erase id }
  | renewed {id : RefreshTokenId} {t : RefreshToken} {u : User} {session : Session}
      (hid : RefreshTokenId.parse? text = some id) (ht : st.tokens[id]? = some t)
      (hdevice : Fingerprint.ofText device = .ok t.fingerprint)
      (hlive : ¬ t.HasEndedBy fresh.now)
      (howner : st.users[t.owner]? = some u) (hgrants : s.Grants fresh u session) :
      Refreshes s fresh st text device (.ok session)
        { st with
          tokens := (st.tokens.erase id).insert fresh.tokenId
            ⟨fresh.tokenId, t.owner, t.fingerprint, s.policy.lifetime, fresh.now⟩ }

/-- A token that is found is redeemed, and decides what comes then. -/
theorem refreshes_of_found (hst : st.IsConsistent) (hsign : s.SignsAll)
    (hnew : fresh.tokenId ∉ st.tokens) {id : RefreshTokenId} {t : RefreshToken}
    (hid : RefreshTokenId.parse? text = some id) (ht : st.tokens[id]? = some t) :
    s.Refreshes fresh st text device (s.refreshOn fresh text device st).1
      (s.refreshOn fresh text device st).2 := by
  obtain ⟨u, hu, howner⟩ := hst.exists_owner ht
  rw [refreshOn_of_found hid ht,
    renewOn_of_unused hu howner (Store.tokens_eq_none_iff.2 hnew) device id]
  by_cases hdevice : isPresentedBy t device = true
  · rw [if_pos hdevice]
    rw [isPresentedBy_iff] at hdevice
    by_cases hend : t.isExpiredAt fresh.now = true
    · rw [if_pos hend]
      exact .ended hid ht hdevice (RefreshToken.isExpiredAt_iff.1 hend)
    · rw [if_neg hend]
      rw [RefreshToken.isExpiredAt_iff] at hend
      obtain ⟨access, ha⟩ := hsign fresh u
      have hrenewed := Refreshes.renewed hid ht hdevice hend (howner ▸ hu) (grants_of_signFor ha)
      rw [ha]
      rw [howner] at hrenewed
      exact hrenewed
  · rw [if_neg hdevice]
    rw [isPresentedBy_iff] at hdevice
    exact .foreign hid ht hdevice

theorem refreshes_refreshOn (hst : st.IsConsistent) (hsign : s.SignsAll)
    (hnew : fresh.tokenId ∉ st.tokens) (text device : String) :
    s.Refreshes fresh st text device (s.refreshOn fresh text device st).1
      (s.refreshOn fresh text device st).2 := by
  rcases found_or_unknown st text with ⟨id, t, hid, ht⟩ | hunknown
  · exact refreshes_of_found hst hsign hnew hid ht
  · rw [refreshOn_of_unknown hunknown]
    exact .unknown hunknown

/-- A refresh depends on its text by the identifier alone. -/
theorem runAlone_refresh_congr {text' : String}
    (h : RefreshTokenId.parse? text' = RefreshTokenId.parse? text) (s : Service) (fresh : Fresh)
    (device : String) (st : Store) : s.runAlone fresh (.refresh text' device) st =
      s.runAlone fresh (.refresh text device) st := by
  have hrefresh : s.refresh fresh text' device = s.refresh fresh text device := by
    unfold refresh
    rw [h]
  simp only [runAlone, perform, hrefresh]

theorem exists_refreshes (hst : st.IsConsistent) (hsign : s.SignsAll)
    (hnew : fresh.tokenId ∉ st.tokens) (text device : String) : ∃ result st' events,
      s.runAlone fresh (.refresh text device) st =
        ⟨.finished (result.map .session), ⟨st', none⟩, false, events⟩ ∧
      s.Refreshes fresh st text device result st' := by
  obtain ⟨events, hrun⟩ := s.runAlone_eq fresh (.refresh text device) hst
  exact ⟨_, _, events, hrun, refreshes_refreshOn hst hsign hnew text device⟩

/-- Refreshes, exactly: what comes of any text and any device, and what is left in the store. Two
texts for one identifier make no difference at all. -/
theorem refresh_exact (hst : st.IsConsistent) (hsign : s.SignsAll)
    (hnew : fresh.tokenId ∉ st.tokens) (text device : String) : ∃ result st' events,
      s.runAlone fresh (.refresh text device) st =
        ⟨.finished (result.map .session), ⟨st', none⟩, false, events⟩ ∧
      s.Refreshes fresh st text device result st' ∧
      ∀ text', RefreshTokenId.parse? text' = RefreshTokenId.parse? text →
        s.runAlone fresh (.refresh text' device) st =
          ⟨.finished (result.map .session), ⟨st', none⟩, false, events⟩ := by
  obtain ⟨result, st', events, hrun, hrefreshes⟩ := exists_refreshes hst hsign hnew text device
  exact ⟨result, st', events, hrun, hrefreshes,
    fun _ h => (runAlone_refresh_congr h s fresh device st).trans hrun⟩

/-! ### Within the calendar and beyond it -/

/-- The device of a token that has not ended is given the next one. -/
theorem Refreshes.of_live {result : Except Failure Session} {st' : Store} {id : RefreshTokenId}
    {t : RefreshToken} (h : s.Refreshes fresh st text device result st')
    (hid : RefreshTokenId.parse? text = some id) (ht : st.tokens[id]? = some t)
    (hdevice : Fingerprint.ofText device = .ok t.fingerprint)
    (hlive : ¬ t.HasEndedBy fresh.now) :
    ∃ u session, result = .ok session ∧ st.users[t.owner]? = some u ∧
      s.Grants fresh u session := by
  have same {id' : RefreshTokenId} {t' : RefreshToken}
      (hid' : RefreshTokenId.parse? text = some id') (ht' : st.tokens[id']? = some t') :
      t' = t := by
    obtain rfl := Option.some.inj (hid'.symm.trans hid)
    exact Option.some.inj (ht'.symm.trans ht)
  cases h with
  | unknown hunknown =>
    rw [Store.tokens_eq_none_iff.2 (hunknown id hid)] at ht
    cases ht
  | foreign hid' ht' hdevice' => exact absurd (same hid' ht' ▸ hdevice) hdevice'
  | ended hid' ht' _ hend => exact absurd (same hid' ht' ▸ hend) hlive
  | renewed hid' ht' _ _ howner hgrants =>
    exact ⟨_, _, rfl, same hid' ht' ▸ howner, hgrants⟩

theorem firstToken_live : ¬ firstToken.HasEndedBy (Fresh.numbered 3).now := by decide

/-- The first token is presented in a form without hyphens, and the session goes on. -/
theorem refresh_exact_ada :
    Store.signedIn.IsConsistent ∧ least.SignsAll ∧
      (Fresh.numbered 3).tokenId ∉ Store.signedIn.tokens ∧ ∃ session st' events,
        least.runAlone (.numbered 3) (.refresh "00000000000000000000000000000002" "laptop")
          .signedIn = ⟨.finished (.ok (.session session)), ⟨st', none⟩, false, events⟩ ∧
        least.Grants (.numbered 3) ada session := by
  have hnew : (Fresh.numbered 3).tokenId ∉ Store.signedIn.tokens :=
    Store.not_mem_signedIn (by decide)
  have hform : RefreshTokenId.parse? "00000000000000000000000000000002" =
      some (Fresh.numbered 2).tokenId := rfl
  obtain ⟨result, st', events, -, hrefreshes, hsame⟩ := refresh_exact
    Store.isConsistent_signedIn isUsable_least.signer hnew
    "00000000-0000-0000-0000-000000000002" "laptop"
  obtain ⟨u, session, rfl, hu, hgrants⟩ :=
    hrefreshes.of_live Fresh.parse?_two Store.firstToken_signedIn takes_ada.device firstToken_live
  obtain rfl := Option.some.inj (hu.symm.trans Store.ada_signedIn)
  exact ⟨Store.isConsistent_signedIn, isUsable_least.signer, hnew, session, st', events,
    hsame _ (hform.trans Fresh.parse?_two.symm), hgrants⟩

/-- A token that would have ended before the first instant. -/
def bygoneToken : RefreshToken :=
  ⟨(Fresh.numbered 2).tokenId, ada.id, ⟨"laptop"⟩, -9223372036854775808, .epoch⟩

/-- The small service, with access tokens that would end behind the last second. -/
def enduring : Service :=
  { least with signer := { least.signer with lifetime := 9223372036854775808 } }

/-- Beyond the calendar nothing ends: the bygone token is redeemed after its end, and the access
token that is given for it ends with the last second of 64 bits, which is before the end of its
lifetime. -/
theorem refresh_beyond_calendar :
    let st := (Store.ofUser ada).putToken bygoneToken
    let fresh := Fresh.numbered 3
    st.IsConsistent ∧ enduring.SignsAll ∧ fresh.tokenId ∉ st.tokens ∧
      RefreshTokenId.parse? "00000000-0000-0000-0000-000000000002" = some bygoneToken.id ∧
      st.tokens[bygoneToken.id]? = some bygoneToken ∧
      Fingerprint.ofText "laptop" = .ok bygoneToken.fingerprint ∧
      bygoneToken.createdAt.total + bygoneToken.lifetime * 1000000000 ≤ fresh.now.total ∧
      ∃ session st' events,
        enduring.runAlone fresh (.refresh "00000000-0000-0000-0000-000000000002" "laptop") st =
          ⟨.finished (.ok (.session session)), ⟨st', none⟩, false, events⟩ ∧
        session.access.expiresAt = 9223372036854775807 ∧
        session.access.expiresAt < fresh.now.seconds + enduring.signer.lifetime := by
  intro st fresh
  have hst : st.IsConsistent :=
    (Store.isConsistent_ofUser ada).putToken (by simp [Store.ofUser, bygoneToken])
  have hsign : enduring.SignsAll := fun _ _ => ⟨_, rfl⟩
  have hnone := Store.tokens_ofUser ada fresh.tokenId
  have hnew : fresh.tokenId ∉ st.tokens := by
    rw [← Store.tokens_eq_none_iff, Store.tokens_putToken, if_neg (by decide), hnone]
  have hfound : st.tokens[bygoneToken.id]? = some bygoneToken := by
    rw [Store.tokens_putToken, if_pos rfl]
  have hlive : ¬ bygoneToken.HasEndedBy fresh.now := by decide
  obtain ⟨result, st', events, hrun, hrefreshes⟩ := exists_refreshes hst hsign hnew
    "00000000-0000-0000-0000-000000000002" "laptop"
  obtain ⟨u, session, rfl, -, hgrants⟩ :=
    hrefreshes.of_live Fresh.parse?_two hfound takes_ada.device hlive
  refine ⟨hst, hsign, hnew, Fresh.parse?_two, hfound, takes_ada.device, by decide, session, st',
    events, hrun, ?_⟩
  have hend : session.access.expiresAt = 9223372036854775807 := by
    rw [hgrants.expiresAt]
    decide
  refine ⟨hend, ?_⟩
  rw [hend]
  decide

end Service

end SessionAuth
