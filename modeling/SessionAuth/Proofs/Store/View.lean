import SessionAuth.Proofs.Store.Part
import SessionAuth.Proofs.Store.Transaction

/-!
# What a vault shows of a user

A vault that holds what belongs to a user, and nothing else, stands for a vault that others use as
well (`Vault.Shows`). A caller who asks about the user is answered alike by both, and an answer to
somebody else leaves what is shown as it is.
-/

namespace SessionAuth

namespace Vault

variable {u : User} {v v' : Vault} {i : Bool} {c : Call} {reply : Reply Vault c.Answer}

/-- The second vault has what belongs to the user in the first one, and is in the same transaction
or in none. -/
structure Shows (u : User) (v v' : Vault) : Prop where
  store : v'.store = v.store.partOf u
  settled : v'.settled = v.settled.partOf u
  journal : v'.journal = none ∨ v'.journal = v.journal

theorem Shows.drop (h : Shows u v v') : Shows u v.drop v'.drop :=
  ⟨h.settled, h.settled, .inl rfl⟩

/-- A transaction of somebody else leaves no trace. -/
theorem Shows.drop_left (h : Shows u v v') (hj : v'.journal = none) : Shows u v.drop v' :=
  ⟨by rw [← settled_eq_store hj]; exact h.settled, h.settled, .inl hj⟩

theorem Shows.afterFailure (h : Shows u v v') (i : Bool) (c : Call) :
    Shows u (Backend.afterFailure i v c) (Backend.afterFailure i v' c) := by
  cases c with
  | ask | begin => exact h
  | commit | rollback =>
    cases i with
    | false => exact h
    | true => exact h.drop

/-- A caller who asks about the user is answered alike. -/
theorem Shows.answered (h : Shows u v v') (hv : v.IsSound) (hv' : v'.IsSound)
    (hr : v.reply? i c = some reply) (hi : i = true → v'.journal = v.journal)
    (hask : ∀ r, c = .ask r → v.store.Concerns u r) (hfit : reply.state.store.Fits u) :
    ∃ reply', v'.reply? i c = some reply' ∧ reply'.answer = reply.answer ∧
      Shows u reply.state reply'.state := by
  obtain ⟨st, journal⟩ := v
  obtain ⟨st', journal'⟩ := v'
  obtain ⟨hstore, hsettled, hjournal⟩ := h
  dsimp only at hstore hjournal hi
  subst hstore
  cases c with
  | ask r =>
    have hr' := hask r rfl
    cases journal with
    | none =>
      obtain rfl : journal' = none := or_self_iff.1 hjournal
      cases hr
      have hanswer := Store.answer_partOf hv.store hfit hr'
      refine ⟨_, rfl, ?_, ?_, ?_, .inl rfl⟩
      · simp only [answerOutside, hanswer]
      · simp only [answerOutside, hanswer]
      · simp only [answerOutside, settled_of_closed, hanswer]
    | some journal =>
      cases i with
      | false => cases hr
      | true =>
        obtain rfl : journal' = some journal := hi rfl
        cases hr
        have hanswer := Store.answer_partOf hv.store hfit hr'
        refine ⟨_, rfl, ?_, ?_, ?_, .inr ?_⟩
        · simp only [answerInside, hanswer]
        · simp only [answerInside, hanswer]
        · rw [answerInside, answerInside, settled_inside hv.store, settled_inside hv'.store]
          exact hsettled
        · simp only [answerInside, hanswer]
  | begin =>
    cases journal with
    | none =>
      obtain rfl : journal' = none := or_self_iff.1 hjournal
      cases hr
      exact ⟨_, rfl, rfl, rfl, hsettled, .inr rfl⟩
    | some journal => cases hr
  | commit =>
    cases hr
    cases i with
    | false => exact ⟨_, rfl, rfl, rfl, hsettled, hjournal⟩
    | true => exact ⟨_, rfl, rfl, rfl, rfl, .inl rfl⟩
  | rollback =>
    cases hr
    cases i with
    | false => exact ⟨_, rfl, rfl, rfl, hsettled, hjournal⟩
    | true => exact ⟨_, rfl, rfl, hsettled, hsettled, .inl rfl⟩

/-- An answer to somebody else changes nothing of the user. -/
theorem Shows.answered_left (h : Shows u v v') (hv : v.IsSound) (hr : v.reply? i c = some reply)
    (hi : i = true → v'.journal = none) (hask : ∀ r, c = .ask r → v.store.Spares u r)
    (hfit : reply.state.store.Fits u) : Shows u reply.state v' := by
  obtain ⟨st, journal⟩ := v
  obtain ⟨hstore, hsettled, hjournal⟩ := h
  dsimp only at hstore hjournal
  cases c with
  | ask r =>
    have hr' := hask r rfl
    cases journal with
    | none =>
      cases hr
      have hsame : (st.answer r).store.partOf u = st.partOf u := Store.partOf_answer hfit hr'
      exact ⟨hstore.trans hsame.symm, hsettled.trans hsame.symm, hjournal⟩
    | some journal =>
      cases i with
      | false => cases hr
      | true =>
        cases hr
        have hsame : (st.answer r).store.partOf u = st.partOf u := Store.partOf_answer hfit hr'
        refine ⟨hstore.trans hsame.symm, ?_, .inl (hi rfl)⟩
        rw [answerInside, settled_inside hv.store]
        exact hsettled
  | begin =>
    cases journal with
    | none =>
      cases hr
      exact ⟨hstore, hsettled, .inl (or_self_iff.1 hjournal)⟩
    | some journal => cases hr
  | commit =>
    cases hr
    cases i with
    | false => exact ⟨hstore, hsettled, hjournal⟩
    | true => exact ⟨hstore, (settled_eq_store (hi rfl)).trans hstore, .inl (hi rfl)⟩
  | rollback =>
    cases hr
    cases i with
    | false => exact ⟨hstore, hsettled, hjournal⟩
    | true => exact Shows.drop_left ⟨hstore, hsettled, hjournal⟩ (hi rfl)

end Vault

end SessionAuth
