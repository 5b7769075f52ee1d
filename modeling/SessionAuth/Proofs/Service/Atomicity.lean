import SessionAuth.Proofs.Service.Scenarios

/-!
# A login is all or nothing

A login that does not succeed leaves the store as it was and its lock free: whichever of its calls
fails, and wherever it is abandoned. Until its commit is answered, its transaction can be taken
back, and it ends without success only before that.
-/

namespace SessionAuth

namespace Service

variable {s : Service} {fresh : Fresh} {history : List Exchange}
  {text password device : String} {f : Fingerprint}

/-- A login makes its requests within its transaction. -/
theorem Calls.isInside_of_ask {isInside : Bool} {r : Request}
    (h : s.Calls fresh (.login text password device) isInside history (.ask r)) :
    isInside = true := by
  cases h
  rfl

/-- A login that fails has not committed. -/
theorem Ends.commitment_not_mem {e : Failure}
    (h : s.Ends fresh (.login text password device) history (.error e)) :
    .commitment ∉ history := by
  cases h with
  | failed h =>
    cases h with
    | begin => simp
  | invalidDevice => simp
  | uncommitted _ h | rolledBack _ h => simp [h.commitment_not_mem]

end Service

/-- The login has not changed the store for good, unless it has committed. -/
structure Task.LeavesSettled (s : Service) (st : Store) (v : Vault) (t : Task) : Prop where
  conforms : t.Conforms s
  isSound : v.IsSound
  isInside : v.journal.isSome = t.isInside
  settled : .commitment ∉ t.history → v.settled = st
  abandoned : t.rest = none → .commitment ∉ t.history

namespace Task

variable {s : Service} {st : Store} {v v' : Vault} {t t' : Task} {mayFail : Bool}
  {text password device : String}

theorem LeavesSettled.step (ht : t.LeavesSettled s st v) (h : t.Step mayFail v v' t')
    (hc : t.command = .login text password device) : t'.LeavesSettled s st v' := by
  have hconf := h.conforms ht.conforms
  cases h.move ht.conforms with
  | logged => exact ⟨hconf, ht.isSound, ht.isInside, ht.settled, nofun⟩
  | @abandoned c hcall =>
    rw [hc] at hcall
    have hnot := hcall.commitment_not_mem
    refine ⟨hconf, ?_, ?_, fun _ => ?_, fun _ => hnot⟩
    · split
      · exact ht.isSound.drop
      · exact ht.isSound
    · have hjournal := ht.isInside
      cases hi : t.isInside with
      | false =>
        rw [hi] at hjournal
        exact hjournal
      | true => rfl
    · split
      · exact ht.settled hnot
      · exact ht.settled hnot
  | @told c next x w hr hcall hturn =>
    rw [hc] at hcall
    have hnot := hcall.commitment_not_mem
    have hopen := hturn.journal_isSome ht.isInside
    refine ⟨hconf, hturn.isSound ht.isSound, hopen, fun hnew => ?_, nofun⟩
    rw [← ht.settled hnot]
    rcases hturn.settled_eq ht.isSound with heq | ⟨heq, -⟩ | ⟨r, heq, hjournal, -⟩
    · exact heq
    · exact absurd (by simp [told, heq]) hnew
    · cases heq
      have hopen := ht.isInside
      rw [hjournal, hcall.isInside_of_ask] at hopen
      cases hopen

theorem LeavesSettled.eq (ht : t.LeavesSettled s st v) (hi : t.isInside = false)
    (hnot : .commitment ∉ t.history) : v = ⟨st, none⟩ := by
  have hsettled := ht.settled hnot
  have hjournal := ht.isInside
  obtain ⟨store, journal⟩ := v
  cases journal with
  | some journal =>
    rw [hi] at hjournal
    cases hjournal
  | none =>
    rw [Vault.settled_of_closed] at hsettled
    rw [hsettled]

theorem LeavesSettled.runs {p q : Vault × Task} (h : Runs mayFail p q)
    (hp : p.2.LeavesSettled s st p.1) (hc : p.2.command = .login text password device) :
    q.2.LeavesSettled s st q.1 ∧ q.2.command = .login text password device := by
  induction h with
  | refl => exact ⟨hp, hc⟩
  | tail _ hstep ih => exact ⟨ih.1.step hstep ih.2, hstep.command_eq.trans ih.2⟩

/-- A login that runs to a failure changes nothing. -/
theorem eq_of_login_goes (hst : st.IsConsistent) {fresh : Fresh} {history : List Exchange}
    {e : Failure} {w : Vault} {i : Bool} (h : (s.login fresh text password device).run.Goes
      ⟨st, none⟩ false history (.error e) w i) : w = ⟨st, none⟩ := by
  have hgoes : (s.perform fresh (.login text password device)).run.Goes ⟨st, none⟩ false history
      (.error e) w i := Operation.goes_error_bind _ h
  have hstart : LeavesSettled s st ⟨st, none⟩ (.start s (.login text password device) fresh) :=
    ⟨conforms_start s _ fresh, Vault.isSound_closed hst, rfl, fun _ => rfl, nofun⟩
  obtain ⟨hleaves, -⟩ := hstart.runs (runs_start hgoes false) rfl
  obtain ⟨hi, hends⟩ := hleaves.conforms.ends rfl
  exact hleaves.eq hi hends.commitment_not_mem

/-- A login that does not succeed changes nothing: from any consistent store, whatever calls fail
and wherever it is abandoned, the store is the one before the login, and its lock is free. -/
theorem login_all_or_nothing (hst : st.IsConsistent) {fresh : Fresh}
    (h : Runs mayFail (⟨st, none⟩, .start s (.login text password device) fresh) (v, t))
    (hend : (∃ e, t.EndsWith (.error e)) ∨ t.rest = none) : v = ⟨st, none⟩ := by
  have hstart : LeavesSettled s st ⟨st, none⟩ (.start s (.login text password device) fresh) :=
    ⟨conforms_start s _ fresh, Vault.isSound_closed hst, rfl, fun _ => rfl, nofun⟩
  obtain ⟨hleaves, hc⟩ := hstart.runs h rfl
  rcases hend with ⟨e, he⟩ | hnone
  · obtain ⟨hi, hends⟩ := hleaves.conforms.ends he
    rw [hc] at hends
    exact hleaves.eq hi hends.commitment_not_mem
  · exact hleaves.eq (hleaves.conforms.outside hnone) (hleaves.abandoned hnone)

/-- A login that has evicted a token, and finds another user's under its new identifier. -/
theorem login_all_or_nothing_evicting : ∃ (st : Store) (id : UserId) (v : Vault) (t : Task),
    Runs false (⟨st, none⟩,
      .start .least (.login "ada@b.cc" "correct horse" "laptop") (.numbered 3)) (v, t) ∧
    ⟨.ask (.deleteTokensOf id), .ok 1⟩ ∈ t.history ∧ st.held id = 1 ∧ v = ⟨st, none⟩ := by
  let u := Service.least.newUser (.numbered 1) ⟨"ada@b.cc"⟩ ⟨"correct horse"⟩
  let w : User := ⟨(Fresh.numbered 4).userId, ⟨"bob@b.cc"⟩, ⟨""⟩, .epoch⟩
  let evicted := Service.least.newToken (.numbered 2) u.id ⟨"laptop"⟩
  let other := Service.least.newToken (.numbered 3) w.id ⟨"laptop"⟩
  have hid : w.id ≠ u.id := by decide
  have hemail : w.email ≠ u.email := by decide
  have hne : evicted.id ≠ other.id := by decide
  obtain ⟨st, hst, hu, hheld, hother⟩ := Store.exists_of_two_users hid hemail rfl rfl hne
  obtain ⟨access, ha⟩ := Service.least.accessFor_newUser Service.isUsable_least
    Service.takes_ada.password (Fresh.length_salt_numbered 1) (.numbered 3) ⟨"ada@b.cc"⟩
  have hq : Service.least.policy.quota ≤ (st.tokensOf u.id).length := Nat.le_of_eq hheld.symm
  obtain ⟨e, v, t, h, he, hevicted⟩ := exists_runs_refused Service.takes_ada.device
    Service.takes_ada.email hu ha hq hother hid false
  have hcount : (st.tokensWhere (·.owner = u.id)).length = 1 := by
    rw [← hheld, Store.held, Store.tokensOf, List.length_mergeSort]
  rw [hcount] at hevicted
  exact ⟨st, u.id, v, t, h, hevicted, hheld, login_all_or_nothing hst h (.inl ⟨e, he⟩)⟩

end Task

end SessionAuth
