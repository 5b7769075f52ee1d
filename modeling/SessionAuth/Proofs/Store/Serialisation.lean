import SessionAuth.Proofs.Store.Locks

/-!
# Serialisation

However the clients of a store interleave, they are told what they would have been told one after
the other, in the order in which they got the gate (`Clients.serialises`).

A request from outside that has given the gate back still owes the maps its change, and whoever gets
the gate next sees it only because the latch is passed on with it. So the invariant speaks of the
store that is due, in which this change is made already (`Phase.ahead`). That store is the one that
the log leaves, up to what the client with the gate has done since (`Phase.Fits`).
-/

namespace SessionAuth

/-! ### What a phase tells of the store -/

namespace Phase

variable {s d : Store} {log : List Entry} {n : Nat} {p : Phase}

/-- The client has yet to complete the entry at this place. -/
def Awaits (n : Nat) : Phase → Prop
  | admitted m _ | holding m _ | passing m _ => m = n
  | inside m _ | working m _ _ | changed m _ _ | recording m _ _ => m = n
  | _ => False

/-- The store as it is once the client with the latch has made the change that is due. -/
def ahead (s : Store) : Phase → Store
  | passing _ r => (s.answer r).store
  | _ => s

/-- The store that is due after the next move of the client. -/
def next (d : Store) : Phase → Store
  | holding _ r | working _ _ r => (d.answer r).store
  | undoing journal => journal.getLast?.elim d (Undo.apply d)
  | _ => d

/-- The log ends with an open transaction, through which the store that is due came from the one
before it, and to which the journal leads back. -/
def IsOpen (s d : Store) (log : List Entry) (n : Nat) (journal : List Undo) : Prop :=
  ∃ log' requests told, log = log' ++ [.transaction requests told none] ∧ n = log'.length ∧
    d = (s.after log').afterAll requests ∧ d.takeBack journal = s.after log'

/-- How the store that is due stands to the log, as far as the client with the gate is concerned. -/
def Fits (s d : Store) (log : List Entry) : Phase → Prop
  | admitted n r | holding n r =>
    ∃ log', log = log' ++ [.request r none] ∧ n = log'.length ∧ d = s.after log'
  | inside n journal | working n journal _ => IsOpen s d log n journal
  | changed n journal changes | recording n journal changes => IsOpen s d log n (journal ++ changes)
  | closing journal | undoing journal => d.takeBack journal = s.after log
  | leaving => d = s.after log
  | idle | passing _ _ | served => True

/-- While a request from outside has yet to use the maps, a client with the gate has come after it
and has not changed anything. -/
def Waits (n : Nat) : Phase → Prop
  | admitted m _ => n < m
  | inside m journal => n < m ∧ journal = []
  | closing journal => journal = []
  | recording _ _ _ => False
  | _ => True

end Phase

/-! ### Moves -/

/-- The last entry of a log is changed. -/
theorem modify_concat (log : List Entry) (e : Entry) (f : Entry → Entry) :
    (log ++ [e]).modify log.length f = log ++ [f e] := by
  induction log with
  | nil => rfl
  | cons e' log ih => exact congrArg (e' :: ·) ih

namespace Move

variable {κ : Type} {c : κ} {v v' : Shared κ} {p p' : Phase} {s d : Store} {n : Nat}

/-- Only a client with the latch changes the maps. -/
theorem eq_of_not_hasLatch (h : Move c v p v' p') (hp : p.hasLatch = false) :
    v'.store = v.store ∧ p.next d = d := by
  cases h <;> first | exact ⟨rfl, rfl⟩ | cases hp

/-- Only a client with the gate changes the store that is due. -/
theorem next_eq_of_not_hasGate (h : Move c v p v' p') (hp : p.hasGate = false) : p.next d = d := by
  cases h <;> first | rfl | cases hp

/-- The client with the gate keeps the account of the log. -/
theorem fits (h : Move c v p v' p') (hs : s.IsConsistent)
    (hfree : v.gate = none → d = s.after v.log) (hahead : p.hasLatch → d = p.ahead v.store)
    (hp : p.Fits s d v.log) : p'.Fits s (p.next d) v'.log := by
  cases h with
  | enter => exact ⟨_, rfl, rfl, hfree rfl⟩
  | begin =>
    have hd := hfree rfl
    exact ⟨_, [], [], rfl, rfl, hd, hd⟩
  | change s' gate latch log n journal r =>
    obtain ⟨log', requests, told, rfl, rfl, hd, hj⟩ := hp
    have hdc : d.IsConsistent := by
      rw [hd]
      exact Store.isConsistent_afterAll (Store.isConsistent_after hs log') requests
    have hd' : d = s' := hahead rfl
    refine ⟨log', requests ++ [r], _, modify_concat _ _ _, rfl, ?_, ?_⟩
    · show (d.answer r).store = _
      rw [Store.afterAll_concat, ← hd]
    · show (d.answer r).store.takeBack (journal ++ (s'.answer r).journal) = _
      rw [← hd', Store.takeBack_append, Store.takeBack_answer hdc, hj]
  | commit s' gate latch log n journal =>
    obtain ⟨log', requests, told, rfl, rfl, hd, hj⟩ := hp
    show d = _
    rw [modify_concat, Store.after_concat]
    exact hd
  | giveUp s' gate latch log n journal ending h =>
    obtain ⟨log', requests, told, rfl, rfl, hd, hj⟩ := hp
    show d.takeBack journal = _
    rw [modify_concat, Store.after_concat]
    simpa [Entry.leave, Entry.close, h] using hj
  | undo s' gate latch log journal u =>
    have hu : Phase.next d (.undoing (journal ++ [u])) = u.apply d := by simp [Phase.next]
    have hp' : d.takeBack (journal ++ [u]) = s.after log := hp
    rw [Store.takeBack_append] at hp'
    rw [hu]
    exact hp'
  | pass | serve | depart | leave => trivial
  | hold | work | unlatch | record | skip | seize | finish => exact hp

/-- The client with the latch keeps the account of the maps, and a free latch leaves nothing due. -/
theorem ahead (h : Move c v p v' p') (hun : v.latch = none → d = v.store)
    (hown : p.hasLatch → v.latch = some c) (hahead : p.hasLatch → d = p.ahead v.store) :
    (p'.hasLatch → p.next d = p'.ahead v'.store) ∧ (v'.latch = none → p.next d = v'.store) := by
  cases h with
  | hold | work | seize => exact ⟨fun _ => hun rfl, nofun⟩
  | pass s' gate latch log n r =>
    have hd : d = s' := hahead rfl
    have hlatch : latch = some c := hown rfl
    subst hd hlatch
    exact ⟨fun _ => rfl, nofun⟩
  | serve s' gate latch log n r =>
    have hlatch : latch = some c := hown rfl
    subst hlatch
    exact ⟨fun _ => hahead rfl, nofun⟩
  | change s' gate latch log n journal r =>
    have hd : d = s' := hahead rfl
    have hlatch : latch = some c := hown rfl
    subst hd hlatch
    exact ⟨fun _ => rfl, nofun⟩
  | undo s' gate latch log journal u =>
    have hd : d = s' := hahead rfl
    have hlatch : latch = some c := hown rfl
    subst hd hlatch
    have hu : Phase.next d (.undoing (journal ++ [u])) = u.apply d := by simp [Phase.next]
    exact ⟨fun _ => hu, nofun⟩
  | depart | unlatch | finish => exact ⟨nofun, fun _ => hahead rfl⟩
  | enter | begin | record | commit | giveUp | skip | leave => exact ⟨nofun, fun hn => hun hn⟩

/-- Nothing is missing from the log once the gate is free. -/
theorem free (h : Move c v p v' p') (hgate : v'.gate = none)
    (hfree : v.gate = none → d = s.after v.log) (hown : p.hasGate → v.gate = some c)
    (hpass : ∀ n r, p = .passing n r → v.log[n]? = some (.request r none))
    (hp : p.Fits s d v.log) : p.next d = s.after v'.log := by
  cases h with
  | enter | begin => cases hgate
  | pass s' gate latch log n r =>
    obtain ⟨log', rfl, -, hd⟩ := hp
    show (d.answer r).store = _
    rw [Store.after_concat, ← hd]
    rfl
  | serve s' gate latch log n r =>
    show d = s.after (log.set n _)
    rw [Store.after_set (hpass n r rfl)]
    · exact hfree hgate
    · exact fun _ => rfl
  | depart => exact hfree hgate
  | leave => exact hp
  | _ => cases (hown rfl).symm.trans hgate

/-- What is told agrees with the log. -/
theorem agreesWith (h : Move c v p v' p') (hahead : p.hasLatch → d = p.ahead v.store)
    (hpass : ∀ n r, p = .passing n r →
      v.log[n]? = some (.request r none) ∧ v.store = s.after (v.log.take n))
    (hp : p.Fits s d v.log) (ha : s.AgreesWith v.log) : s.AgreesWith v'.log := by
  cases h with
  | enter => exact Store.agreesWith_concat ha nofun
  | begin => exact Store.agreesWith_concat ha rfl
  | serve s' gate latch log n r =>
    obtain ⟨hn, hstore⟩ := hpass n r rfl
    refine ha.set hn (fun _ => rfl) fun x hx => ?_
    cases hx
    rw [← hstore]
  | change s' gate latch log n journal r =>
    obtain ⟨log', requests, told, rfl, rfl, hd, -⟩ := hp
    obtain ⟨ha', htold⟩ := ha.of_concat
    have htold' : told = (s.after log').tell requests := htold
    have hd' : d = s' := hahead rfl
    rw [modify_concat]
    refine Store.agreesWith_concat ha' ?_
    show told ++ [_] = (s.after log').tell (requests ++ [r])
    rw [Store.tell_concat, ← htold', ← hd, hd']
  | commit s' gate latch log n journal | giveUp s' gate latch log n journal ending h =>
    obtain ⟨log', requests, told, rfl, rfl, -, -⟩ := hp
    obtain ⟨ha', htold⟩ := ha.of_concat
    rw [modify_concat]
    exact Store.agreesWith_concat ha' htold
  | _ => exact ha

/-- A move of another client leaves a request from outside alone that has yet to use the maps. -/
theorem waits (h : Move c v p v' p') (hp : p.hasLatch = false) (hn : n < v.log.length)
    (hw : p.Waits n) :
    v'.log.take n = v.log.take n ∧ v'.log[n]? = v.log[n]? ∧ (v.latch = none ∨ p'.Waits n) := by
  cases h with
  | enter | begin =>
    refine ⟨List.take_append_of_le_length (Nat.le_of_lt hn), List.getElem?_append_left hn, .inr ?_⟩
    first | exact hn | exact ⟨hn, rfl⟩
  | hold | work | seize => exact ⟨rfl, rfl, .inl rfl⟩
  | record => cases hw
  | commit s' gate latch log m journal | giveUp s' gate latch log m journal =>
    have hne : m ≠ n := Nat.ne_of_gt hw.1
    refine ⟨?_, ?_, .inr ?_⟩
    · rw [List.take_modify, List.modify_eq_self]
      exact Nat.le_trans (List.length_take_le n log) (Nat.le_of_lt hw.1)
    · exact List.getElem?_modify_ne _ log hne
    · first | trivial | exact hw.2
  | skip | leave => exact ⟨rfl, rfl, .inr trivial⟩
  | pass | serve | depart | change | unlatch | undo | finish => cases hp

/-- Entries are completed by the clients that began them. -/
theorem started (h : Move c v p v' p') (hp : p.Fits s d v.log) {e' : Entry}
    (hn : v'.log[n]? = some e') (hd : ¬ e'.IsDone) :
    p'.Awaits n ∨ ∃ e, v.log[n]? = some e ∧ ¬ e.IsDone ∧ ¬ p.Awaits n := by
  cases h with
  | enter s' latch log r | begin s' latch log =>
    rcases Nat.lt_trichotomy n log.length with hlt | heq | hgt
    · rw [List.getElem?_append_left hlt] at hn
      exact .inr ⟨e', hn, hd, id⟩
    · exact .inl heq.symm
    · have hlt : n < log.length + 1 := by simpa using (List.getElem?_eq_some_iff.1 hn).1
      omega
  | serve s' gate latch log m r =>
    simp only [List.getElem?_set] at hn
    split_ifs at hn with hm
    · cases hn
      exact absurd rfl hd
    · exact .inr ⟨e', hn, hd, hm⟩
  | change s' gate latch log m journal r =>
    by_cases hm : m = n
    · exact .inl hm
    · rw [List.getElem?_modify_ne _ log hm] at hn
      exact .inr ⟨e', hn, hd, hm⟩
  | commit s' gate latch log m journal | giveUp s' gate latch log m journal =>
    by_cases hm : m = n
    · obtain ⟨log', requests, told, rfl, rfl, -, -⟩ := hp
      subst hm
      simp only [modify_concat, List.getElem?_concat_length, Option.some.injEq] at hn
      subst hn
      exact absurd rfl hd
    · rw [List.getElem?_modify_ne _ log hm] at hn
      exact .inr ⟨e', hn, hd, hm⟩
  | hold s' gate log m | pass s' gate latch log m | work s' gate log m
  | unlatch s' gate latch log m | record v m =>
    by_cases hm : m = n
    · exact .inl hm
    · exact .inr ⟨e', hn, hd, hm⟩
  | depart | skip | seize | undo | finish | leave => exact .inr ⟨e', hn, hd, id⟩

/-- A client without the gate changes the log by taking the gate, or by an answer it still owed. -/
theorem log_eq_of_not_hasGate (h : Move c v p v' p') (hp : p.hasGate = false) :
    v.gate = none ∨ v'.log = v.log ∨
      ∃ n r x, p = .passing n r ∧ v'.log = v.log.set n (.request r (some x)) := by
  cases h with
  | enter | begin => exact .inl rfl
  | serve s' gate latch log n r => exact .inr (.inr ⟨n, r, _, rfl, rfl⟩)
  | depart => exact .inr (.inl rfl)
  | _ => cases hp

/-- A request from outside gives the gate back before anyone else can have changed anything. -/
theorem passing {r : Request} (h : Move c v p v' p') (hp' : p' = .passing n r)
    (hahead : p.hasLatch → d = p.ahead v.store) (hp : p.Fits s d v.log) :
    p.hasGate = true ∧ v'.log[n]? = some (.request r none) ∧
      v'.store = s.after (v'.log.take n) := by
  cases h with
  | pass s' gate latch log m r' =>
    cases hp'
    obtain ⟨log', rfl, rfl, hd⟩ := hp
    have hd' : d = s' := hahead rfl
    refine ⟨rfl, List.getElem?_concat_length, ?_⟩
    rw [List.take_left' rfl, ← hd, hd']
  | _ => cases hp'

end Move

/-! ### Runs -/

theorem Phase.fits_of_not_hasGate {s d : Store} {log : List Entry} {p : Phase}
    (hp : p.hasGate = false) : p.Fits s d log := by
  cases p with
  | idle | passing | served => trivial
  | _ => cases hp

theorem Phase.waits_of_not_hasGate {n : Nat} {p : Phase} (hp : p.hasGate = false) : p.Waits n := by
  cases p with
  | idle | passing | served => trivial
  | _ => cases hp

/-- An answer that is given late leaves the account of the client with the gate as it is. -/
theorem Phase.Fits.set {s d : Store} {log : List Entry} {p : Phase} {n : Nat} {r : Request}
    {x : Except Failure r.Answer} (h : p.Fits s d log) (hn : log[n]? = some (.request r none))
    (hw : p.Waits n) (hp : p.hasLatch = false) :
    p.Fits s d (log.set n (.request r (some x))) := by
  have hafter : s.after (log.set n (.request r (some x))) = s.after log :=
    Store.after_set hn fun _ => rfl
  have hset : ∀ {log' : List Entry} {e : Entry}, log = log' ++ [e] → n < log'.length →
      log.set n (.request r (some x)) = log'.set n (.request r (some x)) ++ [e] ∧
        s.after (log'.set n (.request r (some x))) = s.after log' := by
    intro log' e hlog hlt
    subst hlog
    rw [List.getElem?_append_left hlt] at hn
    exact ⟨List.set_append_left n _ hlt, Store.after_set hn fun _ => rfl⟩
  cases p with
  | admitted m r' =>
    obtain ⟨log', hlog, rfl, hd⟩ := h
    obtain ⟨hlog', hafter'⟩ := hset hlog hw
    exact ⟨_, hlog', List.length_set.symm, hd.trans hafter'.symm⟩
  | inside m journal =>
    obtain ⟨log', requests, told, hlog, rfl, hd, hj⟩ := h
    obtain ⟨hlog', hafter'⟩ := hset hlog hw.1
    rw [← hafter'] at hd hj
    exact ⟨_, requests, told, hlog', List.length_set.symm, hd, hj⟩
  | closing journal => exact Eq.trans h hafter.symm
  | leaving => exact Eq.trans h hafter.symm
  | recording => cases hw
  | idle => trivial
  | _ => cases hp

namespace Clients

variable {κ : Type} {s d : Store} {a b : Clients κ}

/-- The invariant of a run that began with the store `s`, where `d` is the store that is due. -/
structure IsSerial (s d : Store) (a : Clients κ) : Prop where
  gate : Owns Phase.hasGate a.shared.gate a.phase
  latch : Owns Phase.hasLatch a.shared.latch a.phase
  free : a.shared.gate = none → d = s.after a.shared.log
  fits : ∀ c, (a.phase c).Fits s d a.shared.log
  unlatched : a.shared.latch = none → d = a.shared.store
  ahead : ∀ c, (a.phase c).hasLatch → d = (a.phase c).ahead a.shared.store
  agrees : s.AgreesWith a.shared.log
  passing : ∀ c n r, a.phase c = .passing n r →
    a.shared.log[n]? = some (.request r none) ∧ a.shared.store = s.after (a.shared.log.take n) ∧
      ∀ e, (a.phase e).Waits n
  started : ∀ n e, a.shared.log[n]? = some e → ¬ e.IsDone → ∃ c, (a.phase c).Awaits n

theorem isSerial_initial (s : Store) : (initial s : Clients κ).IsSerial s s where
  gate c := by simp [initial, Phase.hasGate]
  latch c := by simp [initial, Phase.hasLatch]
  free _ := rfl
  fits _ := trivial
  unlatched _ := rfl
  ahead _ h := by cases h
  agrees n e h := by simp [initial] at h
  passing c n r h := by cases h
  started n e h := by simp [initial] at h

/-! ### What a move of one client does to the account of all -/

section

variable {c : κ} (ha : a.IsSerial s d)
  (hm : Move c a.shared (a.phase c) b.shared (b.phase c))
  (hother : ∀ e, e ≠ c → b.phase e = a.phase e)

include ha hm hother

theorem IsSerial.fits_step (hs : s.IsConsistent) (e : κ) :
    (b.phase e).Fits s ((a.phase c).next d) b.shared.log := by
  by_cases he : e = c
  · subst he
    exact hm.fits hs ha.free (ha.ahead e) (ha.fits e)
  · rw [hother e he]
    cases hc : (a.phase c).hasGate with
    | true => exact Phase.fits_of_not_hasGate (ha.gate.eq_false hc he)
    | false =>
      rw [hm.next_eq_of_not_hasGate hc]
      rcases hm.log_eq_of_not_hasGate hc with hfree | hlog | ⟨n, r, x, hp, hlog⟩
      · exact Phase.fits_of_not_hasGate (ha.gate.eq_none_iff.1 hfree e)
      · rw [hlog]
        exact ha.fits e
      · obtain ⟨hn, -, hwaits⟩ := ha.passing c n r hp
        have hl : (a.phase c).hasLatch = true := by
          rw [hp]
          rfl
        rw [hlog]
        exact (ha.fits e).set hn (hwaits e) (ha.latch.eq_false hl he)

theorem IsSerial.ahead_step
    (hahead : (b.phase c).hasLatch → (a.phase c).next d = (b.phase c).ahead b.shared.store)
    (e : κ) (hl : (b.phase e).hasLatch) :
    (a.phase c).next d = (b.phase e).ahead b.shared.store := by
  by_cases he : e = c
  · subst he
    exact hahead hl
  · rw [hother e he] at hl ⊢
    obtain ⟨hstore, hd⟩ := hm.eq_of_not_hasLatch (d := d) (ha.latch.eq_false hl (Ne.symm he))
    rw [hstore, hd]
    exact ha.ahead e hl

theorem IsSerial.passing_step (e : κ) (n : Nat) (r : Request) (hp : b.phase e = .passing n r) :
    b.shared.log[n]? = some (.request r none) ∧ b.shared.store = s.after (b.shared.log.take n) ∧
      ∀ e, (b.phase e).Waits n := by
  by_cases he : e = c
  · subst he
    obtain ⟨hg, hn, hstore⟩ := hm.passing hp (ha.ahead e) (ha.fits e)
    refine ⟨hn, hstore, fun e' => ?_⟩
    by_cases he' : e' = e
    · subst he'
      rw [hp]
      trivial
    · rw [hother e' he']
      exact Phase.waits_of_not_hasGate (ha.gate.eq_false hg he')
  · rw [hother e he] at hp
    obtain ⟨hn, hstore, hwaits⟩ := ha.passing e n r hp
    have hl : (a.phase e).hasLatch = true := by
      rw [hp]
      rfl
    have hc : (a.phase c).hasLatch = false := ha.latch.eq_false hl (Ne.symm he)
    obtain ⟨htake, hget, hw⟩ := hm.waits hc (List.getElem?_eq_some_iff.1 hn).1 (hwaits c)
    refine ⟨hget.trans hn, ?_, fun e' => ?_⟩
    · rw [(hm.eq_of_not_hasLatch (d := d) hc).1, htake]
      exact hstore
    · by_cases he' : e' = c
      · subst he'
        refine hw.resolve_left fun hnone => ?_
        cases hnone.symm.trans ((ha.latch e).2 hl)
      · rw [hother e' he']
        exact hwaits e'

theorem IsSerial.started_step (n : Nat) (e : Entry) (hn : b.shared.log[n]? = some e)
    (hd : ¬ e.IsDone) : ∃ c, (b.phase c).Awaits n := by
  rcases hm.started (ha.fits c) hn hd with hp | ⟨e', hn', hd', hp⟩
  · exact ⟨c, hp⟩
  · obtain ⟨c', hc'⟩ := ha.started n e' hn' hd'
    have hne : c' ≠ c := by
      rintro rfl
      exact hp hc'
    refine ⟨c', ?_⟩
    rw [hother c' hne]
    exact hc'

end

theorem IsSerial.step (ha : a.IsSerial s d) (hs : s.IsConsistent) (h : Step a b) :
    ∃ d', b.IsSerial s d' := by
  obtain ⟨c, hm, hother⟩ := h
  obtain ⟨hahead, hun⟩ := hm.ahead ha.unlatched (ha.latch c).2 (ha.ahead c)
  exact ⟨(a.phase c).next d, {
    gate := ha.gate.step hm.handles_gate hother
    latch := ha.latch.step hm.handles_latch hother
    free := fun hfree => hm.free hfree ha.free (ha.gate c).2
      (fun n r hp => (ha.passing c n r hp).1) (ha.fits c)
    fits := ha.fits_step hm hother hs
    unlatched := hun
    ahead := ha.ahead_step hm hother hahead
    agrees := hm.agreesWith (ha.ahead c)
      (fun n r hp => ⟨(ha.passing c n r hp).1, (ha.passing c n r hp).2.1⟩) (ha.fits c) ha.agrees
    passing := ha.passing_step hm hother
    started := ha.started_step hm hother }⟩

theorem Reaches.exists_isSerial (h : (initial s).Reaches a) (hs : s.IsConsistent) :
    ∃ d, a.IsSerial s d := by
  induction h with
  | refl => exact ⟨s, isSerial_initial s⟩
  | tail _ h ih =>
    obtain ⟨d, hd⟩ := ih
    exact hd.step hs h

/-! ### The theorem -/

/-- A client that has come after a request from outside and waits for it has no changes in the
maps. -/
theorem IsSerial.uncommitted_eq_nil (ha : a.IsSerial s d) {c : κ} {n : Nat} {r : Request}
    (hp : a.phase c = .passing n r) (e : κ) : (a.phase e).uncommitted = [] := by
  have hw := (ha.passing c n r hp).2.2 e
  by_cases he : e = c
  · rw [he, hp]
    rfl
  · have hl : (a.phase c).hasLatch = true := by
      rw [hp]
      rfl
    have hnot := ha.latch.eq_false hl he
    cases hpe : a.phase e with
    | inside m journal =>
      rw [hpe] at hw
      exact hw.2
    | closing journal =>
      rw [hpe] at hw
      exact hw
    | recording m journal changes =>
      rw [hpe] at hw
      cases hw
    | working | changed | undoing =>
      rw [hpe] at hnot
      cases hnot
    | _ => rfl

/-- Interleaved clients are served as if they had come one after the other, each request from
outside and each transaction as a whole, in the order in which they got the gate: what they are told
agrees with that order, where a transaction that is not committed leaves no trace. A request from
outside finds the maps as those before it leave them, and no uncommitted change in them. Once all
clients are done, everything is answered, the maps are those that the log leaves, and the vault
answers the same calls in the same way when they are made one after the other. -/
theorem serialises (hs : s.IsConsistent) (h : (initial s).Reaches a) :
    (∀ (n : Nat) (e : Entry), a.shared.log[n]? = some e →
      e.Agrees (s.after (a.shared.log.take n))) ∧
    (∀ c n r, a.phase c = .passing n r →
      a.shared.log[n]? = some (.request r none) ∧ a.shared.store = s.after (a.shared.log.take n) ∧
        ∀ e, (a.phase e).uncommitted = []) ∧
    (a.IsIdle → a.shared.store = s.after a.shared.log ∧ (∀ e ∈ a.shared.log, e.IsDone) ∧
      Vault.ServesAll ⟨s, none⟩ (a.shared.log.map Entry.calls) ⟨a.shared.store, none⟩) := by
  obtain ⟨d, ha⟩ := Reaches.exists_isSerial h hs
  refine ⟨ha.agrees, fun c n r hp => ?_, fun hidle => ?_⟩
  · obtain ⟨hn, hstore, -⟩ := ha.passing c n r hp
    exact ⟨hn, hstore, ha.uncommitted_eq_nil hp⟩
  · have hgate : a.shared.gate = none := ha.gate.eq_none_iff.2 fun c => by
      rw [hidle c]
      rfl
    have hlatch : a.shared.latch = none := ha.latch.eq_none_iff.2 fun c => by
      rw [hidle c]
      rfl
    have hstore : a.shared.store = s.after a.shared.log :=
      (ha.unlatched hlatch).symm.trans (ha.free hgate)
    have hdone : ∀ e ∈ a.shared.log, e.IsDone := by
      intro e he
      obtain ⟨n, hn⟩ := List.getElem?_of_mem he
      refine Classical.byContradiction fun hd => ?_
      obtain ⟨c, hc⟩ := ha.started n e hn hd
      rw [hidle c] at hc
      exact hc
    rw [hstore]
    exact ⟨rfl, hdone, Vault.servesAll_of_agreesWith hs ha.agrees hdone⟩

/-- A user is looked for, and while the maps are still to be used for that, a transaction begins in
which the user is added, and which is dropped. -/
theorem exists_reaches_overlapping (u : User) :
    ∃ a : Clients Bool, (initial .empty).Reaches a ∧ a.IsIdle ∧
      a.shared.log = [.request (.findUser u.id) (some (.ok none)),
        .transaction [.createUser u] [⟨.ask (.createUser u), .ok ()⟩] (some .drop)] := by
  refine ⟨_, .head (.update true (.enter _ _ _ (.findUser u.id))) <|
    .head (.update true (.hold _ _ _ _ _)) <|
    .head (.update true (.pass _ _ _ _ _ _)) <|
    .head (.update false (.begin _ _ _)) <|
    .head (.update true (.serve _ _ _ _ _ _)) <|
    .head (.update true (.depart _ _ _ _)) <|
    .head (.update false (.work _ _ _ _ _ (.createUser u))) <|
    .head (.update false (.change _ _ _ _ _ _ _)) <|
    .head (.update false (.unlatch _ _ _ _ _ _ _)) <|
    .head (.update false (.record _ _ _ _)) <|
    .head (.update false (.giveUp _ _ _ _ _ _ .drop nofun)) <|
    .head (.update false (.seize _ _ _ _ ?_)) <|
    .head (.update false (.undo _ _ _ _ [] (.removeUser u.id))) <|
    .head (.update false (.finish _ _ _ _)) <|
    .single (.update false (.leave _ _ _ _)), ?_, ?_⟩
  · exact List.cons_ne_nil _ _
  · intro c
    cases c <;> rfl
  · rfl

theorem serialises_overlapping :
    ∃ a : Clients Bool, Store.empty.IsConsistent ∧ (initial .empty).Reaches a ∧ a.IsIdle ∧
      a.shared.log = [.request (.findUser default) (some (.ok none)),
        .transaction [.createUser default] [⟨.ask (.createUser default), .ok ()⟩] (some .drop)] ∧
      a.shared.store = .empty := by
  obtain ⟨a, hr, hidle, hlog⟩ := exists_reaches_overlapping default
  obtain ⟨-, -, hfinal⟩ := serialises Store.isConsistent_empty hr
  refine ⟨a, Store.isConsistent_empty, hr, hidle, hlog, ?_⟩
  rw [(hfinal hidle).1, hlog]
  rfl

end Clients

end SessionAuth
