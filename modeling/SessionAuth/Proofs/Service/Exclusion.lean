import SessionAuth.Proofs.Service.Conduct

/-!
# One transaction at a time

In every state of a system, at most one task is in a transaction, and one is exactly if the vault
has a journal (`IsExclusive`). What this task was told in its transaction is what the settled store
tells when the same requests are made of it one after the other (`Store.Tells`), and its view of the
store is the one that they leave.
-/

namespace SessionAuth

/-! ### Being told by a store -/

/-- Asked one request after the other, the store gives the answers of the history and becomes the
other one. A request that failed for a reason of its own is left out. -/
def Store.Tells (s : Store) : List Exchange → Store → Prop
  | [], s' => s' = s
  | e :: history, s' =>
    (∃ r, e = ⟨.ask r, (s.answer r).answer⟩ ∧ (s.answer r).store.Tells history s') ∨
      (∃ c f, e = ⟨c, .error f⟩) ∧ s.Tells history s'

namespace Store

variable {s s' : Store} {history : List Exchange}

theorem Tells.ask (h : s.Tells history s') (r : Request) :
    s.Tells (history ++ [⟨.ask r, (s'.answer r).answer⟩]) (s'.answer r).store := by
  induction history generalizing s with
  | nil =>
    cases h
    exact .inl ⟨r, rfl, rfl⟩
  | cons e history ih =>
    rcases h with ⟨r', he, h⟩ | ⟨he, h⟩
    · exact .inl ⟨r', he, ih h⟩
    · exact .inr ⟨he, ih h⟩

theorem Tells.fail (h : s.Tells history s') (c : Call) (f : Failure) :
    s.Tells (history ++ [⟨c, .error f⟩]) s' := by
  induction history generalizing s with
  | nil => exact .inr ⟨⟨c, f, rfl⟩, h⟩
  | cons e history ih =>
    rcases h with ⟨r, he, h⟩ | ⟨he, h⟩
    · exact .inl ⟨r, he, ih h⟩
    · exact .inr ⟨he, ih h⟩

/-- An answer that is no failure comes from the store. -/
theorem Tells.of_ok {r : Request} {x : r.Answer}
    (h : s.Tells (⟨.ask r, .ok x⟩ :: history) s') :
    (s.answer r).answer = .ok x ∧ (s.answer r).store.Tells history s' := by
  rcases h with ⟨r', he, h⟩ | ⟨⟨c, f, he⟩, -⟩
  · simp only [Exchange.mk.injEq, Call.ask.injEq] at he
    obtain ⟨rfl, hx⟩ := he
    exact ⟨(eq_of_heq hx).symm, h⟩
  · cases he

end Store

/-! ### Who is in a transaction -/

namespace Vault

variable {v w : Vault} {c : Call} {x : Except Failure c.Answer}

/-- While a transaction is open, nobody else changes the vault. -/
theorem Turn.eq_of_outside (h : Turn v false c x w) (hv : v.journal.isSome) : w = v := by
  generalize hi : false = isInside at h
  cases h with
  | outside | begin => cases hv
  | inside | commit | rollback => cases hi
  | commitOutside | rollbackOutside => rfl
  | failed v isInside c f =>
    rcases afterFailure_eq v isInside c with h | ⟨h, -⟩
    · exact h
    · rw [h] at hi
      cases hi

/-- How many callers are in a transaction is known from the vault after a call if it was before,
where `n` other callers are in one. -/
theorem Turn.count_eq {isInside : Bool} (h : Turn v isInside c x w) {n : Nat}
    (hn : n + isInside.toNat = v.journal.isSome.toNat) :
    n + (c.isInsideAfter isInside x).toNat = w.journal.isSome.toNat := by
  cases h with
  | outside | inside | commitOutside | rollbackOutside => exact hn
  | begin s isInside =>
    have hzero : n + isInside.toNat = 0 := hn
    have hone : n + 1 = 1 := by omega
    exact hone
  | commit v | rollback v =>
    have hle := v.journal.isSome.toNat_le
    have hone : n + 1 = v.journal.isSome.toNat := hn
    have hzero : n + 0 = 0 := by omega
    exact hzero
  | failed v isInside c f =>
    cases c with
    | ask | begin => exact hn
    | commit | rollback =>
      cases isInside with
      | false => exact hn
      | true =>
        have hle := v.journal.isSome.toNat_le
        have hone : n + 1 = v.journal.isSome.toNat := hn
        have hzero : n + 0 = 0 := by omega
        exact hzero

end Vault

namespace System

variable {s : Service} {mayFail : Bool} {a b : System}

/-- One task is in a transaction if one is open, and none if none is. -/
def IsExclusive (a : System) : Prop :=
  a.tasks.countP (·.isInside) = a.vault.journal.isSome.toNat

theorem isExclusive_initial : initial.IsExclusive := rfl

theorem IsExclusive.step (ha : a.IsExclusive) (h : Step s mayFail a b) (hconf : a.Conforms s) :
    b.IsExclusive := by
  unfold IsExclusive at ha ⊢
  cases h with
  | arrival v tasks command fresh =>
    rw [List.countP_append]
    exact ha
  | @progress before after v v' t t' h =>
    have hcount (t : Task) : (before ++ t :: after).countP (·.isInside) =
        (before.countP (·.isInside) + after.countP (·.isInside)) + t.isInside.toNat := by
      rw [List.countP_append, List.countP_cons, ← Nat.add_assoc]
      cases t.isInside <;> rfl
    simp only [hcount] at ha ⊢
    cases h.move (hconf t (by simp)) with
    | logged => exact ha
    | told next hr hc hturn => exact hturn.count_eq ha
    | abandoned hc =>
      cases hi : t.isInside with
      | false =>
        rw [hi] at ha
        exact (Vault.Turn.rollbackOutside v).count_eq ha
      | true =>
        rw [hi] at ha
        exact (Vault.Turn.rollback v).count_eq ha

theorem Reaches.isExclusive (h : initial.Reaches s mayFail a) : a.IsExclusive := by
  induction h with
  | refl => exact isExclusive_initial
  | tail hr h ih => exact ih.step h (Reaches.conforms hr)

/-- A task is in a transaction only if one is open. -/
theorem IsExclusive.isSome_journal (ha : a.IsExclusive) {t : Task} (ht : t ∈ a.tasks)
    (hi : t.isInside = true) : a.vault.journal.isSome = true := by
  have hpos : 0 < a.tasks.countP (·.isInside) := List.countP_pos_iff.2 ⟨t, ht, hi⟩
  rw [ha] at hpos
  cases hj : a.vault.journal.isSome with
  | false =>
    rw [hj] at hpos
    cases hpos
  | true => rfl

/-- No task is in a transaction if none is open. -/
theorem IsExclusive.eq_false_of_closed (ha : a.IsExclusive) {t : Task} (ht : t ∈ a.tasks)
    (hj : a.vault.journal = none) : t.isInside = false := by
  rw [← Bool.not_eq_true]
  intro hi
  have hsome := ha.isSome_journal ht hi
  rw [hj] at hsome
  cases hsome

/-- While one task is in the transaction, no other is. -/
theorem IsExclusive.eq_false {v : Vault} {before after : List Task} {t : Task}
    (ha : IsExclusive ⟨v, before ++ t :: after⟩) {u : Task} (hu : u ∈ before ∨ u ∈ after)
    (hi : u.isInside = true) : t.isInside = false := by
  have hpos : 0 < before.countP (·.isInside) + after.countP (·.isInside) := by
    rcases hu with hu | hu
    · exact Nat.add_pos_left (List.countP_pos_iff.2 ⟨u, hu, hi⟩) _
    · exact Nat.add_pos_right _ (List.countP_pos_iff.2 ⟨u, hu, hi⟩)
  have hle := v.journal.isSome.toNat_le
  simp only [IsExclusive, List.countP_append, List.countP_cons] at ha
  cases ht : t.isInside with
  | false => rfl
  | true =>
    rw [ht, if_pos rfl] at ha
    omega

end System

/-! ### What is told in a transaction -/

/-- The settled store tells what the history says was told in the transaction, and becomes the store
that the transaction sees. -/
def Vault.TellsInside (v : Vault) (history : List Exchange) : Prop :=
  ∃ later, history = ⟨.begin, .ok ()⟩ :: later ∧ v.settled.Tells later v.store

theorem Vault.Turn.tellsInside {v w : Vault} {isInside : Bool} {c : Call}
    {x : Except Failure c.Answer} {history : List Exchange} (h : Turn v isInside c x w)
    (hv : v.IsSound) (hj : isInside = true → v.journal.isSome = true)
    (hbegin : c = .begin → isInside = false ∧ history = [])
    (ht : isInside = true → v.TellsInside history) (hi : c.isInsideAfter isInside x = true) :
    w.TellsInside (history ++ [⟨c, x⟩]) := by
  cases h with
  | outside s _ r => cases hj hi
  | inside s journal r =>
    obtain ⟨later, rfl, htold⟩ := ht rfl
    refine ⟨later ++ [⟨.ask r, (s.answer r).answer⟩], rfl, ?_⟩
    rw [Vault.settled_inside hv.store]
    exact htold.ask r
  | begin s _ =>
    obtain ⟨-, rfl⟩ := hbegin rfl
    exact ⟨[], rfl, rfl⟩
  | commit | rollback | commitOutside | rollbackOutside => cases hi
  | failed v isInside c f =>
    cases c with
    | ask r =>
      obtain ⟨later, rfl, htold⟩ := ht hi
      refine ⟨later ++ [⟨.ask r, .error f⟩], rfl, ?_⟩
      exact htold.fail (.ask r) f
    | begin =>
      rw [(hbegin rfl).1] at hi
      cases hi
    | commit | rollback => cases hi

theorem Service.Calls.of_begin {s : Service} {fresh : Fresh} {command : Command} {isInside : Bool}
    {history : List Exchange} (h : s.Calls fresh command isInside history .begin) :
    isInside = false ∧ history = [] := by
  cases h
  exact ⟨rfl, rfl⟩

namespace System

variable {s : Service} {mayFail : Bool} {a b : System}

/-- The task that is in the transaction was told what the settled store tells. -/
def TellsInside (a : System) : Prop :=
  ∀ t ∈ a.tasks, t.isInside = true → a.vault.TellsInside t.history

theorem TellsInside.step (ha : a.TellsInside) (h : Step s mayFail a b) (hconf : a.Conforms s)
    (hsound : a.vault.IsSound) (hex : a.IsExclusive) : b.TellsInside := by
  cases h with
  | arrival v tasks command fresh =>
    intro u hu hi
    rcases List.mem_append.1 hu with hu | hu
    · exact ha u hu hi
    · rw [List.mem_singleton.1 hu] at hi
      cases hi
  | @progress before after v v' t t' h =>
    have hmove := h.move (hconf t (by simp))
    intro u hu hi
    by_cases hut : u = t'
    · subst hut
      have ht := ha t (by simp)
      cases hmove with
      | logged => exact ht hi
      | abandoned hc => cases hi
      | @told c next x w hr hc hturn =>
        refine hturn.tellsInside hsound (hex.isSome_journal (by simp)) (fun hb => ?_) ht hi
        subst hb
        exact hc.of_begin
    · have hother : u ∈ before ∨ u ∈ after := by simpa [hut] using hu
      have hjournal := hex.isSome_journal (t := u) (by rcases hother with h | h <;> simp [h]) hi
      have hout := hex.eq_false hother hi
      have hv : v' = v := by
        cases hmove with
        | logged => rfl
        | abandoned hc => rw [hout, if_neg Bool.false_ne_true]
        | told next hr hc hturn =>
          rw [hout] at hturn
          exact hturn.eq_of_outside hjournal
      rw [hv]
      exact ha u (by rcases hother with h | h <;> simp [h]) hi

end System

end SessionAuth
