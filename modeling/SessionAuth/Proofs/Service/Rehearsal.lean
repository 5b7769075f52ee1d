import Mathlib.Data.Set.BooleanAlgebra
import SessionAuth.Proofs.Service.Exclusion

/-!
# Rehearsals

Beside the service, any number of clients may rehearse at the vault. They begin a transaction, make
whatever requests they like in it, and give it up. The service sees nothing of that: with the
rehearsal that is open taken back, what is left is a system that the service reaches alone
(`Rehearsals.Reaches.exists_hidden`).
-/

namespace SessionAuth

/-! ### Clients who rehearse -/

/-- A system, and who rehearses at its vault. -/
structure Rehearsals (κ : Type) where
  system : System
  inside : Set κ

namespace Rehearsals

variable {κ : Type}

/-- No task yet, and nobody rehearses. -/
def initial : Rehearsals κ := ⟨.initial, ∅⟩

/-- The service makes a step, or one client does: it begins a transaction as soon as it is let in,
makes a request in it, or gives it up, be it that it rolls it back or drops it. -/
inductive Step (s : Service) (mayFail : Bool) : Rehearsals κ → Rehearsals κ → Prop
  | service (inside : Set κ) {a b : System} (h : a.Step s mayFail b) :
    Step s mayFail ⟨a, inside⟩ ⟨b, inside⟩
  | begin {inside : Set κ} {v : Vault} {reply : Reply Vault Unit} (tasks : List Task) (k : κ)
    (hk : k ∉ inside) (hr : v.reply? false .begin = some reply) :
    Step s mayFail ⟨⟨v, tasks⟩, inside⟩ ⟨⟨reply.state, tasks⟩, insert k inside⟩
  | ask {inside : Set κ} {v : Vault} {r : Request} {reply : Reply Vault r.Answer}
    (tasks : List Task) (k : κ) (hk : k ∈ inside) (hr : v.reply? true (.ask r) = some reply) :
    Step s mayFail ⟨⟨v, tasks⟩, inside⟩ ⟨⟨reply.state, tasks⟩, inside⟩
  | giveUp {inside : Set κ} (v : Vault) (tasks : List Task) (k : κ) (hk : k ∈ inside) :
    Step s mayFail ⟨⟨v, tasks⟩, inside⟩ ⟨⟨v.drop, tasks⟩, inside \ {k}⟩

/-- A run of any length. -/
abbrev Reaches (s : Service) (mayFail : Bool) : Rehearsals κ → Rehearsals κ → Prop :=
  Relation.ReflTransGen (Step s mayFail)

/-! ### What the service sees of them -/

/-- The system is what is left when the rehearsal that is open is taken back. While one is open, no
task is in a transaction. -/
inductive Hides : Rehearsals κ → System → Prop
  | closed (a : System) : Hides ⟨a, ∅⟩ a
  | opened {v : Vault} {tasks : List Task} (k : κ) (hv : v.IsSound) (hj : v.journal.isSome)
    (hout : ∀ t ∈ tasks, t.isInside = false) : Hides ⟨⟨v, tasks⟩, {k}⟩ ⟨v.drop, tasks⟩

end Rehearsals

/-- While somebody else is in the transaction, a task from outside makes the same step whatever the
vault is, and leaves the vault as it is. -/
theorem Task.Step.of_locked {mayFail : Bool} {v v' : Vault} {t t' : Task}
    (h : t.Step mayFail v v' t') (hj : v.journal.isSome) (hi : t.isInside = false) :
    v' = v ∧ t'.isInside = false ∧ ∀ w, t.Step mayFail w w t' := by
  have hfailed (w : Vault) (c : Call) : Backend.afterFailure false w c = w := by cases c <;> rfl
  obtain ⟨journal, hjournal⟩ := Option.isSome_iff_exists.1 hj
  cases h with
  | log h => exact ⟨rfl, hi, fun w => .log h⟩
  | @answered c next reply h hr =>
    rw [hi] at hr
    cases c with
    | ask r => simp [Vault.reply?, hjournal] at hr
    | begin => simp [Vault.reply?, hjournal] at hr
    | commit | rollback =>
      cases hr
      refine ⟨rfl, rfl, fun w => ?_⟩
      exact .answered (r := ⟨.ok (), w, []⟩) h (by rw [hi]; rfl)
  | @failed c next f h hf =>
    rw [hi, hfailed]
    refine ⟨rfl, ?_, fun w => ?_⟩
    · cases c with
      | ask | begin => exact hi
      | commit | rollback => rfl
    · have hstep : t.Step mayFail w (Backend.afterFailure t.isInside w c) _ := .failed f h hf
      rwa [hi, hfailed] at hstep
  | abandoned h =>
    rw [hi]
    refine ⟨rfl, rfl, fun w => ?_⟩
    have hstep : t.Step mayFail w (if t.isInside then w.drop else w) t.abandoned := .abandoned h
    rwa [hi] at hstep

namespace Rehearsals

variable {κ : Type} {s : Service} {mayFail : Bool} {a b : Rehearsals κ} {c d : System}

theorem Hides.tasks_eq (h : a.Hides c) : c.tasks = a.system.tasks := by
  cases h <;> rfl

theorem Hides.settled_eq (h : a.Hides c) : c.vault.settled = a.system.vault.settled := by
  cases h <;> rfl

/-- What clients do in a rehearsal is no step of the service, and what the service does meanwhile is
one. -/
theorem Step.hides (h : a.Step s mayFail b) (ha : a.Hides c)
    (hc : System.initial.Reaches s mayFail c) :
    b.Hides c ∨ ∃ d, c.Step s mayFail d ∧ b.Hides d := by
  cases ha with
  | closed =>
    cases h with
    | service _ h => exact .inr ⟨_, h, .closed _⟩
    | @begin _ v _ tasks k _ hr =>
      left
      obtain ⟨st, journal⟩ := v
      cases journal with
      | some => cases hr
      | none =>
        cases hr
        rw [insert_empty_eq]
        refine .opened k ?_ rfl fun t ht => ?_
        · have hsound := System.Reaches.isSound hc
          exact ⟨hsound.store, hsound.store⟩
        · exact (System.Reaches.isExclusive hc).eq_false_of_closed ht rfl
    | ask _ _ hk | giveUp _ _ _ hk => exact absurd hk (Set.notMem_empty _)
  | @opened v tasks k hv hj hout =>
    cases h with
    | service _ h =>
      right
      cases h with
      | arrival _ _ command fresh =>
        refine ⟨_, .arrival v.drop tasks command fresh, .opened k hv hj fun t ht => ?_⟩
        rcases List.mem_append.1 ht with ht | ht
        · exact hout t ht
        · rw [List.mem_singleton.1 ht]
          rfl
      | @progress before after _ v' t t' h =>
        obtain ⟨rfl, hi, hsame⟩ := h.of_locked hj (hout t (by simp))
        refine ⟨_, .progress before after (hsame v'.drop), .opened k hv hj fun u hu => ?_⟩
        simp only [List.mem_append, List.mem_cons] at hu
        rcases hu with hu | rfl | hu
        · exact hout u (by simp [hu])
        · exact hi
        · exact hout u (by simp [hu])
    | begin _ _ _ hr => simp [Vault.reply?, hj] at hr
    | @ask _ _ r _ _ _ _ hr =>
      left
      obtain ⟨st, journal⟩ := v
      cases journal with
      | none => cases hj
      | some journal =>
        have hturn := Vault.turn_of_reply hr
        cases hr
        have hdrop : Vault.drop ⟨st, some journal⟩ =
            Vault.drop ⟨(st.answer r).store, some (journal ++ (st.answer r).journal)⟩ := by
          rw [Vault.drop_eq, Vault.drop_eq, Vault.settled_inside hv.store]
        rw [hdrop]
        exact .opened k (hturn.isSound hv) rfl hout
    | giveUp _ _ _ hk =>
      left
      rw [Set.mem_singleton_iff.1 hk, sdiff_self]
      exact .closed _

/-- Whatever is rehearsed, the service reaches what is left without it. -/
theorem Reaches.exists_hidden (h : initial.Reaches s mayFail a) :
    ∃ c, System.initial.Reaches s mayFail c ∧ a.Hides c := by
  induction h with
  | refl => exact ⟨.initial, .refl, .closed _⟩
  | tail _ h ih =>
    obtain ⟨c, hc, ha⟩ := ih
    rcases h.hides ha hc with hb | ⟨d, hd, hb⟩
    · exact ⟨c, hc, hb⟩
    · exact ⟨d, hc.tail hd, hb⟩

/-- The rehearsal that is open can be given up. -/
theorem Hides.reaches (h : a.Hides c) (s : Service) (mayFail : Bool) :
    a.Reaches s mayFail ⟨c, ∅⟩ := by
  cases h with
  | closed => exact .refl
  | @opened v tasks k =>
    have hstep : Step s mayFail ⟨⟨v, tasks⟩, {k}⟩ ⟨⟨v.drop, tasks⟩, {k} \ {k}⟩ :=
      .giveUp v tasks k rfl
    rw [sdiff_self] at hstep
    exact .single hstep

/-- The service goes on beside those who rehearse. -/
theorem reaches_of_system (h : c.Reaches s mayFail d) (inside : Set κ) :
    Reaches s mayFail ⟨c, inside⟩ ⟨d, inside⟩ :=
  Relation.ReflTransGen.lift (fun c => mk c inside) (fun _ _ h => Step.service inside h) _ _ h

end Rehearsals

end SessionAuth
