import SessionAuth.Proofs.Service.Completion
import SessionAuth.Proofs.Service.Return

/-!
# No task waits for ever

Whoever is in the transaction can go on to its end, whatever all others do, and then the vault is
open to the next one. So a task whose client waits for it can always run to its end
(`IsRegular.exists_end`).
-/

namespace SessionAuth

variable {s : Service}

/-- A run of who is in the transaction that is open, or in none while none is, ends in the same
way. -/
theorem Program.Goes.journal_isSome {α : Type} {p : Program α} {v w : Vault} {i j : Bool}
    {history : List Exchange} {a : α} (h : p.Goes v i history a w j)
    (hv : v.journal.isSome = i) : w.journal.isSome = j := by
  induction h with
  | done => exact hv
  | log _ _ ih => exact ih hv
  | call hr _ ih => exact ih ((Vault.turn_of_reply hr).journal_isSome hv)

/-- A task that does not have to wait runs to its end, and leaves no transaction open. -/
theorem Task.Conforms.runs_to_end {t : Task} (h : t.Conforms s) (hr : t.rest.isSome) {v : Vault}
    (hv : v.journal.isSome = t.isInside) (mayFail : Bool) :
    ∃ w u r, Runs mayFail (v, t) (w, u) ∧ u.EndsWith r ∧ w.journal = none := by
  obtain ⟨p, hp⟩ := Option.isSome_iff_exists.1 hr
  obtain ⟨later, r, w, j, hgoes, rfl, -⟩ :=
    (h.rest p hp).exists_goes (fun hc => hc.of_begin.1) hv
  have hclosed := hgoes.journal_isSome hv
  exact ⟨w, _, r, runs_of_goes hgoes hp rfl mayFail, rfl, Option.isNone_iff_eq_none.1 (by
    rw [← Option.not_isSome, hclosed]
    rfl)⟩

namespace System

variable {before after : List Task} {t : Task} {v : Vault}

/-- While others wait, a task that does not have to runs to its end. -/
theorem IsRegular.exists_end_alone (ha : IsRegular s ⟨v, before ++ t :: after⟩)
    (hr : t.rest.isSome) (hv : v.journal.isSome = t.isInside) (mayFail : Bool) :
    ∃ w u r, Reaches s mayFail ⟨v, before ++ t :: after⟩ ⟨w, before ++ u :: after⟩ ∧
      IsRegular s ⟨w, before ++ u :: after⟩ ∧ w.journal = none ∧ u.EndsWith r := by
  obtain ⟨w, u, r, hruns, hend, hclosed⟩ := (ha.conforms t (by simp)).runs_to_end hr hv mayFail
  exact ⟨w, u, r, reaches_of_runs before after hruns, ha.runs hruns, hclosed, hend⟩

/-- Whoever is in the transaction can leave it, while all others wait. -/
theorem IsRegular.exists_open {a : System} (ha : a.IsRegular s) {n : Nat}
    (ht : a.tasks[n]? = some t) (hi : t.isInside = false) (mayFail : Bool) :
    ∃ b, a.Reaches s mayFail b ∧ b.IsRegular s ∧ b.vault.journal = none ∧
      b.tasks[n]? = some t := by
  obtain ⟨v, tasks⟩ := a
  cases hj : v.journal with
  | none => exact ⟨_, .refl, ha, hj, ht⟩
  | some journal =>
    have hcount := ha.isExclusive
    rw [IsExclusive, hj] at hcount
    obtain ⟨u, hu, hinside⟩ := List.countP_pos_iff.1 (Nat.lt_of_lt_of_eq Nat.one_pos hcount.symm)
    obtain ⟨before, after, rfl⟩ := List.append_of_mem hu
    obtain ⟨w, u', r, hreaches, hreg, hclosed, -⟩ := ha.exists_end_alone
      ((ha.conforms u hu).rest_isSome_of_inside hinside) (by rw [hj, hinside]; rfl) mayFail
    refine ⟨_, hreaches, hreg, hclosed, ?_⟩
    have hne : before.length ≠ n := by
      rintro rfl
      rw [List.getElem?_append_right (Nat.le_refl _), Nat.sub_self, List.getElem?_cons_zero] at ht
      cases ht
      rw [hi] at hinside
      cases hinside
    rw [getElem?_progress before after u u' n, if_neg hne]
    exact ht

/-- A task that its client has not given up can run to its end, in whatever state all others are. -/
theorem IsRegular.exists_end {a : System} (ha : a.IsRegular s) {n : Nat}
    (ht : a.tasks[n]? = some t) (hr : t.rest.isSome) (mayFail : Bool) :
    ∃ b u r, a.Reaches s mayFail b ∧ b.HasFreshIds ∧ b.tasks[n]? = some u ∧ u.EndsWith r := by
  obtain ⟨b, hab, hb, hturn, hbt⟩ : ∃ b, a.Reaches s mayFail b ∧ b.IsRegular s ∧
      b.vault.journal.isSome = t.isInside ∧ b.tasks[n]? = some t := by
    cases hi : t.isInside with
    | false =>
      obtain ⟨b, hab, hb, hclosed, hbt⟩ := ha.exists_open ht hi mayFail
      exact ⟨b, hab, hb, by rw [hclosed]; rfl, hbt⟩
    | true =>
      exact ⟨a, .refl, ha, ha.isExclusive.isSome_journal (List.mem_of_getElem? ht) hi, ht⟩
  obtain ⟨w, tasks⟩ := b
  obtain ⟨hlt, hget⟩ := List.getElem?_eq_some_iff.1 hbt
  obtain ⟨before, after, hsplit, rfl, -⟩ := @List.exists_of_set _ n t tasks hlt
  rw [hget] at hsplit
  subst hsplit
  obtain ⟨w', u, r, hreaches, hreg, -, hend⟩ := hb.exists_end_alone hr hturn mayFail
  exact ⟨_, u, r, hab.trans hreaches, hreg.hasFreshIds, by simp, hend⟩

end System

end SessionAuth
