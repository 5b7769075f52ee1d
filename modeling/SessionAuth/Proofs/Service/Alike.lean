import SessionAuth.Proofs.Service.Record

/-!
# Programs that tell failures of the server apart by nothing

Failures of the server are alike if they differ in their details only (`Failure.Alike`). Two
programs are alike if answers that are alike always lead them to the same next call, and in the end
to results that are related (`Program.Alike`). That is shown along the code of both, with one rule
for each kind of step. Two runs in which the calls were answered alike then come to related results
(`Program.Alike.of_finished`).
-/

namespace SessionAuth

namespace Failure

/-- The same failure, or two of the server that differ in their details only. -/
inductive Alike : Failure → Failure → Prop
  | refl (f : Failure) : Alike f f
  | hashing (a b : String) : Alike (.hashing a) (.hashing b)
  | signing (a b : String) : Alike (.signing a) (.signing b)
  | database (a b : Database.Fault) : Alike (.database a) (.database b)
  | storeUnavailable (a b : String) : Alike (.storeUnavailable a) (.storeUnavailable b)
  | internal (a b : String) : Alike (.internal a) (.internal b)

/-- Failures that are alike are told alike. -/
theorem Alike.problem_eq {f g : Failure} (h : f.Alike g) : f.problem = g.problem := by
  cases h <;> rfl

/-- The same value, or failures that are alike. -/
inductive AlikeIn {α : Type} : Except Failure α → Except Failure α → Prop
  | ok (a : α) : AlikeIn (.ok a) (.ok a)
  | error {f g : Failure} (h : f.Alike g) : AlikeIn (.error f) (.error g)

theorem AlikeIn.refl {α : Type} (x : Except Failure α) : AlikeIn x x := by
  cases x with
  | error f => exact .error (.refl f)
  | ok a => exact .ok a

end Failure

open Failure (AlikeIn)

/-! ### Programs -/

namespace Program

variable {α β γ δ : Type}

/-- Answers that are alike lead both programs on alike, and their results are related. How a
rollback is answered does not matter at all. Logs may differ. -/
inductive Alike (r : α → β → Prop) : Program α → Program β → Prop
  | done {a : α} {b : β} (h : r a b) : Alike r (done a) (done b)
  | logLeft {e : Event} {p : Program α} {q : Program β} (h : Alike r p q) : Alike r (log e p) q
  | logRight {e : Event} {p : Program α} {q : Program β} (h : Alike r p q) : Alike r p (log e q)
  | call {c : Call} {f : Except Failure c.Answer → Program α}
    {g : Except Failure c.Answer → Program β}
    (h : ∀ x y, c = .rollback ∨ AlikeIn x y → Alike r (f x) (g y)) :
    Alike r (call c f) (call c g)

namespace Alike

variable {r : α → β → Prop} {t : γ → δ → Prop} {p : Program α} {q : Program β}

theorem log {e e' : Event} (h : Alike r p q) : Alike r (.log e p) (.log e' q) :=
  .logLeft (.logRight h)

theorem bind {f : α → Program γ} {g : β → Program δ} (h : Alike r p q)
    (hfg : ∀ a b, r a b → Alike t (f a) (g b)) : Alike t (p.bind f) (q.bind g) := by
  induction h with
  | done h => exact hfg _ _ h
  | logLeft _ ih => exact .logLeft ih
  | logRight _ ih => exact .logRight ih
  | call _ ih => exact .call ih

end Alike

/-- Where both records have the same call, the answers are alike; but for rollbacks. -/
def AnsweredAlike (history later : List Exchange) : Prop :=
  ∀ (n : Nat) (c : Call) (x y : Except Failure c.Answer), history[n]? = some ⟨c, x⟩ →
    later[n]? = some ⟨c, y⟩ → c = .rollback ∨ AlikeIn x y

theorem AnsweredAlike.tail {x y : Exchange} {history later : List Exchange}
    (h : AnsweredAlike (x :: history) (y :: later)) : AnsweredAlike history later :=
  fun n => h (n + 1)

/-- Programs that are alike, and are answered alike up to their ends, end alike. -/
theorem Alike.of_told {r : α → β → Prop} {p : Program α} {q : Program β} (h : Alike r p q)
    {i i' j j' : Bool} {history later : List Exchange} {a : α} {b : β}
    (hp : p.Told i history (.done a) j) (hq : q.Told i' later (.done b) j')
    (hanswered : AnsweredAlike history later) : r a b := by
  induction h generalizing i i' history later with
  | done h =>
    cases hp
    cases hq
    exact h
  | logLeft _ ih =>
    cases hp with
    | log hp => exact ih hp hq hanswered
  | logRight _ ih =>
    cases hq with
    | log hq => exact ih hp hq hanswered
  | call _ ih =>
    cases hp with
    | call hp =>
      cases hq with
      | call hq => exact ih _ _ (hanswered 0 _ _ _ rfl rfl) hp hq hanswered.tail

/-- Runs of programs that are alike, if they are answered alike, come to results that are
related. The backends may be different ones. -/
theorem Alike.of_finished {r : α → β → Prop} {p : Program α} {q : Program β} (h : Alike r p q)
    {σ τ : Type} {b : Backend σ} {d : Backend τ} {i i' : Bool} {s : σ} {s' : τ} {x : α} {y : β}
    (hp : (p.run b i s).rest = .finished x) (hq : (q.run d i' s').rest = .finished y)
    (hanswered : AnsweredAlike (p.record b i s) (q.record d i' s')) : r x y := by
  obtain ⟨⟨j, htp⟩, -⟩ := told_record b p i s
  obtain ⟨⟨j', htq⟩, -⟩ := told_record d q i' s'
  rw [hp] at htp
  rw [hq] at htq
  exact h.of_told htp htq hanswered

end Program

/-! ### Operations -/

namespace Operation

variable {α β : Type}

/-- Operations that are alike end with the same value, or with failures that are alike. -/
abbrev Alike (o o' : Operation α) : Prop := Program.Alike AlikeIn o.run o'.run

variable {o o' : Operation β} {f g : β → Operation α}

theorem Alike.bind (h : Alike o o') (hfg : ∀ b, Alike (f b) (g b)) :
    Alike (o >>= f) (o' >>= g) := by
  refine Program.Alike.bind h ?_
  rintro _ _ (b | h)
  · exact hfg b
  · exact .done (.error h)

/-- Both branch alike. -/
theorem alike_ite {c : Prop} [Decidable c] {o₁ o₂ o₁' o₂' : Operation α} (h₁ : c → Alike o₁ o₁')
    (h₂ : ¬ c → Alike o₂ o₂') : Alike (if c then o₁ else o₂) (if c then o₁' else o₂') := by
  split
  · exact h₁ ‹_›
  · exact h₂ ‹_›

theorem alike_return (a : α) : Alike (return a) (return a) := .done (.ok a)

theorem alike_throw (e : Failure) : Alike (throw e : Operation α) (throw e) :=
  .done (.error (.refl e))

theorem alike_demand {x y : Except Failure α} (h : AlikeIn x y) : Alike (demand x) (demand y) :=
  .done h

theorem alike_demand_refl (x : Except Failure α) : Alike (demand x) (demand x) :=
  alike_demand (.refl x)

theorem alike_log (e : Event) : Alike (log e) (log e) := .log (.done (.ok ()))

theorem alike_call {c : Call} (hc : c ≠ .rollback) : Alike (call c) (call c) :=
  .call fun _ _ h => .done (h.resolve_left hc)

theorem alike_ask (r : Request) : Alike (ask r) (ask r) := alike_call (by simp)

/-- What is attempted may fail in both ways, which are alike. -/
theorem alike_attempt_bind {f g : Except Failure β → Operation α} (h : Alike o o')
    (hfg : ∀ x y, AlikeIn x y → Alike (f x) (g y)) :
    Alike (attempt o >>= f) (attempt o' >>= g) := by
  refine Program.Alike.bind (r := fun x y => ∃ a b, x = .ok a ∧ y = .ok b ∧ AlikeIn a b)
    (Program.Alike.bind h fun x y hxy => .done ⟨x, y, rfl, rfl, hxy⟩) ?_
  rintro _ _ ⟨x, y, rfl, rfl, hxy⟩
  exact hfg x y hxy

/-- An attempt to roll back may succeed or fail. -/
theorem alike_attempt_rollback_bind {f g : Except Failure Unit → Operation α}
    (hfg : ∀ x y, Alike (f x) (g y)) :
    Alike (attempt (call .rollback) >>= f) (attempt (call .rollback) >>= g) :=
  .call fun x y _ => hfg x y

end Operation

end SessionAuth
