import SessionAuth.Proofs.Store.Transaction
import SessionAuth.Service.Program

/-!
# What programs do

A program that follows a description makes only calls, and ends only in ways, that it allows after
what the program was told before (`Program.Follows`). That is shown step by step along the code of
the operation, with one rule for each kind of step.
-/

namespace SessionAuth

namespace Program

variable {α β : Type}

/-- Every call of a program is one of `calls`, and every end one of `ends`. Both may depend on
whether the program is in a transaction and on what it was told before. -/
inductive Follows (calls : Bool → List Exchange → Call → Prop)
    (ends : Bool → List Exchange → α → Prop) : Program α → Bool → List Exchange → Prop
  | done {a : α} {isInside : Bool} {history : List Exchange} (h : ends isInside history a) :
    Follows calls ends (done a) isInside history
  | log {e : Event} {p : Program α} {isInside : Bool} {history : List Exchange}
    (h : Follows calls ends p isInside history) : Follows calls ends (log e p) isInside history
  | call {c : Call} {next : Except Failure c.Answer → Program α} {isInside : Bool}
    {history : List Exchange} (hc : calls isInside history c)
    (h : ∀ x, Follows calls ends (next x) (c.isInsideAfter isInside x) (history ++ [⟨c, x⟩])) :
    Follows calls ends (call c next) isInside history

namespace Follows

variable {calls : Bool → List Exchange → Call → Prop} {ends : Bool → List Exchange → α → Prop}
  {isInside : Bool} {history : List Exchange} {p : Program α}

theorem bind {ends : Bool → List Exchange → β → Prop} {f : α → Program β}
    (h : p.Follows calls (fun isInside history a => (f a).Follows calls ends isInside history)
      isInside history) : (p.bind f).Follows calls ends isInside history := by
  induction h with
  | done h => exact h
  | log _ ih => exact .log ih
  | call hc _ ih => exact .call hc ih

theorem mono {calls' : Bool → List Exchange → Call → Prop}
    {ends' : Bool → List Exchange → α → Prop} (h : p.Follows calls ends isInside history)
    (hcalls : ∀ isInside history c, calls isInside history c → calls' isInside history c)
    (hends : ∀ isInside history a, ends isInside history a → ends' isInside history a) :
    p.Follows calls' ends' isInside history := by
  induction h with
  | done h => exact .done (hends _ _ _ h)
  | log _ ih => exact .log ih
  | call hc _ ih => exact .call (hcalls _ _ _ hc) ih

/-- What a program does after an earlier history. -/
theorem after (before : List Exchange) (h : p.Follows calls ends isInside history) :
    p.Follows
      (fun isInside history c => ∃ later, history = before ++ later ∧ calls isInside later c)
      (fun isInside history a => ∃ later, history = before ++ later ∧ ends isInside later a)
      isInside (before ++ history) := by
  induction h with
  | done h => exact .done ⟨_, rfl, h⟩
  | log _ ih => exact .log ih
  | call hc _ ih =>
    refine .call ⟨_, rfl, hc⟩ fun x => ?_
    rw [List.append_assoc]
    exact ih x

end Follows

end Program

namespace Operation

variable {α β : Type} {calls : Bool → List Exchange → Call → Prop}
  {ends : Bool → List Exchange → Except Failure α → Prop} {isInside : Bool}
  {history : List Exchange}

@[simp] theorem demand_ok_bind (b : β) (f : β → Operation α) : demand (.ok b) >>= f = f b := rfl

@[simp] theorem demand_error_bind (e : Failure) (f : β → Operation α) :
    demand (.error e) >>= f = throw e := rfl

theorem demand_demand_bind {γ : Type} (x : Except Failure β) (y : β → Except Failure γ)
    (f : γ → Operation α) :
    (demand x >>= fun b => demand (y b) >>= f) = demand (x >>= y) >>= f := by
  cases x <;> rfl

/-- An operation goes on with a value and ends with a failure. -/
theorem follows_bind {o : Operation β} {f : β → Operation α}
    (h : o.run.Follows calls (fun isInside history r =>
      match r with
      | .ok b => (f b).run.Follows calls ends isInside history
      | .error e => ends isInside history (.error e)) isInside history) :
    (o >>= f).run.Follows calls ends isInside history := by
  refine Program.Follows.bind (h.mono (fun _ _ _ h => h) ?_)
  rintro isInside history (e | b) h
  · exact .done h
  · exact h

theorem follows_call_bind {c : Call} {f : c.Answer → Operation α} (hc : calls isInside history c)
    (he : ∀ e, ends (c.isInsideAfter isInside (.error e)) (history ++ [⟨c, .error e⟩]) (.error e))
    (ha : ∀ a, (f a).run.Follows calls ends (c.isInsideAfter isInside (.ok a))
      (history ++ [⟨c, .ok a⟩])) : (call c >>= f).run.Follows calls ends isInside history := by
  refine .call hc fun x => ?_
  cases x with
  | error e => exact .done (he e)
  | ok a => exact ha a

theorem follows_ask_bind {r : Request} {f : r.Answer → Operation α}
    (hc : calls isInside history (.ask r))
    (he : ∀ e, ends isInside (history ++ [⟨.ask r, .error e⟩]) (.error e))
    (ha : ∀ a, (f a).run.Follows calls ends isInside (history ++ [⟨.ask r, .ok a⟩])) :
    (ask r >>= f).run.Follows calls ends isInside history := follows_call_bind hc he ha

theorem follows_log_bind {e : Event} {f : Unit → Operation α}
    (h : (f ()).run.Follows calls ends isInside history) :
    (log e >>= f).run.Follows calls ends isInside history := .log h

theorem follows_attempt_bind {o : Operation β} {f : Except Failure β → Operation α}
    (h : o.run.Follows calls (fun isInside history r =>
      (f r).run.Follows calls ends isInside history) isInside history) :
    (attempt o >>= f).run.Follows calls ends isInside history := by
  refine Program.Follows.bind (Program.Follows.bind (h.mono (fun _ _ _ h => h) ?_))
  exact fun _ _ _ h => .done h

end Operation

end SessionAuth
