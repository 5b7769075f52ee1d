import SessionAuth.Proofs.Service.Follows

/-!
# Records of runs

Any backend can be made to keep a record of the calls that it answers (`Backend.recorded`), and
programs run over it as they did before (`Program.run_recorded`). What is on record is what the
program was told on its way (`Program.told_record`), so a program that follows a description has
made each of its calls after a record that allows it (`Program.Follows.calls_of_record`), and has
ended after a record that allows that (`Program.Follows.ends_of_record`).
-/

namespace SessionAuth

/-- An answer, put on record. -/
def Reply.recorded {σ : Type} (history : List Exchange) (c : Call) (reply : Reply σ c.Answer) :
    Reply (σ × List Exchange) c.Answer :=
  ⟨reply.answer, (reply.state, history ++ [⟨c, reply.answer⟩]), reply.events⟩

namespace Backend

variable {σ : Type} {b : Backend σ}

/-- The answer to a call: the one at the door, or else the one to who has been let in. -/
def reply? (b : Backend σ) (isInside : Bool) (c : Call) (s : σ) : Option (Reply σ c.Answer) :=
  (b.turnAway isInside c s).or (b.serve isInside c s)

/-- What the backend may answer to a call. -/
inductive Gives (b : Backend σ) : Exchange → Prop
  | reply {isInside : Bool} {c : Call} {s : σ} {reply : Reply σ c.Answer}
    (h : b.reply? isInside c s = some reply) : Gives b ⟨c, reply.answer⟩

/-- Nobody has to wait for an answer. -/
def IsPrompt (b : Backend σ) : Prop := ∀ isInside c s, (b.reply? isInside c s).isSome

/-- The backend with a record of the calls that it has answered. -/
def recorded (b : Backend σ) : Backend (σ × List Exchange) where
  turnAway isInside c s := (b.turnAway isInside c s.1).map (.recorded s.2 c)
  serve isInside c s := (b.serve isInside c s.1).map (.recorded s.2 c)

theorem reply?_recorded (b : Backend σ) (isInside : Bool) (c : Call) (s : σ × List Exchange) :
    b.recorded.reply? isInside c s = (b.reply? isInside c s.1).map (.recorded s.2 c) :=
  Option.map_or.symm

theorem reply?_faulty (fault : Database.Fault) (isInside : Bool) (c : Call) (s : σ) :
    (faulty fault).reply? isInside c s = some ⟨.error (failureOf fault c), s, []⟩ := rfl

theorem eq_of_gives_faulty {fault : Database.Fault} {x : Exchange}
    (h : (faulty fault : Backend σ).Gives x) : x = ⟨x.call, .error (failureOf fault x.call)⟩ := by
  cases h with
  | reply h =>
    rw [reply?_faulty] at h
    cases h
    rfl

theorem isPrompt_faulty (fault : Database.Fault) : (faulty fault : Backend σ).IsPrompt :=
  fun _ _ _ => rfl

end Backend

namespace Program

variable {σ α : Type} {b : Backend σ} {p q : Program α} {isInside j : Bool} {s : σ}
  {history later : List Exchange}

/-! ### Paths -/

/-- A program that is told some answers, one after the other, goes on as another one. -/
inductive Told : Program α → (isInside : Bool) → List Exchange → Program α → (isInside : Bool) →
    Prop
  | refl (p : Program α) (isInside : Bool) : Told p isInside [] p isInside
  | log {e : Event} {p q : Program α} {isInside j : Bool} {later : List Exchange}
    (h : Told p isInside later q j) : Told (log e p) isInside later q j
  | call {c : Call} {next : Except Failure c.Answer → Program α} {q : Program α}
    {x : Except Failure c.Answer} {isInside j : Bool} {later : List Exchange}
    (h : Told (next x) (c.isInsideAfter isInside x) later q j) :
    Told (call c next) isInside (⟨c, x⟩ :: later) q j

theorem Told.exists_call {before after : List Exchange} {x : Exchange}
    (h : p.Told isInside (before ++ x :: after) q j) :
    ∃ i next, p.Told isInside before (.call x.call next) i := by
  generalize hlater : before ++ x :: after = later at h
  induction h generalizing before with
  | refl => simp at hlater
  | log _ ih =>
    obtain ⟨i, next, h⟩ := ih hlater
    exact ⟨i, next, .log h⟩
  | @call c next _ _ isInside _ _ _ ih =>
    cases before with
    | nil =>
      cases hlater
      exact ⟨isInside, next, .refl _ _⟩
    | cons y before =>
      obtain ⟨rfl, hrest⟩ := List.cons.inj hlater
      obtain ⟨i, next, h⟩ := ih hrest
      exact ⟨i, next, .call h⟩

namespace Follows

variable {calls : Bool → List Exchange → Call → Prop} {ends : Bool → List Exchange → α → Prop}

/-- A program stays on the way that it follows. -/
theorem told (h : p.Follows calls ends isInside history) (ht : p.Told isInside later q j) :
    q.Follows calls ends j (history ++ later) := by
  induction ht generalizing history with
  | refl =>
    rw [List.append_nil]
    exact h
  | log _ ih =>
    cases h with
    | log h => exact ih h
  | call _ ih =>
    cases h with
    | call _ h =>
      have hnext := ih (h _)
      rw [List.append_assoc] at hnext
      exact hnext

end Follows

/-! ### Runs -/

/-- What is left of a program. -/
def Rest.program : Rest α → Program α
  | .finished a => .done a
  | .pending p _ => p

theorem run_log (b : Backend σ) (e : Event) (p : Program α) (isInside : Bool) (s : σ) :
    (log e p).run b isInside s = (p.run b isInside s).prepend [e] := rfl

theorem run_call_of_reply {c : Call} {reply : Reply σ c.Answer}
    (h : b.reply? isInside c s = some reply) (next : Except Failure c.Answer → Program α) :
    (call c next).run b isInside s =
      ((next reply.answer).run b (c.isInsideAfter isInside reply.answer) reply.state).prepend
        reply.events := by
  have hdoor : Standing.free.turnAway b isInside c s = b.turnAway isInside c s := rfl
  have hserve : Standing.free.serve b isInside c s = b.serve isInside c s := rfl
  unfold run
  rw [advance, hdoor, hserve]
  unfold Backend.reply? at h
  cases ht : b.turnAway isInside c s with
  | some first =>
    rw [ht] at h
    cases h
    rfl
  | none =>
    rw [ht] at h
    have hlast : b.serve isInside c s = some reply := h
    rw [hlast]

theorem run_call_of_none {c : Call} (h : b.reply? isInside c s = none)
    (next : Except Failure c.Answer → Program α) :
    (call c next).run b isInside s = ⟨.pending (call c next) isInside, s, isInside, []⟩ := by
  have hdoor : Standing.free.turnAway b isInside c s = b.turnAway isInside c s := rfl
  have hserve : Standing.free.serve b isInside c s = b.serve isInside c s := rfl
  obtain ⟨ht, hs⟩ := Option.or_eq_none_iff.1 h
  unfold run
  rw [advance, hdoor, hserve, ht, hs]

theorem run_recorded_of_reply {c : Call} {reply : Reply σ c.Answer}
    (h : b.reply? isInside c s = some reply) (next : Except Failure c.Answer → Program α)
    (history : List Exchange) : (call c next).run b.recorded isInside (s, history) =
      ((next reply.answer).run b.recorded (c.isInsideAfter isInside reply.answer)
        (reply.state, history ++ [⟨c, reply.answer⟩])).prepend reply.events := by
  have hr : b.recorded.reply? isInside c (s, history) = some (.recorded history c reply) := by
    rw [Backend.reply?_recorded, h]
    rfl
  exact run_call_of_reply hr next

theorem run_recorded_of_none {c : Call} (h : b.reply? isInside c s = none)
    (next : Except Failure c.Answer → Program α) (history : List Exchange) :
    (call c next).run b.recorded isInside (s, history) =
      ⟨.pending (call c next) isInside, (s, history), isInside, []⟩ := by
  have hr : b.recorded.reply? isInside c (s, history) = none := by
    rw [Backend.reply?_recorded, h]
    rfl
  exact run_call_of_none hr next

/-- A record changes nothing in a run. -/
theorem run_recorded (b : Backend σ) (p : Program α) (isInside : Bool) (s : σ)
    (history : List Exchange) : p.run b isInside s =
      { p.run b.recorded isInside (s, history) with
        state := (p.run b.recorded isInside (s, history)).state.1 } := by
  induction p generalizing isInside s history with
  | done => rfl
  | log e p ih =>
    rw [run_log, run_log, ih isInside s history]
    rfl
  | call c next ih =>
    cases hr : b.reply? isInside c s with
    | none => rw [run_call_of_none hr, run_recorded_of_none hr]
    | some reply =>
      rw [run_call_of_reply hr, run_recorded_of_reply hr, ih _ _ _ (history ++ [⟨c, reply.answer⟩])]
      rfl

/-- What comes on record in a run is what the program is told on its way, by the backend. -/
theorem told_of_run (b : Backend σ) (p : Program α) (isInside : Bool) (s : σ)
    (history : List Exchange) : ∃ later,
      (p.run b.recorded isInside (s, history)).state.2 = history ++ later ∧
      p.Told isInside later (p.run b.recorded isInside (s, history)).rest.program
        (p.run b.recorded isInside (s, history)).isInside ∧
      ∀ x ∈ later, b.Gives x := by
  induction p generalizing isInside s history with
  | done a => exact ⟨[], (List.append_nil history).symm, .refl _ _, by simp⟩
  | log e p ih =>
    obtain ⟨later, hlater, ht, hgives⟩ := ih isInside s history
    exact ⟨later, hlater, .log ht, hgives⟩
  | call c next ih =>
    cases hr : b.reply? isInside c s with
    | none =>
      rw [run_recorded_of_none hr]
      exact ⟨[], (List.append_nil history).symm, .refl _ _, by simp⟩
    | some reply =>
      rw [run_recorded_of_reply hr]
      obtain ⟨later, hlater, ht, hgives⟩ := ih reply.answer (c.isInsideAfter isInside reply.answer)
        reply.state (history ++ [⟨c, reply.answer⟩])
      rw [List.append_assoc] at hlater
      refine ⟨_, hlater, .call ht, fun x hx => ?_⟩
      rcases List.mem_cons.1 hx with rfl | hx
      · exact .reply hr
      · exact hgives x hx

/-- The calls that a run makes, each with its answer. -/
def record (b : Backend σ) (p : Program α) (isInside : Bool) (s : σ) : List Exchange :=
  (p.run b.recorded isInside (s, [])).state.2

/-- A program is told what is on record, and by the backend. -/
theorem told_record (b : Backend σ) (p : Program α) (isInside : Bool) (s : σ) :
    (∃ j, p.Told isInside (p.record b isInside s) (p.run b isInside s).rest.program j) ∧
      ∀ x ∈ p.record b isInside s, b.Gives x := by
  obtain ⟨later, hlater, ht, hgives⟩ := told_of_run b p isInside s []
  have hrecord : p.record b isInside s = later := hlater
  rw [hrecord, run_recorded b p isInside s []]
  exact ⟨⟨_, ht⟩, hgives⟩

namespace Follows

variable {calls : Bool → List Exchange → Call → Prop} {ends : Bool → List Exchange → α → Prop}

/-- Every call on record was allowed when it was made. -/
theorem calls_of_record (h : p.Follows calls ends isInside []) {before after : List Exchange}
    {x : Exchange} (hrec : p.record b isInside s = before ++ x :: after) :
    ∃ i, calls i before x.call := by
  obtain ⟨⟨j, ht⟩, -⟩ := told_record b p isInside s
  rw [hrec] at ht
  obtain ⟨i, next, hcall⟩ := ht.exists_call
  cases h.told hcall with
  | call hc _ => exact ⟨i, hc⟩

theorem ends_of_record (h : p.Follows calls ends isInside []) {a : α}
    (ha : (p.run b isInside s).rest = .finished a) : ∃ j, ends j (p.record b isInside s) a := by
  obtain ⟨⟨j, ht⟩, -⟩ := told_record b p isInside s
  rw [ha] at ht
  cases h.told ht with
  | done h => exact ⟨j, h⟩

end Follows

/-- Where nobody has to wait, every program runs to its end. -/
theorem exists_finished (hb : b.IsPrompt) (p : Program α) (isInside : Bool) (s : σ) :
    ∃ a, (p.run b isInside s).rest = .finished a := by
  induction p generalizing isInside s with
  | done a => exact ⟨a, rfl⟩
  | log e p ih => exact ih isInside s
  | call c next ih =>
    obtain ⟨reply, hr⟩ := Option.isSome_iff_exists.1 (hb isInside c s)
    rw [run_call_of_reply hr]
    exact ih _ _ _

end Program

end SessionAuth
