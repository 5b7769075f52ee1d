import SessionAuth.Proofs.Service.Interleaving
import SessionAuth.Proofs.Service.Record

/-!
# Operations alone at the vault

How an operation runs with nobody else at the vault (`Program.Goes`), shown along its code with one
rule for each kind of step. A task may make the steps of such a run one after the other, among
others that wait (`System.reaches_of_runs`).
-/

namespace SessionAuth

namespace Program

variable {α β : Type}

/-- A program of a caller who is in the transaction or not runs to its end: what it is told, its
result, the vault it leaves, and whether its caller is in a transaction then. -/
inductive Goes : Program α → Vault → (isInside : Bool) → List Exchange → α → Vault →
    (isInside : Bool) → Prop
  | done (a : α) (v : Vault) (i : Bool) : Goes (done a) v i [] a v i
  | log (e : Event) {p : Program α} {v w : Vault} {i j : Bool} {history : List Exchange} {a : α}
    (h : Goes p v i history a w j) : Goes (log e p) v i history a w j
  | call {c : Call} {next : Except Failure c.Answer → Program α} {v w : Vault} {i j : Bool}
    {reply : Reply Vault c.Answer} {history : List Exchange} {a : α}
    (hr : v.reply? i c = some reply)
    (h : Goes (next reply.answer) reply.state (c.isInsideAfter i reply.answer) history a w j) :
    Goes (call c next) v i (⟨c, reply.answer⟩ :: history) a w j

theorem Goes.bind {p : Program α} {f : α → Program β} {u v w : Vault} {i j k : Bool}
    {history later : List Exchange} {a : α} {b : β} (h : p.Goes u i history a v j)
    (hf : (f a).Goes v j later b w k) : (p.bind f).Goes u i (history ++ later) b w k := by
  induction h with
  | done => exact hf
  | log e _ ih => exact .log e (ih hf)
  | call hr _ ih => exact .call hr (ih hf)

/-- A run leaves a sound vault sound. -/
theorem Goes.isSound {p : Program α} {v w : Vault} {i j : Bool} {history : List Exchange} {a : α}
    (h : p.Goes v i history a w j) (hv : v.IsSound) : w.IsSound := by
  induction h with
  | done => exact hv
  | log _ _ ih => exact ih hv
  | call hr _ ih => exact ih ((Vault.turn_of_reply hr).isSound hv)

/-- A run over the vault makes the same calls. -/
theorem Goes.run_eq {p : Program α} {v w : Vault} {i j : Bool} {history : List Exchange} {a : α}
    (h : p.Goes v i history a w j) :
    ∃ events, p.run Backend.memory i v = ⟨.finished a, w, j, events⟩ := by
  induction h with
  | done => exact ⟨[], rfl⟩
  | log e _ ih =>
    obtain ⟨events, hrun⟩ := ih
    refine ⟨e :: events, ?_⟩
    rw [run_log, hrun]
    rfl
  | @call c next v w i j reply history a hr _ ih =>
    obtain ⟨events, hrun⟩ := ih
    refine ⟨reply.events ++ events, ?_⟩
    have hreply : Backend.memory.reply? i c v = some reply := hr
    rw [run_call_of_reply hreply, hrun]
    rfl

/-- Who is in the transaction that is open, or in none while none is, is answered. -/
theorem exists_reply {v : Vault} {i : Bool} {c : Call} (hv : v.journal.isSome = i)
    (hc : c = .begin → i = false) : ∃ reply, v.reply? i c = some reply := by
  obtain ⟨st, journal⟩ := v
  cases c with
  | ask r =>
    cases journal with
    | none => exact ⟨_, rfl⟩
    | some journal =>
      cases hv
      exact ⟨_, rfl⟩
  | begin =>
    cases journal with
    | none => exact ⟨_, rfl⟩
    | some journal =>
      cases hv
      cases hc rfl
  | commit | rollback => exact ⟨_, rfl⟩

/-- A program that begins no transaction within one runs to an end, if it is alone. -/
theorem Follows.exists_goes {calls : Bool → List Exchange → Call → Prop}
    {ends : Bool → List Exchange → α → Prop} {p : Program α} {i : Bool} {history : List Exchange}
    (h : p.Follows calls ends i history)
    (hbegin : ∀ {i history}, calls i history .begin → i = false) {v : Vault}
    (hv : v.journal.isSome = i) :
    ∃ later a w j, p.Goes v i later a w j ∧ ends j (history ++ later) a := by
  induction h generalizing v with
  | @done a i history h => exact ⟨[], a, v, i, .done a v i, (List.append_nil history).symm ▸ h⟩
  | log _ ih =>
    obtain ⟨later, a, w, j, hgoes, hends⟩ := ih hv
    exact ⟨later, a, w, j, .log _ hgoes, hends⟩
  | @call c next i history hc _ ih =>
    obtain ⟨reply, hr⟩ := exists_reply (c := c) hv fun heq => hbegin (heq ▸ hc)
    obtain ⟨later, a, w, j, hgoes, hends⟩ :=
      ih reply.answer ((Vault.turn_of_reply hr).journal_isSome hv)
    rw [List.append_assoc] at hends
    exact ⟨_, a, w, j, .call hr hgoes, hends⟩

end Program

namespace Operation

variable {α β : Type} {u v w : Vault} {i j k : Bool} {history later : List Exchange}
  {x : Except Failure α} {st st' : Store} {journal changes : List Undo}

theorem goes_bind {o : Operation β} {b : β} {f : β → Operation α}
    (h : o.run.Goes u i history (.ok b) v j) (hf : (f b).run.Goes v j later x w k) :
    (o >>= f).run.Goes u i (history ++ later) x w k := h.bind hf

theorem goes_error_bind {o : Operation β} {e : Failure} (f : β → Operation α)
    (h : o.run.Goes u i history (.error e) v j) :
    (o >>= f).run.Goes u i history (.error e) v j := by
  have hbind : (o >>= f).run.Goes u i (history ++ []) (.error e) v j := h.bind (.done _ _ _)
  rwa [List.append_nil] at hbind

theorem goes_attempt_bind {o : Operation β} {y : Except Failure β}
    {f : Except Failure β → Operation α} (h : o.run.Goes u i history y v j)
    (hf : (f y).run.Goes v j later x w k) :
    (attempt o >>= f).run.Goes u i (history ++ later) x w k := by
  have hattempt : (attempt o).run.Goes u i (history ++ []) (.ok y) v j := h.bind (.done _ _ _)
  rw [List.append_nil] at hattempt
  exact goes_bind hattempt hf

theorem goes_call_bind {c : Call} {a : c.Answer} {events : List Event} {f : c.Answer → Operation α}
    (hr : u.reply? i c = some ⟨.ok a, v, events⟩)
    (hf : (f a).run.Goes v (c.isInsideAfter i (.ok a)) history x w k) :
    (call c >>= f).run.Goes u i (⟨c, .ok a⟩ :: history) x w k :=
  Program.Goes.call hr hf

/-- A request from outside. -/
theorem goes_ask_bind {r : Request} {a : r.Answer} {f : r.Answer → Operation α}
    (hr : st.answer r = ⟨.ok a, st', changes⟩)
    (hf : (f a).run.Goes ⟨st', none⟩ false history x w k) :
    (ask r >>= f).run.Goes ⟨st, none⟩ false (⟨.ask r, .ok a⟩ :: history) x w k := by
  have hreply : Vault.reply? ⟨st, none⟩ false (.ask r) =
      some ⟨.ok a, ⟨st', none⟩, r.events a⟩ := by
    simp only [Vault.reply?, Vault.answerOutside, hr]
  exact goes_call_bind hreply hf

/-- A request from outside that fails. -/
theorem goes_ask_error_bind {r : Request} {e : Failure} (f : r.Answer → Operation α)
    (hr : st.answer r = ⟨.error e, st', changes⟩) :
    (ask r >>= f).run.Goes ⟨st, none⟩ false [⟨.ask r, .error e⟩] (.error e) ⟨st', none⟩ false := by
  have hreply : Vault.reply? ⟨st, none⟩ false (.ask r) =
      some ⟨.error e, ⟨st', none⟩, []⟩ := by
    simp only [Vault.reply?, Vault.answerOutside, hr]
  exact Program.Goes.call hreply (.done _ _ _)

/-- A request within the transaction. -/
theorem goes_ask_bind_inside {r : Request} {a : r.Answer} {f : r.Answer → Operation α}
    (hr : st.answer r = ⟨.ok a, st', changes⟩)
    (hf : (f a).run.Goes ⟨st', some (journal ++ changes)⟩ true history x w k) :
    (ask r >>= f).run.Goes ⟨st, some journal⟩ true (⟨.ask r, .ok a⟩ :: history) x w k := by
  have hreply : Vault.reply? ⟨st, some journal⟩ true (.ask r) =
      some ⟨.ok a, ⟨st', some (journal ++ changes)⟩, []⟩ := by
    simp only [Vault.reply?, Vault.answerInside, hr, if_true]
  exact goes_call_bind hreply hf

/-- A request within the transaction that fails. -/
theorem goes_ask_error_bind_inside {r : Request} {e : Failure} (f : r.Answer → Operation α)
    (hr : st.answer r = ⟨.error e, st', changes⟩) :
    (ask r >>= f).run.Goes ⟨st, some journal⟩ true [⟨.ask r, .error e⟩] (.error e)
      ⟨st', some (journal ++ changes)⟩ true := by
  have hreply : Vault.reply? ⟨st, some journal⟩ true (.ask r) =
      some ⟨.error e, ⟨st', some (journal ++ changes)⟩, []⟩ := by
    simp only [Vault.reply?, Vault.answerInside, hr, if_true]
  exact Program.Goes.call hreply (.done _ _ _)

theorem goes_log_bind {e : Event} {f : Unit → Operation α}
    (h : (f ()).run.Goes u i history x w k) : (log e >>= f).run.Goes u i history x w k := .log e h

theorem goes_return (a : α) (v : Vault) (i : Bool) :
    (pure a : Operation α).run.Goes v i [] (.ok a) v i := .done _ _ _

/-- A result is passed on. -/
theorem goes_map {o : Operation β} {y : Except Failure β} (f : β → α)
    (h : o.run.Goes u i history y v j) :
    (do return f (← o) : Operation α).run.Goes u i history (y.map f) v j := by
  cases y with
  | error e => exact goes_error_bind _ h
  | ok b =>
    have hbind := goes_bind h (f := fun b => (pure (f b) : Operation α)) (goes_return _ _ _)
    rw [List.append_nil] at hbind
    exact hbind

end Operation

/-! ### Tasks and systems -/

namespace Task

variable {mayFail : Bool} {v w : Vault} {history : List Exchange} {t : Task} {i j : Bool}
  {p : Program (Except Failure Outcome)} {r : Except Failure Outcome}

/-- A request is answered if the vault is not locked. -/
theorem Step.ask {r : Request} {next : Except Failure r.Answer → Program (Except Failure Outcome)}
    {x : Except Failure r.Answer} {st st' : Store} {changes : List Undo}
    (h : t.rest = some (.call (.ask r) next)) (he : st.answer r = ⟨x, st', changes⟩)
    (mayFail : Bool) : t.Step mayFail ⟨st, none⟩ ⟨st', none⟩ (t.told (.ask r) next x) := by
  have hstep : t.Step mayFail ⟨st, none⟩ ⟨(st.answer r).store, none⟩
      (t.told (.ask r) next (st.answer r).answer) :=
    .answered (c := .ask r) (r := Vault.answerOutside st r) h rfl
  rw [he] at hstep
  exact hstep

/-- A task makes the steps of its program. -/
theorem runs_of_goes (h : p.Goes v i history r w j) (hp : t.rest = some p) (hi : t.isInside = i)
    (mayFail : Bool) :
    Runs mayFail (v, t) (w, { t with
      history := t.history ++ history, rest := some (.done r), isInside := j }) := by
  induction h generalizing t with
  | done r v i =>
    subst hi
    rw [List.append_nil, ← hp]
  | @log e p v w i j history r _ ih =>
    have hruns := ih (t := { t with rest := some p }) rfl hi
    exact .head (.log hp) hruns
  | @call c next v w i j reply history r hr _ ih =>
    subst hi
    have hstep : t.Step mayFail v reply.state (t.told c next reply.answer) := .answered hp hr
    have hruns := ih (t := t.told c next reply.answer) rfl rfl
    simp only [told, List.append_assoc, List.singleton_append] at hruns
    exact .head hstep hruns

/-- A command runs to its end. -/
theorem runs_start {s : Service} {command : Command} {fresh : Fresh}
    (h : (s.perform fresh command).run.Goes v false history r w j) (mayFail : Bool) :
    Runs mayFail (v, .start s command fresh) (w, ⟨command, fresh, history, some (.done r), j⟩) :=
  runs_of_goes h rfl rfl mayFail

end Task

namespace System

variable {s : Service} {mayFail : Bool}

/-- The steps of one task, among others that wait. -/
theorem reaches_of_runs (before after : List Task) {p q : Vault × Task}
    (h : Task.Runs mayFail p q) : Reaches s mayFail ⟨p.1, before ++ p.2 :: after⟩
      ⟨q.1, before ++ q.2 :: after⟩ := by
  induction h with
  | refl => exact .refl
  | tail _ hstep ih => exact ih.tail (.progress before after hstep)

/-- A command arrives and takes its steps, while all others wait. -/
theorem Reaches.arrive {a : System} {v w : Vault} {tasks : List Task} {command : Command}
    {fresh : Fresh} {t : Task} (h : a.Reaches s mayFail ⟨v, tasks⟩)
    (ht : Task.Runs mayFail (v, .start s command fresh) (w, t)) :
    a.Reaches s mayFail ⟨w, tasks ++ [t]⟩ :=
  (h.tail (.arrival v tasks command fresh)).trans (reaches_of_runs tasks [] ht)

end System

end SessionAuth
