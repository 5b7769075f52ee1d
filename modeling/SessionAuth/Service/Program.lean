import SessionAuth.Store.Backend

/-!
# Programs

An operation is a program: a tree that calls the store, logs, and goes on with each possible answer.
What a program does is thus fixed before any store answers, and the same program runs over every
backend and interleaved with others.
-/

namespace SessionAuth

/-- A program with a result. -/
inductive Program (α : Type) where
  | done (a : α)
  | log (e : Event) (next : Program α)
  | call (c : Call) (next : Except Failure c.Answer → Program α)

namespace Program

/-- Goes on with the result. -/
def bind {α β : Type} (f : α → Program β) : Program α → Program β
  | done a => f a
  | log e next => log e (bind f next)
  | call c next => call c fun a => bind f (next a)

instance : Monad Program where
  pure := done
  bind p f := p.bind f

/-! ### Running -/

/-- How far a run got: to its result, or to a call that still has to be made by a caller who is in a
transaction or not. -/
inductive Rest (α : Type) where
  | finished (a : α)
  | pending (p : Program α) (isInside : Bool)

/-- How far a run got, the state it left, whether its caller is left in a transaction, and what was
logged. A run that stands still has to wait. -/
structure Run (σ α : Type) where
  rest : Rest α
  state : σ
  isInside : Bool
  events : List Event

/-- Puts an event before those of a run. -/
def Run.prepend {σ α : Type} (events : List Event) (r : Run σ α) : Run σ α :=
  { r with events := events ++ r.events }

/-- How a program stands towards its next call: it may make it, it has been let in with it and only
waited for its turn, or it has had its turn. -/
inductive Standing where
  | free
  | admitted
  | spent
deriving DecidableEq, Repr

/-- The answer to a call at the door. Who has been let in does not stand there again. -/
def Standing.turnAway {σ : Type} (b : Backend σ) (standing : Standing) (isInside : Bool) (c : Call)
    (s : σ) : Option (Reply σ c.Answer) :=
  if standing = .admitted then none else b.turnAway isInside c s

/-- The answer to a call that has been let in. After a turn only a caller in a transaction has
one. -/
def Standing.serve {σ : Type} (b : Backend σ) (standing : Standing) (isInside : Bool) (c : Call)
    (s : σ) : Option (Reply σ c.Answer) :=
  if standing = .spent && !isInside then none else b.serve isInside c s

/-- Makes calls as long as they are answered. An answer at the door leaves the standing as it is,
any other one makes it `next`. -/
def advance {σ α : Type} (b : Backend σ) (next : Standing) :
    Program α → Standing → (isInside : Bool) → σ → Run σ α
  | done a, _, isInside, s => ⟨.finished a, s, isInside, []⟩
  | log e p, standing, isInside, s => (advance b next p standing isInside s).prepend [e]
  | call c p, standing, isInside, s =>
    match standing.turnAway b isInside c s with
    | some reply =>
      (advance b next (p reply.answer) standing (c.isInsideAfter isInside reply.answer)
        reply.state).prepend reply.events
    | none =>
      match standing.serve b isInside c s with
      | some reply =>
        (advance b next (p reply.answer) next (c.isInsideAfter isInside reply.answer)
          reply.state).prepend reply.events
      | none => ⟨.pending (call c p) isInside, s, isInside, []⟩

/-- Runs a program as far as it gets. -/
def run {σ α : Type} (b : Backend σ) (p : Program α) (isInside : Bool) (s : σ) : Run σ α :=
  p.advance b .free .free isInside s

/-- Goes on with a program that has been let in, as far as it gets. -/
def resume {σ α : Type} (b : Backend σ) (p : Program α) (isInside : Bool) (s : σ) : Run σ α :=
  p.advance b .free .admitted isInside s

/-- Goes on with a program that has been let in, for one turn: one call, or one whole
transaction. -/
def turn {σ α : Type} (b : Backend σ) (p : Program α) (isInside : Bool) (s : σ) : Run σ α :=
  p.advance b .spent .admitted isInside s

end Program

/-! ### Operations -/

/-- A program that may fail. -/
abbrev Operation := ExceptT Failure Program

namespace Operation

/-- Makes a call. -/
def call (c : Call) : Operation c.Answer := ExceptT.mk (Program.call c .done)

/-- Makes a request. -/
def ask (r : Request) : Operation r.Answer := call (.ask r)

/-- Logs an event. -/
def log (e : Event) : Operation Unit := ExceptT.mk (.log e (.done (.ok ())))

/-- Goes on with a value, or fails. -/
def demand {α : Type} (r : Except Failure α) : Operation α := ExceptT.mk (.done r)

/-- Gives a failure as a value. -/
def attempt {α : Type} (o : Operation α) : Operation (Except Failure α) :=
  ExceptT.mk (o.run.bind fun r => .done (.ok r))

end Operation

end SessionAuth
