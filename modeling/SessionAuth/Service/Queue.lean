import SessionAuth.Service.Program

/-!
# Queues

Programs that had to wait go on in the order in which they came. Each has one turn, for one call or
one whole transaction, and then queues up again behind the others, until all are done or none can go
on.
-/

namespace SessionAuth

/-- A program that waits, under a name. -/
structure Waiting (κ α : Type) where
  name : κ
  program : Program α
  isInside : Bool

namespace Waiting

/-- What has come of a queue: results in the order of completion, the programs that still wait, the
state, and what was logged. -/
structure Progress (κ σ α : Type) where
  results : List (κ × α)
  waiting : List (Waiting κ α)
  state : σ
  events : List Event

/-- Lets one program go on with a step. -/
def Progress.step {κ σ α : Type}
    (step : Program α → (isInside : Bool) → σ → Program.Run σ α)
    (p : Progress κ σ α) (w : Waiting κ α) : Progress κ σ α :=
  let run := step w.program w.isInside p.state
  let events := p.events ++ run.events
  match run.rest with
  | .finished a => ⟨p.results ++ [(w.name, a)], p.waiting, run.state, events⟩
  | .pending program isInside =>
    ⟨p.results, p.waiting ++ [⟨w.name, program, isInside⟩], run.state, events⟩

/-- Lets every program of a queue go on with a step. -/
def Progress.round {κ σ α : Type}
    (step : Program α → (isInside : Bool) → σ → Program.Run σ α)
    (p : Progress κ σ α) : Progress κ σ α :=
  p.waiting.foldl (Progress.step step) { p with waiting := [] }

/-- Lets a queue go on for a number of rounds in turns; what is left then runs as far as it gets. -/
def Progress.drain {κ σ α : Type} (b : Backend σ) : (rounds : Nat) → Progress κ σ α → Progress κ σ α
  | 0, p => p.round (Program.resume b)
  | rounds + 1, p =>
    match p.waiting with
    | [] => p
    | _ => drain b rounds (p.round (Program.turn b))

/-- More rounds than any operation makes calls. -/
def manyRounds : Nat := 16

/-- Lets a queue go on as far as it gets. -/
def drain {κ σ α : Type} (b : Backend σ) (queue : List (Waiting κ α)) (s : σ) : Progress κ σ α :=
  Progress.drain b manyRounds ⟨[], queue, s, []⟩

end Waiting

end SessionAuth
