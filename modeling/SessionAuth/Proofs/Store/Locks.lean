import Mathlib.Logic.Function.Basic
import Mathlib.Logic.Relation
import SessionAuth.Proofs.Store.Serial

/-!
# Two locks

How any number of clients reach one store, step by step. The gate is the lock of the whole store: a
transaction has it from its begin to its end. The latch guards the maps and is held while they are
read or changed. A request from outside takes the gate and then the latch, but gives the gate back
before it uses the maps, so that a transaction may begin in between.

Clients that wait for a lock stand where they stood before, and may give up there. The log says who
got the gate in which order, with what was asked and told since then.
-/

namespace SessionAuth

/-- Where a client stands. A number is the place of its entry in the log. -/
inductive Phase where
  | idle
  /-- has the gate, for a request of its own -/
  | admitted (n : Nat) (r : Request)
  /-- has the latch as well -/
  | holding (n : Nat) (r : Request)
  /-- has given the gate back, but has yet to use the maps -/
  | passing (n : Nat) (r : Request)
  /-- has used the maps and still has the latch -/
  | served
  /-- has the gate, for a transaction -/
  | inside (n : Nat) (journal : List Undo)
  /-- has the latch as well, for a request within the transaction -/
  | working (n : Nat) (journal : List Undo) (r : Request)
  /-- has used the maps and still has the latch -/
  | changed (n : Nat) (journal changes : List Undo)
  /-- has given the latch back, but has yet to put its changes into the journal -/
  | recording (n : Nat) (journal changes : List Undo)
  /-- has ended its transaction without a commit -/
  | closing (journal : List Undo)
  /-- has the latch, to take its changes back -/
  | undoing (journal : List Undo)
  /-- has the gate only, and nothing left to do -/
  | leaving

namespace Phase

/-- The client has the gate. -/
def hasGate : Phase → Bool
  | idle | passing _ _ | served => false
  | _ => true

/-- The client has the latch. -/
def hasLatch : Phase → Bool
  | holding _ _ | passing _ _ | served | working _ _ _ | changed _ _ _ | undoing _ => true
  | _ => false

/-- What takes back the changes of the client's transaction that are in the maps. -/
def uncommitted : Phase → List Undo
  | inside _ journal | working _ journal _ | closing journal | undoing journal => journal
  | changed _ journal changes | recording _ journal changes => journal ++ changes
  | _ => []

end Phase

/-- What clients share: the maps, who has which lock, and the log. -/
structure Shared (κ : Type) where
  store : Store
  gate : Option κ
  latch : Option κ
  log : List Entry

/-- The moves of a client. -/
inductive Move {κ : Type} (c : κ) : Shared κ → Phase → Shared κ → Phase → Prop
  | enter (s : Store) (latch : Option κ) (log : List Entry) (r : Request) :
    Move c ⟨s, none, latch, log⟩ .idle
      ⟨s, some c, latch, log ++ [.request r none]⟩ (.admitted log.length r)
  | hold (s : Store) (gate : Option κ) (log : List Entry) (n : Nat) (r : Request) :
    Move c ⟨s, gate, none, log⟩ (.admitted n r) ⟨s, gate, some c, log⟩ (.holding n r)
  | pass (s : Store) (gate latch : Option κ) (log : List Entry) (n : Nat) (r : Request) :
    Move c ⟨s, gate, latch, log⟩ (.holding n r) ⟨s, none, latch, log⟩ (.passing n r)
  | serve (s : Store) (gate latch : Option κ) (log : List Entry) (n : Nat) (r : Request) :
    Move c ⟨s, gate, latch, log⟩ (.passing n r)
      ⟨(s.answer r).store, gate, latch, log.set n (.request r (some (s.answer r).answer))⟩ .served
  | depart (s : Store) (gate latch : Option κ) (log : List Entry) :
    Move c ⟨s, gate, latch, log⟩ .served ⟨s, gate, none, log⟩ .idle
  | begin (s : Store) (latch : Option κ) (log : List Entry) :
    Move c ⟨s, none, latch, log⟩ .idle
      ⟨s, some c, latch, log ++ [.transaction [] [] none]⟩ (.inside log.length [])
  | work (s : Store) (gate : Option κ) (log : List Entry) (n : Nat) (journal : List Undo)
    (r : Request) :
    Move c ⟨s, gate, none, log⟩ (.inside n journal) ⟨s, gate, some c, log⟩ (.working n journal r)
  | change (s : Store) (gate latch : Option κ) (log : List Entry) (n : Nat) (journal : List Undo)
    (r : Request) :
    Move c ⟨s, gate, latch, log⟩ (.working n journal r)
      ⟨(s.answer r).store, gate, latch, log.modify n (.grow ⟨.ask r, (s.answer r).answer⟩ r)⟩
      (.changed n journal (s.answer r).journal)
  | unlatch (s : Store) (gate latch : Option κ) (log : List Entry) (n : Nat)
    (journal changes : List Undo) :
    Move c ⟨s, gate, latch, log⟩ (.changed n journal changes)
      ⟨s, gate, none, log⟩ (.recording n journal changes)
  | record (v : Shared κ) (n : Nat) (journal changes : List Undo) :
    Move c v (.recording n journal changes) v (.inside n (journal ++ changes))
  | commit (s : Store) (gate latch : Option κ) (log : List Entry) (n : Nat) (journal : List Undo) :
    Move c ⟨s, gate, latch, log⟩ (.inside n journal)
      ⟨s, gate, latch, log.modify n (.close .commit)⟩ .leaving
  | giveUp (s : Store) (gate latch : Option κ) (log : List Entry) (n : Nat) (journal : List Undo)
    (ending : Ending) (h : ending ≠ .commit) :
    Move c ⟨s, gate, latch, log⟩ (.inside n journal)
      ⟨s, gate, latch, log.modify n (.close ending)⟩ (.closing journal)
  | skip (v : Shared κ) : Move c v (.closing []) v .leaving
  | seize (s : Store) (gate : Option κ) (log : List Entry) (journal : List Undo)
    (h : journal ≠ []) :
    Move c ⟨s, gate, none, log⟩ (.closing journal) ⟨s, gate, some c, log⟩ (.undoing journal)
  | undo (s : Store) (gate latch : Option κ) (log : List Entry) (journal : List Undo) (u : Undo) :
    Move c ⟨s, gate, latch, log⟩ (.undoing (journal ++ [u]))
      ⟨u.apply s, gate, latch, log⟩ (.undoing journal)
  | finish (s : Store) (gate latch : Option κ) (log : List Entry) :
    Move c ⟨s, gate, latch, log⟩ (.undoing []) ⟨s, gate, none, log⟩ .leaving
  | leave (s : Store) (gate latch : Option κ) (log : List Entry) :
    Move c ⟨s, gate, latch, log⟩ .leaving ⟨s, none, latch, log⟩ .idle

/-- Clients with what they share. -/
structure Clients (κ : Type) where
  shared : Shared κ
  phase : κ → Phase

namespace Clients

variable {κ : Type}

/-- Nobody has done anything yet. -/
def initial (s : Store) : Clients κ := ⟨⟨s, none, none, []⟩, fun _ => .idle⟩

/-- One client makes a move. -/
def Step (a b : Clients κ) : Prop :=
  ∃ c, Move c a.shared (a.phase c) b.shared (b.phase c) ∧ ∀ e, e ≠ c → b.phase e = a.phase e

theorem Step.update [DecidableEq κ] {v v' : Shared κ} {phase : κ → Phase} {p : Phase} (c : κ)
    (h : Move c v (phase c) v' p) : Step ⟨v, phase⟩ ⟨v', Function.update phase c p⟩ := by
  refine ⟨c, ?_, fun e he => Function.update_of_ne he p phase⟩
  show Move c v (phase c) v' (Function.update phase c p c)
  rw [Function.update_self]
  exact h

/-- Any number of moves, of any clients in any order. -/
abbrev Reaches : Clients κ → Clients κ → Prop := Relation.ReflTransGen Step

/-- All clients are done. -/
def IsIdle (a : Clients κ) : Prop := ∀ c, a.phase c = .idle

end Clients

/-! ### Who has a lock -/

/-- The lock says which client has it. -/
def Owns {κ : Type} (has : Phase → Bool) (lock : Option κ) (phase : κ → Phase) : Prop :=
  ∀ c, lock = some c ↔ has (phase c)

/-- What a move may do to a lock: nothing, take it when it is free, or give it back. -/
def Handles {κ : Type} (has : Phase → Bool) (c : κ) (lock : Option κ) (p : Phase)
    (lock' : Option κ) (p' : Phase) : Prop :=
  (lock' = lock ∧ has p' = has p) ∨ (lock = none ∧ lock' = some c ∧ has p' = true) ∨
    (lock' = none ∧ has p = true ∧ has p' = false)

section

variable {κ : Type} {c : κ} {v v' : Shared κ} {p p' : Phase}

theorem Move.handles_gate (h : Move c v p v' p') :
    Handles Phase.hasGate c v.gate p v'.gate p' := by
  cases h with
  | enter | begin => exact .inr (.inl ⟨rfl, rfl, rfl⟩)
  | pass | leave => exact .inr (.inr ⟨rfl, rfl, rfl⟩)
  | _ => exact .inl ⟨rfl, rfl⟩

theorem Move.handles_latch (h : Move c v p v' p') :
    Handles Phase.hasLatch c v.latch p v'.latch p' := by
  cases h with
  | hold | work | seize => exact .inr (.inl ⟨rfl, rfl, rfl⟩)
  | depart | unlatch | finish => exact .inr (.inr ⟨rfl, rfl, rfl⟩)
  | _ => exact .inl ⟨rfl, rfl⟩

variable {has : Phase → Bool} {lock lock' : Option κ} {phase phase' : κ → Phase}

theorem Owns.eq (h : Owns has lock phase) {e : κ} (hc : has (phase c) = true)
    (he : has (phase e) = true) : c = e :=
  Option.some.inj (((h c).2 hc).symm.trans ((h e).2 he))

theorem Owns.eq_false (h : Owns has lock phase) {e : κ} (hc : has (phase c) = true) (he : e ≠ c) :
    has (phase e) = false :=
  Bool.eq_false_iff.2 fun hcontra => he (h.eq hcontra hc)

theorem Owns.eq_none_iff (h : Owns has lock phase) : lock = none ↔ ∀ c, has (phase c) = false := by
  rw [Option.eq_none_iff_forall_ne_some]
  exact forall_congr' fun c => (not_congr (h c)).trans (by simp)

theorem Owns.step (h : Owns has lock phase)
    (hc : Handles has c lock (phase c) lock' (phase' c))
    (hother : ∀ e, e ≠ c → phase' e = phase e) : Owns has lock' phase' := by
  intro e
  by_cases he : e = c
  · subst he
    rcases hc with ⟨hlock, hp⟩ | ⟨-, hlock, hp⟩ | ⟨hlock, -, hp⟩
    · rw [hlock, hp]
      exact h e
    · simp [hlock, hp]
    · simp [hlock, hp]
  · rw [hother e he]
    rcases hc with ⟨hlock, -⟩ | ⟨hfree, hlock, -⟩ | ⟨hlock, hp, -⟩
    · rw [hlock]
      exact h e
    · rw [hlock, h.eq_none_iff.1 hfree e]
      simpa using Ne.symm he
    · rw [hlock, h.eq_false hp he]
      simp

end

end SessionAuth
