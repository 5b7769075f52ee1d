import Mathlib.Data.List.Nodup
import Mathlib.Logic.Relation
import SessionAuth.Proofs.Store.Transaction
import SessionAuth.Service.Session

/-!
# Interleaved operations

Any number of clients call the service over one vault. Each of their calls is a task: it makes one
call on the store after the other, and between any two of them, every other task may go on. A task
that has to wait for a transaction makes no step, and a task that waits may be abandoned, which
drops its transaction.

The steps come in two strengths. With `mayFail`, any call on the store may also fail without an
effect, at any time and for any reason; without it, the vault is all there is.
-/

namespace SessionAuth

/-! ### Commands -/

/-- What a client asks of the service. -/
inductive Command where
  | signUp (email password : String)
  | login (email password fingerprint : String)
  | refresh (tokenId fingerprint : String)
  | logout (tokenId : String)
  | cleanUp
deriving DecidableEq

/-- What a client is given. -/
inductive Outcome where
  | account (u : User)
  | session (s : Session)
  | signedOut
  | cleanedUp (count : Nat)
deriving DecidableEq

/-- Carries out a command. -/
def Service.perform (s : Service) (fresh : Fresh) : Command → Operation Outcome
  | .signUp email password => return .account (← s.signUp fresh email password)
  | .login email password fingerprint =>
    return .session (← s.login fresh email password fingerprint)
  | .refresh tokenId fingerprint => return .session (← s.refresh fresh tokenId fingerprint)
  | .logout tokenId => do
    Service.logout tokenId
    return .signedOut
  | .cleanUp => return .cleanedUp (← Service.cleanUp fresh.now)

/-! ### Tasks -/

/-- A command under way: what it was told so far, what is left of it unless it was abandoned, and
whether it is in a transaction. -/
structure Task where
  command : Command
  fresh : Fresh
  history : List Exchange
  rest : Option (Program (Except Failure Outcome))
  isInside : Bool

namespace Task

/-- A command before its first call. -/
def start (s : Service) (command : Command) (fresh : Fresh) : Task :=
  ⟨command, fresh, [], some (s.perform fresh command).run, false⟩

/-- The task after an answer. -/
def told (t : Task) (c : Call) (next : Except Failure c.Answer → Program (Except Failure Outcome))
    (x : Except Failure c.Answer) : Task :=
  { t with
    history := t.history ++ [⟨c, x⟩]
    rest := some (next x)
    isInside := c.isInsideAfter t.isInside x }

/-- The task when its client no longer waits. -/
def abandoned (t : Task) : Task := { t with rest := none, isInside := false }

/-- The client was given a result. -/
def EndsWith (t : Task) (r : Except Failure Outcome) : Prop := t.rest = some (.done r)

/-- One step of a task on the vault: it logs, its next call is answered or fails without an effect,
or it is abandoned at that call. -/
inductive Step (mayFail : Bool) (v : Vault) (t : Task) : Vault → Task → Prop
  | log {e : Event} {p : Program (Except Failure Outcome)} (h : t.rest = some (.log e p)) :
    Step mayFail v t v { t with rest := some p }
  | answered {c : Call} {next : Except Failure c.Answer → Program (Except Failure Outcome)}
    {r : Reply Vault c.Answer} (h : t.rest = some (.call c next))
    (hr : v.reply? t.isInside c = some r) : Step mayFail v t r.state (t.told c next r.answer)
  | failed {c : Call} {next : Except Failure c.Answer → Program (Except Failure Outcome)}
    (f : Failure) (h : t.rest = some (.call c next)) (hf : mayFail = true) :
    Step mayFail v t (Backend.afterFailure t.isInside v c) (t.told c next (.error f))
  | abandoned {c : Call} {next : Except Failure c.Answer → Program (Except Failure Outcome)}
    (h : t.rest = some (.call c next)) :
    Step mayFail v t (if t.isInside then v.drop else v) t.abandoned

/-- Any number of steps of a task, with nobody else at the vault. -/
abbrev Runs (mayFail : Bool) : Vault × Task → Vault × Task → Prop :=
  Relation.ReflTransGen fun p q => p.2.Step mayFail p.1 q.1 q.2

end Task

/-! ### Systems -/

/-- A vault and all tasks so far, in the order of their arrival. -/
structure System where
  vault : Vault
  tasks : List Task

namespace System

/-- No user and no task yet. -/
def initial : System := ⟨.empty, []⟩

/-- A command arrives, or one task makes a step. -/
inductive Step (s : Service) (mayFail : Bool) : System → System → Prop
  | arrival (v : Vault) (tasks : List Task) (command : Command) (fresh : Fresh) :
    Step s mayFail ⟨v, tasks⟩ ⟨v, tasks ++ [.start s command fresh]⟩
  | progress (before after : List Task) {v v' : Vault} {t t' : Task} (h : t.Step mayFail v v' t') :
    Step s mayFail ⟨v, before ++ t :: after⟩ ⟨v', before ++ t' :: after⟩

/-- A run of any length. -/
abbrev Reaches (s : Service) (mayFail : Bool) : System → System → Prop :=
  Relation.ReflTransGen (Step s mayFail)

/-- No two tasks were given the same new identifier. -/
structure HasFreshIds (a : System) : Prop where
  tokenId : (a.tasks.map (·.fresh.tokenId)).Nodup
  userId : (a.tasks.map (·.fresh.userId)).Nodup

end System

/-! ### What steps leave as it is -/

theorem Task.Step.command_eq {mayFail : Bool} {v v' : Vault} {t t' : Task}
    (h : t.Step mayFail v v' t') : t'.command = t.command := by
  cases h <;> rfl

theorem Task.Step.fresh_eq {mayFail : Bool} {v v' : Vault} {t t' : Task}
    (h : t.Step mayFail v v' t') : t'.fresh = t.fresh := by
  cases h <;> rfl

theorem Task.Step.mem_history {mayFail : Bool} {v v' : Vault} {t t' : Task}
    (h : t.Step mayFail v v' t') {e : Exchange} (he : e ∈ t.history) : e ∈ t'.history := by
  cases h with
  | log | abandoned => exact he
  | answered | failed => exact List.mem_append_left _ he

theorem Task.Runs.fresh_eq {mayFail : Bool} {p q : Vault × Task} (h : Task.Runs mayFail p q) :
    q.2.fresh = p.2.fresh := by
  induction h with
  | refl => rfl
  | tail _ h ih => exact h.fresh_eq.trans ih

namespace System

variable {s : Service} {mayFail : Bool} {a b : System}

theorem Step.fresh_eq (h : Step s mayFail a b) :
    ∃ new, b.tasks.map (·.fresh) = a.tasks.map (·.fresh) ++ new := by
  cases h with
  | arrival v tasks command fresh => exact ⟨[fresh], by simp [Task.start]⟩
  | progress before after h => exact ⟨[], by simp [h.fresh_eq]⟩

/-- A task keeps its command, what it was given of its own, and what it was told. -/
theorem Step.exists_task (h : Step s mayFail a b) {t : Task} (ht : t ∈ a.tasks) :
    ∃ t' ∈ b.tasks, t'.command = t.command ∧ t'.fresh = t.fresh ∧
      ∀ e ∈ t.history, e ∈ t'.history := by
  cases h with
  | arrival v tasks command fresh =>
    exact ⟨t, List.mem_append_left _ ht, rfl, rfl, fun _ he => he⟩
  | @progress before after v v' w w' h =>
    rcases List.mem_append.1 ht with ht | ht
    · exact ⟨t, List.mem_append_left _ ht, rfl, rfl, fun _ he => he⟩
    · rcases List.mem_cons.1 ht with rfl | ht
      · exact ⟨w', by simp, h.command_eq, h.fresh_eq, fun _ => h.mem_history⟩
      · exact ⟨t, by simp [ht], rfl, rfl, fun _ he => he⟩

theorem HasFreshIds.of_map_eq {new : List Fresh}
    (h : b.tasks.map (·.fresh) = a.tasks.map (·.fresh) ++ new) (hb : b.HasFreshIds) :
    a.HasFreshIds := by
  have htokens := congrArg (List.map (·.tokenId)) h
  have husers := congrArg (List.map (·.userId)) h
  simp only [List.map_append, List.map_map, Function.comp_def] at htokens husers
  refine ⟨?_, ?_⟩
  · have h := hb.tokenId
    rw [htokens] at h
    exact List.Nodup.of_append_left h
  · have h := hb.userId
    rw [husers] at h
    exact List.Nodup.of_append_left h

theorem HasFreshIds.of_step (h : Step s mayFail a b) (hb : b.HasFreshIds) : a.HasFreshIds := by
  obtain ⟨new, hnew⟩ := h.fresh_eq
  exact .of_map_eq hnew hb

theorem HasFreshIds.of_reaches (h : a.Reaches s mayFail b) (hb : b.HasFreshIds) :
    a.HasFreshIds := by
  induction h with
  | refl => exact hb
  | tail _ h ih => exact ih (hb.of_step h)

/-- Two tasks with the same new token are one. -/
theorem HasFreshIds.eq_of_tokenId (h : a.HasFreshIds) {t u : Task} (ht : t ∈ a.tasks)
    (hu : u ∈ a.tasks) (heq : t.fresh.tokenId = u.fresh.tokenId) : t = u :=
  List.inj_on_of_nodup_map h.tokenId ht hu heq

/-- Two tasks with the same new user are one. -/
theorem HasFreshIds.eq_of_userId (h : a.HasFreshIds) {t u : Task} (ht : t ∈ a.tasks)
    (hu : u ∈ a.tasks) (heq : t.fresh.userId = u.fresh.userId) : t = u :=
  List.inj_on_of_nodup_map h.userId ht hu heq

/-- One more task is given identifiers of its own. -/
theorem hasFreshIds_append_iff {v w : Vault} {tasks : List Task} {t : Task} :
    HasFreshIds ⟨w, tasks ++ [t]⟩ ↔ HasFreshIds ⟨v, tasks⟩ ∧
    ∀ x ∈ tasks, x.fresh.tokenId ≠ t.fresh.tokenId ∧ x.fresh.userId ≠ t.fresh.userId := by
  constructor
  · rintro ⟨htoken, huser⟩
    rw [List.map_append, List.nodup_append] at htoken huser
    refine ⟨⟨htoken.1, huser.1⟩, fun x hx => ⟨?_, ?_⟩⟩
    · exact htoken.2.2 _ (List.mem_map_of_mem hx) _ (List.mem_singleton_self _)
    · exact huser.2.2 _ (List.mem_map_of_mem hx) _ (List.mem_singleton_self _)
  · rintro ⟨⟨htoken, huser⟩, hnew⟩
    refine ⟨?_, ?_⟩
    · rw [List.map_append, List.nodup_append]
      refine ⟨htoken, List.nodup_singleton _, ?_⟩
      simpa using fun x hx => (hnew x hx).1
    · rw [List.map_append, List.nodup_append]
      refine ⟨huser, List.nodup_singleton _, ?_⟩
      simpa using fun x hx => (hnew x hx).2

end System

end SessionAuth
