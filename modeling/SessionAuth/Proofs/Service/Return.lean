import SessionAuth.Proofs.Service.Renewal

/-!
# What tasks return

A task has returned once nothing but logging is left of it (`Task.Returns`): what its client is
given is settled then, and nobody can keep it from getting there. Tasks are known by their position,
where each state of a run has the same task at a later time (`Reaches.before`), and what it has
returned stays.
-/

namespace SessionAuth

namespace Program

variable {α : Type}

/-- The program only logs, and ends with the result. -/
inductive Returns (a : α) : Program α → Prop
  | done : Returns a (done a)
  | log (e : Event) {p : Program α} (h : Returns a p) : Returns a (log e p)

variable {p : Program α} {a b : α} {calls : Bool → List Exchange → Call → Prop}
  {ends : Bool → List Exchange → α → Prop} {isInside : Bool} {history : List Exchange}

theorem Returns.unique (h : p.Returns a) (h' : p.Returns b) : a = b := by
  induction h with
  | done =>
    cases h'
    rfl
  | log e _ ih =>
    cases h' with
    | log _ h' => exact ih h'

theorem Follows.of_returns (h : p.Follows calls ends isInside history) (hr : p.Returns a) :
    ends isInside history a := by
  induction hr with
  | done =>
    cases h with
    | done h => exact h
  | log e _ ih =>
    cases h with
    | log h => exact ih h

/-- A program that may make no call any more has returned. -/
theorem Follows.exists_returns (h : p.Follows calls ends isInside history)
    (hno : ∀ c, ¬ calls isInside history c) : ∃ a, p.Returns a := by
  induction h with
  | done => exact ⟨_, .done⟩
  | log _ ih =>
    obtain ⟨a, ha⟩ := ih hno
    exact ⟨a, .log _ ha⟩
  | call hc => exact absurd hc (hno _)

/-- Of every program it is true that it does something. -/
theorem follows_true (p : Program α) (isInside : Bool) (history : List Exchange) :
    p.Follows (fun _ _ _ => True) (fun _ _ _ => True) isInside history := by
  induction p generalizing isInside history with
  | done a => exact .done trivial
  | log e p ih => exact .log (ih isInside history)
  | call c next ih => exact .call trivial fun x => ih x _ _

end Program

/-! ### How the last call shows in the result -/

namespace Service

variable {s : Service} {fresh : Fresh} {command : Command} {isInside : Bool}
  {history : List Exchange} {text device : String} {token : RefreshToken}
  {r : Except Failure Outcome}

/-- A refresh makes no call after it has created a token. -/
theorem Calls.creation_not_mem {c : Call}
    (h : s.Calls fresh (.refresh text device) isInside history c) :
    .creation token ∉ history := by
  cases h <;> simp [claim]

/-- A refresh that has created a token succeeds. -/
theorem Ends.session_of_creation (h : s.Ends fresh (.refresh text device) history r)
    (hh : .creation token ∈ history) :
    ∃ session, r = .ok (.session session) ∧ session.tokenId = fresh.tokenId := by
  cases h with
  | failed h =>
    rcases List.mem_append.1 hh with hh | hh
    · exact absurd hh h.creation_not_mem
    · cases List.mem_singleton.1 hh
  | unreadable | missing | lost | foreign | expired | orphaned | unsigned => simp [claim] at hh
  | renewed => exact ⟨_, rfl, rfl⟩

/-- What has committed succeeds. -/
theorem Ends.session_of_commitment (h : s.Ends fresh command history r)
    (hh : .commitment ∈ history) :
    ∃ session, r = .ok (.session session) ∧ session.tokenId = fresh.tokenId := by
  cases h with
  | failed h =>
    rcases List.mem_append.1 hh with hh | hh
    · exact absurd hh h.commitment_not_mem
    · cases List.mem_singleton.1 hh
  | signedUp h => exact absurd hh (by simp [h.commitment_not_mem])
  | uncommitted _ h | rolledBack _ h => exact absurd hh (by simp [h.commitment_not_mem])
  | committed hf h =>
    cases h with
    | opened => exact ⟨_, rfl, rfl⟩
  | invalidEmail | taken | invalidPassword | invalidDevice | unreadable | missing | lost | foreign
  | expired | orphaned | unsigned | renewed | unnamed | revoked | cleanedUp =>
    simp [claim] at hh

/-- The session that a command ends with has the command's new token. -/
theorem Ends.tokenId_eq {session : Session}
    (h : s.Ends fresh command history (.ok (.session session))) :
    session.tokenId = fresh.tokenId := by
  cases h with
  | committed hf h =>
    cases h with
    | opened => rfl
  | renewed => rfl

/-- Only a login or a refresh ends with a session. -/
theorem Ends.login_or_refresh {session : Session}
    (h : s.Ends fresh command history (.ok (.session session))) :
    (∃ text password device, command = .login text password device) ∨
      ∃ text device, command = .refresh text device := by
  cases h with
  | committed => exact .inl ⟨_, _, _, rfl⟩
  | renewed => exact .inr ⟨_, _, rfl⟩

end Service

/-! ### Tasks that have returned -/

namespace Task

variable {s : Service} {t t' u : Task} {mayFail : Bool} {v v' : Vault}
  {r r' : Except Failure Outcome} {session : Session}

/-- Nothing but logging is left of the task, and its client is given the result. -/
def Returns (t : Task) (r : Except Failure Outcome) : Prop := ∃ p, t.rest = some p ∧ p.Returns r

/-- The client is given the session. -/
def Gives (t : Task) (session : Session) : Prop := t.Returns (.ok (.session session))

theorem EndsWith.returns (h : t.EndsWith r) : t.Returns r := ⟨_, h, .done⟩

theorem Returns.unique (h : t.Returns r) (h' : t.Returns r') : r = r' := by
  obtain ⟨p, hp, hr⟩ := h
  obtain ⟨p', hp', hr'⟩ := h'
  rw [hp] at hp'
  cases hp'
  exact hr.unique hr'

theorem Conforms.of_returns (h : t.Conforms s) (hr : t.Returns r) :
    s.Ends t.fresh t.command t.history r := by
  obtain ⟨p, hp, hr⟩ := hr
  exact ((h.rest p hp).of_returns hr).2

theorem Conforms.exists_returns (h : t.Conforms s) (hr : t.rest.isSome)
    (hno : ∀ c, ¬ s.Calls t.fresh t.command t.isInside t.history c) : ∃ r, t.Returns r := by
  obtain ⟨p, hp⟩ := Option.isSome_iff_exists.1 hr
  obtain ⟨r, hr⟩ := (h.rest p hp).exists_returns hno
  exact ⟨r, p, hp, hr⟩

/-- A refresh that has created a token gives it to its client. -/
theorem Conforms.gives_of_creation (h : t.Conforms s) (hr : t.rest.isSome) {text device : String}
    (hc : t.command = .refresh text device) {token : RefreshToken}
    (hh : .creation token ∈ t.history) :
    ∃ session, t.Gives session ∧ session.tokenId = t.fresh.tokenId := by
  obtain ⟨r, hreturns⟩ := h.exists_returns hr fun c hcall => by
    rw [hc] at hcall
    exact hcall.creation_not_mem hh
  have hends := h.of_returns hreturns
  rw [hc] at hends
  obtain ⟨session, rfl, hid⟩ := hends.session_of_creation hh
  exact ⟨session, hreturns, hid⟩

/-- What has committed gives its token to its client. -/
theorem Conforms.gives_of_commitment (h : t.Conforms s) (hr : t.rest.isSome)
    (hh : .commitment ∈ t.history) :
    ∃ session, t.Gives session ∧ session.tokenId = t.fresh.tokenId := by
  obtain ⟨r, hreturns⟩ := h.exists_returns hr fun c hcall => hcall.commitment_not_mem hh
  obtain ⟨session, rfl, hid⟩ := (h.of_returns hreturns).session_of_commitment hh
  exact ⟨session, hreturns, hid⟩

/-- A task under way goes on to follow what its program follows. -/
theorem Step.follows {calls : Bool → List Exchange → Call → Prop}
    {ends : Bool → List Exchange → Except Failure Outcome → Prop} (h : t.Step mayFail v v' t')
    (ht : ∀ p, t.rest = some p → p.Follows calls ends t.isInside t.history) :
    ∀ p, t'.rest = some p → p.Follows calls ends t'.isInside t'.history := by
  rintro p hp
  cases h with
  | log h =>
    cases hp
    cases ht _ h with
    | log h => exact h
  | answered h | failed _ h =>
    cases hp
    cases ht _ h with
    | call _ h => exact h _
  | abandoned => cases hp

/-- The second task is the first one, then or later. -/
structure Before (t u : Task) : Prop where
  command_eq : u.command = t.command
  fresh_eq : u.fresh = t.fresh
  mem_history : ∀ e ∈ t.history, e ∈ u.history
  returns : ∀ r, t.Returns r → u.Returns r

theorem Before.refl (t : Task) : t.Before t := ⟨rfl, rfl, fun _ h => h, fun _ h => h⟩

theorem Before.trans (h : t.Before t') (h' : t'.Before u) : t.Before u where
  command_eq := h'.command_eq.trans h.command_eq
  fresh_eq := h'.fresh_eq.trans h.fresh_eq
  mem_history e he := h'.mem_history e (h.mem_history e he)
  returns r hr := h'.returns r (h.returns r hr)

theorem Step.before (h : t.Step mayFail v v' t') : t.Before t' where
  command_eq := h.command_eq
  fresh_eq := h.fresh_eq
  mem_history _ he := h.mem_history he
  returns r hr := by
    obtain ⟨p, hp, hr⟩ := hr
    cases h with
    | log h =>
      rw [h] at hp
      cases hp
      cases hr with
      | log _ hr => exact ⟨_, rfl, hr⟩
    | answered h | failed _ h | abandoned h =>
      rw [h] at hp
      cases hp
      cases hr

end Task

namespace System

variable {s : Service} {mayFail : Bool} {a b : System} {n m : Nat} {t : Task}

/-- What all commands follow, every task follows. -/
theorem Reaches.follows {calls : Fresh → Command → Bool → List Exchange → Call → Prop}
    {ends : Fresh → Command → Bool → List Exchange → Except Failure Outcome → Prop}
    (hs : ∀ fresh command, (s.perform fresh command).run.Follows (calls fresh command)
      (ends fresh command) false [])
    (h : initial.Reaches s mayFail a) (ht : t ∈ a.tasks) :
    ∀ p, t.rest = some p → p.Follows (calls t.fresh t.command) (ends t.fresh t.command) t.isInside
      t.history := by
  induction h generalizing t with
  | refl => cases ht
  | tail _ h ih =>
    cases h with
    | arrival v tasks command fresh =>
      rcases List.mem_append.1 ht with ht | ht
      · exact ih ht
      · rw [List.mem_singleton.1 ht]
        rintro p hp
        cases hp
        exact hs fresh command
    | @progress before after v v' u u' h =>
      have hu := ih (t := u) (by simp)
      simp only [List.mem_append, List.mem_cons] at ht
      rcases ht with ht | rfl | ht
      · exact ih (by simp [ht])
      · have hnext := h.follows hu
        rw [h.command_eq, h.fresh_eq]
        exact hnext
      · exact ih (by simp [ht])

/-- A task that goes on keeps its place, and so do the others. -/
theorem getElem?_progress (before after : List Task) (t t' : Task) (n : Nat) :
    (before ++ t' :: after)[n]? =
      if before.length = n then some t' else (before ++ t :: after)[n]? := by
  have hset : before ++ t' :: after = (before ++ t :: after).set before.length t' := by
    rw [List.set_append_right _ _ (Nat.le_refl _), Nat.sub_self, List.set_cons_zero]
  have hlt : before.length < (before ++ t :: after).length := by simp
  rw [hset, List.getElem?_set, if_pos hlt]

/-- Each task stays at its position. -/
theorem Step.before (h : Step s mayFail a b) (ht : a.tasks[n]? = some t) :
    ∃ u, b.tasks[n]? = some u ∧ t.Before u := by
  cases h with
  | arrival v tasks command fresh =>
    refine ⟨t, ?_, .refl t⟩
    rw [List.getElem?_append_left (List.getElem?_eq_some_iff.1 ht).1]
    exact ht
  | @progress before after v v' u u' h =>
    rw [getElem?_progress before after u u']
    split
    case isTrue hn =>
      subst hn
      rw [List.getElem?_append_right (Nat.le_refl _), Nat.sub_self, List.getElem?_cons_zero] at ht
      cases ht
      exact ⟨u', rfl, h.before⟩
    case isFalse => exact ⟨t, ht, .refl t⟩

theorem Reaches.before (h : a.Reaches s mayFail b) (ht : a.tasks[n]? = some t) :
    ∃ u, b.tasks[n]? = some u ∧ t.Before u := by
  induction h with
  | refl => exact ⟨t, ht, .refl t⟩
  | tail _ h ih =>
    obtain ⟨u, hu, htu⟩ := ih
    obtain ⟨w, hw, huw⟩ := h.before hu
    exact ⟨w, hw, htu.trans huw⟩

/-- Two positions with the same new token are one. -/
theorem HasFreshIds.position_eq (h : a.HasFreshIds) {u : Task} (ht : a.tasks[n]? = some t)
    (hu : a.tasks[m]? = some u) (heq : t.fresh.tokenId = u.fresh.tokenId) : n = m := by
  obtain ⟨hn, rfl⟩ := List.getElem?_eq_some_iff.1 ht
  obtain ⟨hm, rfl⟩ := List.getElem?_eq_some_iff.1 hu
  have hn' : n < (a.tasks.map (·.fresh.tokenId)).length := by rwa [List.length_map]
  have hm' : m < (a.tasks.map (·.fresh.tokenId)).length := by rwa [List.length_map]
  have heq' : (a.tasks.map (·.fresh.tokenId))[n] = (a.tasks.map (·.fresh.tokenId))[m] := by
    rw [List.getElem_map, List.getElem_map]
    exact heq
  exact (List.Nodup.getElem_inj_iff h.tokenId).1 heq'

end System

end SessionAuth
