import SessionAuth.Proofs.Service.Isolation
import SessionAuth.Proofs.Service.Ownership
import SessionAuth.Proofs.Store.View

/-!
# Users among others

Whatever others do at the same time, a user sees nothing of it. The steps of all tasks that are not
about the user's account can be left out of a run (`System.Reaches.exists_secluded`): what remains,
over the part of the store that belongs to the user, is a run with the same tasks about the account,
which are told the same at every call.
-/

open scoped Classical

namespace SessionAuth

namespace Task

variable {mayFail : Bool} {v v' w : Vault} {t t' : Task} {u : User}

/-- A task that asks about the user takes the same step in what belongs to the user. -/
theorem Step.shows (h : t.Step mayFail v w t') (hs : v.Shows u v') (hv : v.IsSound)
    (hv' : v'.IsSound) (hi : t.isInside = true → v'.journal = v.journal)
    (hask : ∀ r next, t.rest = some (.call (.ask r) next) → v.store.Concerns u r)
    (hfit : w.store.Fits u) : ∃ w', t.Step mayFail v' w' t' ∧ w.Shows u w' := by
  cases h with
  | log h => exact ⟨v', .log h, hs⟩
  | @answered c next reply h hr =>
    obtain ⟨reply', hr', hanswer, hshows⟩ := hs.answered hv hv' hr hi
      (by rintro r rfl; exact hask r next h) hfit
    rw [← hanswer]
    exact ⟨reply'.state, .answered h hr', hshows⟩
  | failed f h hf => exact ⟨_, .failed f h hf, hs.afterFailure _ _⟩
  | abandoned h =>
    refine ⟨_, .abandoned h, ?_⟩
    cases hinside : t.isInside with
    | false => exact hs
    | true => exact hs.drop

/-- A task that spares the user changes nothing in what belongs to the user. -/
theorem Step.shows_left (h : t.Step mayFail v w t') (hs : v.Shows u v') (hv : v.IsSound)
    (hi : t.isInside = true → v'.journal = none)
    (hask : ∀ r next, t.rest = some (.call (.ask r) next) → v.store.Spares u r)
    (hfit : w.store.Fits u) : w.Shows u v' := by
  cases h with
  | log h => exact hs
  | @answered c next reply h hr =>
    exact hs.answered_left hv hr hi (by rintro r rfl; exact hask r next h) hfit
  | failed f h hf =>
    rcases Vault.afterFailure_eq v t.isInside _ with heq | ⟨hinside, heq⟩
    · rw [heq]
      exact hs
    · rw [heq]
      exact hs.drop_left (hi hinside)
  | abandoned h =>
    cases hinside : t.isInside with
    | false => exact hs
    | true => exact hs.drop_left (hi hinside)

end Task

namespace System

variable {s : Service} {mayFail : Bool} {a a' b : System} {u : User} {t t' : Task} {v w : Vault}
  {before after tasks : List Task} {c : System}

/-- The tasks that are about the user's account. -/
noncomputable def tasksAbout (b : System) (u : User) (tasks : List Task) : List Task :=
  tasks.filter fun t => decide (b.IsAbout u t.command)

/-- A task about the account is at its place among the tasks about the account. -/
theorem exists_split_of_tasksAbout_eq (habout : b.IsAbout u t.command)
    (h : b.tasksAbout u tasks = b.tasksAbout u (before ++ t :: after)) :
    ∃ before' after', tasks = before' ++ t :: after' ∧
      b.tasksAbout u before' = b.tasksAbout u before ∧
      b.tasksAbout u after' = b.tasksAbout u after := by
  simp only [tasksAbout, List.filter_append, List.filter_cons, habout, decide_true, if_true] at h ⊢
  obtain ⟨l₁, l₂, rfl, hbefore, h⟩ := List.filter_eq_append_iff.1 h
  obtain ⟨m₁, m₂, rfl, hno, -, hafter⟩ := List.filter_eq_cons_iff.1 h
  refine ⟨l₁ ++ m₁, m₂, by simp, ?_, hafter⟩
  rw [List.filter_append, hbefore, List.filter_eq_nil_iff.2 hno, List.append_nil]

/-- The second system is the first one without others: the vault has what belongs to the user, the
tasks about the account are the same, and there are no others but cleanups that others have made. -/
structure Secludes (b : System) (u : User) (a a' : System) : Prop where
  vault : a.vault.Shows u a'.vault
  tasks : b.tasksAbout u a'.tasks = b.tasksAbout u a.tasks
  others : ∀ t ∈ a'.tasks, b.IsAbout u t.command ∨ t.command = .cleanUp ∧
    ∃ w ∈ a.tasks, w.command = .cleanUp ∧ w.fresh = t.fresh ∧ w.history ≠ []
  hasFreshIds : a'.HasFreshIds

/-- If others make no cleanup, the tasks about the account are alone. -/
theorem Secludes.tasks_eq (h : Secludes b u a a') (hno : ∀ t ∈ a.tasks, t.command ≠ .cleanUp) :
    a'.tasks = b.tasksAbout u a.tasks := by
  rw [← h.tasks, tasksAbout, List.filter_eq_self.2]
  intro t ht
  rcases h.others t ht with habout | ⟨-, w, hw, hclean, -⟩
  · exact decide_eq_true habout
  · exact absurd hclean (hno w hw)

theorem Secludes.mem_iff (h : Secludes b u a a') (habout : b.IsAbout u t.command) :
    t ∈ a'.tasks ↔ t ∈ a.tasks := by
  have hmem := congrArg (t ∈ ·) h.tasks
  simpa [tasksAbout, habout] using hmem

/-- Whoever is there without others is there. -/
theorem Secludes.exists_task (h : Secludes b u a a') (ht : t ∈ a'.tasks) :
    ∃ w ∈ a.tasks, w.fresh = t.fresh ∧
      (w = t ∧ b.IsAbout u t.command ∨ w.command = .cleanUp ∧ w.history ≠ []) := by
  rcases h.others t ht with habout | ⟨-, w, hw, hclean, hfresh, hhistory⟩
  · exact ⟨t, (h.mem_iff habout).1 ht, rfl, .inl ⟨rfl, habout⟩⟩
  · exact ⟨w, hw, hfresh, .inr ⟨hclean, hhistory⟩⟩

/-- Who is in the transaction on the user's account is in it without others as well. -/
theorem Secludes.journal_eq (h : Secludes b u a a') (ha' : a'.IsExclusive) (ht : t ∈ a.tasks)
    (habout : b.IsAbout u t.command) (hi : t.isInside = true) :
    a'.vault.journal = a.vault.journal := by
  have hsome := ha'.isSome_journal ((h.mem_iff habout).2 ht) hi
  rcases h.vault.journal with hj | hj
  · rw [hj] at hsome
    cases hsome
  · exact hj

/-- While somebody else is in the transaction, there is none without others. -/
theorem Secludes.journal_eq_none (h : Secludes b u ⟨v, before ++ t :: after⟩ a')
    (ha : IsExclusive ⟨v, before ++ t :: after⟩) (ha' : a'.IsExclusive) (hconf : a'.Conforms s)
    (habout : ¬ b.IsAbout u t.command) (hi : t.isInside = true) : a'.vault.journal = none := by
  by_contra hj
  have hcount : a'.tasks.countP (·.isInside) = 1 := by
    rw [ha', Option.isSome_iff_ne_none.2 hj]
    rfl
  obtain ⟨t', ht', hi'⟩ := List.countP_pos_iff.1 (Nat.lt_of_lt_of_eq Nat.one_pos hcount.symm)
  have habout' : b.IsAbout u t'.command := by
    obtain ⟨_, _, _, hlogin⟩ := (hconf t' ht').login_of_inside hi'
    rcases h.others t' ht' with habout' | ⟨hclean, -⟩
    · exact habout'
    · rw [hlogin] at hclean
      cases hclean
  have hmem : t' ∈ before ∨ t' ∈ after := by
    have hmem := (h.mem_iff habout').1 ht'
    rcases List.mem_append.1 hmem with hmem | hmem
    · exact .inl hmem
    · rcases List.mem_cons.1 hmem with rfl | hmem
      · exact absurd habout' habout
      · exact .inr hmem
  rw [ha.eq_false hmem hi'] at hi
  cases hi

theorem Secludes.others_step (h : Secludes b u a a') (hstep : Step s mayFail a c) :
    ∀ t ∈ a'.tasks, b.IsAbout u t.command ∨ t.command = .cleanUp ∧
      ∃ w ∈ c.tasks, w.command = .cleanUp ∧ w.fresh = t.fresh ∧ w.history ≠ [] := by
  intro t ht
  refine (h.others t ht).imp_right (And.imp_right ?_)
  rintro ⟨w, hw, hclean, hfresh, hhistory⟩
  obtain ⟨w', hw', hcommand, hfresh', htold⟩ := hstep.exists_task hw
  obtain ⟨e, he⟩ := List.exists_mem_of_ne_nil _ hhistory
  exact ⟨w', hw', hcommand.trans hclean, hfresh'.trans hfresh, List.ne_nil_of_mem (htold e he)⟩

/-! ### Steps about the account -/

/-- A task about the account takes its step without others as well. -/
theorem Secludes.step_about (h : Secludes b u ⟨v, before ++ t :: after⟩ a')
    (hl : LeadsTo s b u ⟨v, before ++ t :: after⟩) (ha' : initial.Reaches s mayFail a')
    (habout : b.IsAbout u t.command) (hstep : t.Step mayFail v w t') (hfit : w.store.Fits u) :
    ∃ c', a'.Reaches s mayFail c' ∧ Secludes b u ⟨w, before ++ t' :: after⟩ c' := by
  have ht : t ∈ before ++ t :: after := by simp
  have hothers := h.others_step (.progress before after hstep : Step s mayFail _ _)
  obtain ⟨v', tasks'⟩ := a'
  obtain ⟨before', after', rfl, hbefore, hafter⟩ := exists_split_of_tasksAbout_eq habout h.tasks
  obtain ⟨w', hstep', hshows⟩ := hstep.shows h.vault hl.isRegular.redeemsOnce.isSound
    (Reaches.isSound ha') (h.journal_eq (Reaches.isExclusive ha') ht habout)
    (fun r next hr => hl.concerns ht ((hl.isRegular.conforms t ht).call hr) habout) hfit
  refine ⟨⟨w', before' ++ t' :: after'⟩, .single (.progress before' after' hstep'), hshows, ?_, ?_,
    ?_⟩
  · simp only [tasksAbout, List.filter_append, List.filter_cons] at hbefore hafter ⊢
    simp only [hbefore, hafter]
  · intro x hx
    rcases List.mem_append.1 hx with hx | hx
    · exact hothers x (List.mem_append_left _ hx)
    · rcases List.mem_cons.1 hx with rfl | hx
      · exact .inl (hstep.command_eq ▸ habout)
      · exact hothers x (by simp [hx])
  · have hmap : (before' ++ t :: after').map (·.fresh) =
        (before' ++ t' :: after').map (·.fresh) ++ [] := by simp [hstep.fresh_eq]
    exact .of_map_eq hmap h.hasFreshIds

/-! ### Steps about anything else -/

theorem tasksAbout_progress (hcommand : t'.command = t.command)
    (habout : ¬ b.IsAbout u t.command) :
    b.tasksAbout u (before ++ t' :: after) = b.tasksAbout u (before ++ t :: after) := by
  simp [tasksAbout, hcommand, habout]

/-- A step that the vault of the user does not show is left out. -/
theorem Secludes.left_out (s : Service) (h : Secludes b u ⟨v, before ++ t :: after⟩ a')
    (habout : ¬ b.IsAbout u t.command) (hstep : t.Step mayFail v w t')
    (hshows : w.Shows u a'.vault) : Secludes b u ⟨w, before ++ t' :: after⟩ a' where
  vault := hshows
  tasks := h.tasks.trans (tasksAbout_progress hstep.command_eq habout).symm
  others := h.others_step (.progress before after hstep : Step s mayFail _ _)
  hasFreshIds := h.hasFreshIds

/-- The step of a task about somebody else is left out. -/
theorem Secludes.step_other (h : Secludes b u ⟨v, before ++ t :: after⟩ a')
    (hl : LeadsTo s b u ⟨v, before ++ t :: after⟩) (ha' : initial.Reaches s mayFail a')
    (habout : ¬ b.IsAbout u t.command) (hclean : t.command ≠ .cleanUp)
    (hstep : t.Step mayFail v w t') (hfit : w.store.Fits u) :
    Secludes b u ⟨w, before ++ t' :: after⟩ a' := by
  have ht : t ∈ before ++ t :: after := by simp
  refine h.left_out s habout hstep (hstep.shows_left h.vault hl.isRegular.redeemsOnce.isSound
    (h.journal_eq_none hl.isRegular.isExclusive (Reaches.isExclusive ha') (Reaches.conforms ha')
      habout)
    (fun r next hr => hl.spares ht ((hl.isRegular.conforms t ht).call hr) habout hclean) hfit)

/-- A cleanup that was told its answer is made up for by one that comes at that time. -/
theorem Secludes.made_up (h : Secludes b u ⟨v, before ++ t :: after⟩ a')
    (hf : HasFreshIds ⟨v, before ++ t :: after⟩) (hstep : t.Step mayFail v w t')
    (hclean : t.command = .cleanUp) (hhistory : t.history = []) (htold : t'.history ≠ [])
    (s : Service) {x : Task} (hcommand : x.command = .cleanUp) (hfresh : x.fresh = t.fresh)
    {v' : Vault} (hshows : w.Shows u v') :
    Secludes b u ⟨w, before ++ t' :: after⟩ ⟨v', a'.tasks ++ [x]⟩ := by
  have ht : t ∈ before ++ t :: after := by simp
  have hno {y : Task} (hy : y.command = .cleanUp) : ¬ b.IsAbout u y.command := by
    rw [hy]
    exact id
  refine ⟨hshows, ?_, ?_, hasFreshIds_append_iff.2 ⟨h.hasFreshIds, fun y hy => ?_⟩⟩
  · have hsame := h.tasks.trans (tasksAbout_progress hstep.command_eq (hno hclean)).symm
    simpa [tasksAbout, hno hcommand] using hsame
  · intro y hy
    rcases List.mem_append.1 hy with hy | hy
    · exact h.others_step (.progress before after hstep : Step s mayFail _ _) y hy
    · obtain rfl := List.mem_singleton.1 hy
      exact .inr ⟨hcommand, t', by simp, hstep.command_eq.trans hclean,
        hstep.fresh_eq.trans hfresh.symm, htold⟩
  · obtain ⟨z, hz, hzy, hwho⟩ := h.exists_task hy
    have hne : z ≠ t := by
      rintro rfl
      rcases hwho with ⟨rfl, habout⟩ | ⟨-, hhistory'⟩
      · exact hno hclean habout
      · exact hhistory' hhistory
    rw [← hzy, hfresh]
    exact ⟨fun heq => hne (hf.eq_of_tokenId hz ht heq), fun heq => hne (hf.eq_of_userId hz ht heq)⟩

/-- A cleanup removes the same of the user without others. -/
theorem Secludes.step_cleanUp (h : Secludes b u ⟨v, before ++ t :: after⟩ a')
    (hl : LeadsTo s b u ⟨v, before ++ t :: after⟩) (ha' : initial.Reaches s mayFail a')
    (hclean : t.command = .cleanUp) (hstep : t.Step mayFail v w t') :
    ∃ c', a'.Reaches s mayFail c' ∧ Secludes b u ⟨w, before ++ t' :: after⟩ c' := by
  have ht : t ∈ before ++ t :: after := by simp
  have habout : ¬ b.IsAbout u t.command := by
    rw [hclean]
    exact id
  have hcalls {c : Call} {next : Except Failure c.Answer → Program (Except Failure Outcome)}
      (hr : t.rest = some (.call c next)) :
      t.isInside = false ∧ t.history = [] ∧ c = .ask (.deleteExpired t.fresh.now) := by
    have hcall := (hl.isRegular.conforms t ht).call hr
    rw [hclean] at hcall
    exact hcall.of_cleanUp
  have hleft (hv : w = v) : ∃ c', a'.Reaches s mayFail c' ∧
      Secludes b u ⟨w, before ++ t' :: after⟩ c' := by
    refine ⟨a', .refl, h.left_out s habout hstep ?_⟩
    rw [hv]
    exact h.vault
  have hstep' := hstep
  cases hstep' with
  | log => exact hleft rfl
  | failed f hr hf =>
    obtain ⟨-, -, rfl⟩ := hcalls hr
    exact hleft rfl
  | abandoned hr =>
    obtain ⟨hi, -, -⟩ := hcalls hr
    exact hleft (by rw [hi]; rfl)
  | @answered c next reply hr hreply =>
    obtain ⟨hi, hhistory, rfl⟩ := hcalls hr
    obtain ⟨st, journal⟩ := v
    rw [hi] at hreply
    cases journal with
    | some journal => cases hreply
    | none =>
      cases hreply
      obtain ⟨⟨st', journal'⟩, tasks'⟩ := a'
      obtain ⟨hstore, hsettled, hjournal⟩ := h.vault
      dsimp only at hstore hjournal
      obtain rfl : journal' = none := or_self_iff.1 hjournal
      have hst' : st'.IsConsistent := (Reaches.isSound ha').store
      obtain ⟨history, hgoes⟩ := s.perform_goes_on t.fresh .cleanUp hst'
      have hsame := s.performOn_cleanUp_partOf t.fresh st u
      rw [← hstore] at hsame
      have hshows : Vault.Shows u ⟨(s.performOn t.fresh st .cleanUp).2, none⟩
          ⟨(s.performOn t.fresh st' .cleanUp).2, none⟩ := ⟨hsame, hsame, .inl rfl⟩
      refine ⟨_, Reaches.arrive .refl (Task.runs_start hgoes mayFail), ?_⟩
      refine h.made_up hl.isRegular.hasFreshIds hstep hclean hhistory ?_ s ?_ ?_ hshows
      · simp [Task.told]
      · rfl
      · rfl

/-! ### Whole runs -/

/-- A command about the account arrives without others as well, and no other does. -/
theorem Secludes.arrival (h : Secludes b u ⟨v, tasks⟩ a') (command : Command) (fresh : Fresh)
    (hf : HasFreshIds ⟨v, tasks ++ [.start s command fresh]⟩) (mayFail : Bool) :
    ∃ c', a'.Reaches s mayFail c' ∧
      Secludes b u ⟨v, tasks ++ [.start s command fresh]⟩ c' := by
  have hothers := h.others_step (.arrival v tasks command fresh : Step s mayFail _ _)
  by_cases habout : b.IsAbout u command
  · refine ⟨_, .single (.arrival a'.vault a'.tasks command fresh), h.vault, ?_, ?_, ?_⟩
    · have hsame := h.tasks
      simp only [tasksAbout, List.filter_append] at hsame ⊢
      rw [hsame]
    · intro x hx
      rcases List.mem_append.1 hx with hx | hx
      · exact hothers x hx
      · obtain rfl := List.mem_singleton.1 hx
        exact .inl habout
    · refine hasFreshIds_append_iff.2 ⟨h.hasFreshIds, fun x hx => ?_⟩
      obtain ⟨z, hz, hzx, -⟩ := h.exists_task hx
      rw [← hzx]
      exact ((hasFreshIds_append_iff (v := v)).1 hf).2 z hz
  · refine ⟨a', .refl, h.vault, ?_, hothers, h.hasFreshIds⟩
    have hno : ¬ b.IsAbout u (Task.start s command fresh).command := habout
    simpa [tasksAbout, hno] using h.tasks

/-- Each step of the system is made up for without others. -/
theorem Secludes.step (h : Secludes b u a a') (hl : LeadsTo s b u a) (hstep : Step s mayFail a c)
    (hl' : LeadsTo s b u c) (ha' : initial.Reaches s mayFail a') :
    ∃ c', a'.Reaches s mayFail c' ∧ Secludes b u c c' := by
  cases hstep with
  | arrival v tasks command fresh => exact h.arrival command fresh hl'.isRegular.hasFreshIds mayFail
  | @progress before after v w t t' hstep =>
    by_cases habout : b.IsAbout u t.command
    · exact h.step_about hl ha' habout hstep hl'.fits
    by_cases hclean : t.command = .cleanUp
    · exact h.step_cleanUp hl ha' hclean hstep
    · exact ⟨a', .refl, h.step_other hl ha' habout hclean hstep hl'.fits⟩

theorem secludes_initial (b : System) (u : User) : Secludes b u initial initial where
  vault := ⟨rfl, rfl, .inl rfl⟩
  tasks := rfl
  others := by simp [initial]
  hasFreshIds := ⟨List.nodup_nil, List.nodup_nil⟩

/-- All that others do can be left out of a run, but for the times of their cleanups. -/
theorem Reaches.exists_secluded (h : initial.Reaches s mayFail b) (hf : b.HasFreshIds)
    (hu : b.vault.store.users[u.id]? = some u) :
    ∃ b', initial.Reaches s mayFail b' ∧ Secludes b u b b' := by
  suffices hpast : ∀ a, initial.Reaches s mayFail a → a.Reaches s mayFail b →
      ∃ a', initial.Reaches s mayFail a' ∧ Secludes b u a a' from hpast b h .refl
  intro a ha
  induction ha with
  | refl => exact fun _ => ⟨initial, .refl, secludes_initial b u⟩
  | tail ha hstep ih =>
    intro hab
    obtain ⟨a', ha', hsecludes⟩ := ih (.head hstep hab)
    obtain ⟨c', hc', hsecludes'⟩ := hsecludes.step (Reaches.leadsTo ha (.head hstep hab) hf hu) hstep
      (Reaches.leadsTo (ha.tail hstep) hab hf hu) ha'
    exact ⟨c', ha'.trans hc', hsecludes'⟩

/-- The first user has signed up, and somebody else is about to. -/
theorem exists_signed_up_beside : ∃ v t t',
    initial.Reaches .least false ⟨v, [t, t']⟩ ∧ HasFreshIds ⟨v, [t, t']⟩ ∧
    v.store.users[Service.ada.id]? = some Service.ada ∧
    t.EndsWith (.ok (.account Service.ada)) ∧ (∀ x ∈ [t, t'], x.command ≠ .cleanUp) ∧
    IsAbout ⟨v, [t, t']⟩ Service.ada t.command ∧
    ¬ IsAbout ⟨v, [t, t']⟩ Service.ada t'.command := by
  obtain ⟨t, hsigned, hcommand, hfresh, hend⟩ := exists_signed_up false
  let t' : Task := .start .least (.signUp "bob@b.cc" "correct horse") (.numbered 2)
  have hnumbered : [t, t'].map (·.fresh) = [1, 2].map Fresh.numbered := by
    simp [hfresh, t', Task.start]
  refine ⟨_, t, t', hsigned.tail (.arrival _ [t] _ _),
    hasFreshIds_of_numbered [1, 2] (by decide) hnumbered _, by simp [Store.ofUser], hend, ?_, ?_, ?_⟩
  · simp [hcommand, t', Task.start]
  · rw [hcommand]
    exact Service.takes_ada.email
  · show ¬ Email.ofText "bob@b.cc" = .ok ⟨"ada@b.cc"⟩
    decide

end System

namespace Service

/-- Users do not affect each other. In two consistent stores that have the same of a user, a command
about the user's account has the same answer and leaves the same of the user, and so does a cleanup
but for the count that it tells; a command about anything else leaves what belongs to the user as it
is. So in two runs with the same commands about the user's account and the same cleanups between
them, whatever else is done, the user is given the same answers. And whatever others do at the same
time, the user could be told the same without them: there is a run with the same tasks about the
account, and no others but cleanups. -/
theorem users_isolated (s : Service) {u : User} {st₁ st₂ : Store} (h₁ : st₁.IsConsistent)
    (h₂ : st₂.IsConsistent) (hu : st₁.users[u.id]? = some u)
    (hpart : st₁.partOf u = st₂.partOf u) :
    (∀ c fresh, c.concerns u st₁ ∨ c = .cleanUp → fresh.tokenId ∉ st₁.tokens →
      fresh.tokenId ∉ st₂.tokens → ∃ r₁ r₂ st₁' st₂' events₁ events₂,
        s.runAlone fresh c st₁ = ⟨.finished r₁, ⟨st₁', none⟩, false, events₁⟩ ∧
        s.runAlone fresh c st₂ = ⟨.finished r₂, ⟨st₂', none⟩, false, events₂⟩ ∧
        (c ≠ .cleanUp → r₁ = r₂) ∧ st₁'.partOf u = st₂'.partOf u) ∧
    (∀ c fresh, ¬ c.concerns u st₁ → c ≠ .cleanUp → ∃ r st' events,
      s.runAlone fresh c st₁ = ⟨.finished r, ⟨st', none⟩, false, events⟩ ∧
      st'.partOf u = st₁.partOf u) ∧
    (∀ commands₁ commands₂, s.GivesUnused st₁ commands₁ → s.GivesUnused st₂ commands₂ →
      s.shareOf u st₁ commands₁ = s.shareOf u st₂ commands₂ →
      s.answersTo u st₁ commands₁ = s.answersTo u st₂ commands₂ ∧
        (s.storeAfter st₁ commands₁).partOf u = (s.storeAfter st₂ commands₂).partOf u) ∧
    ∀ mayFail b, System.initial.Reaches s mayFail b → b.HasFreshIds →
      b.vault.store.users[u.id]? = some u →
      ∃ b', System.initial.Reaches s mayFail b' ∧ b.Secludes u b b' :=
  ⟨fun _ _ hc hnew₁ hnew₂ => s.runAlone_alike h₁ h₂ hu hpart hc hnew₁ hnew₂,
    fun _ fresh hc hclean => s.runAlone_apart h₁ hu hc hclean fresh,
    fun _ _ hnew₁ hnew₂ hshare => s.answersTo_alike h₁ h₂ hu hpart hnew₁ hnew₂ hshare,
    fun _ _ hb hf hub => hb.exists_secluded hf hub⟩

/-- A user is alone in one store and beside another one in the other, who logs out there: the user's
login is answered alike. And a user who signs up while somebody else does is told the same without
them. -/
theorem users_isolated_beside : ∃ (u w : User) (st₁ st₂ : Store) (other own : Command)
    (first second : Fresh), st₁.IsConsistent ∧ st₂.IsConsistent ∧ st₁.users[u.id]? = some u ∧
    st₁.users[w.id]? = none ∧ st₂.users[w.id]? = some w ∧ st₁.partOf u = st₂.partOf u ∧
    least.shareOf u st₂ [(other, first), (own, second)] = [(own, second)] ∧
    least.answersTo u st₁ [(own, second)] =
      least.answersTo u st₂ [(other, first), (own, second)] ∧
    ∃ v t t' b', System.initial.Reaches .least false ⟨v, [t, t']⟩ ∧
      t.EndsWith (.ok (.account u)) ∧ System.initial.Reaches .least false b' ∧ b'.tasks = [t] := by
  obtain ⟨st, other, own, first, second, hst, hbob, hpart, hnew₁, hnew₂, hshare₁, hshare₂⟩ :=
    exists_logout_beside
  have hada : (Store.ofUser ada).users[ada.id]? = some ada := by simp [Store.ofUser]
  have hnone : (Store.ofUser ada).users[bob.id]? = none := by
    have hid : ada.id ≠ bob.id := by decide
    simp [Store.ofUser, Store.empty, hid]
  obtain ⟨-, -, hruns, hamong⟩ :=
    least.users_isolated (Store.isConsistent_ofUser ada) hst hada hpart
  obtain ⟨hanswers, -⟩ := hruns _ _ hnew₁ hnew₂ (hshare₁.trans hshare₂.symm)
  obtain ⟨v, t, t', hb, hf, hadded, hend, hno, habout, hstranger⟩ := System.exists_signed_up_beside
  obtain ⟨b', hb', hsecludes⟩ := hamong false _ hb hf hadded
  have htasks : b'.tasks = [t] := by
    rw [hsecludes.tasks_eq hno]
    simp [System.tasksAbout, habout, hstranger]
  exact ⟨ada, bob, .ofUser ada, st, other, own, first, second, Store.isConsistent_ofUser ada, hst,
    hada, hnone, hbob, hpart, hshare₂, hanswers, v, t, t', b', hb, hend, hb', htasks⟩

end Service

end SessionAuth
