import SessionAuth.Proofs.Service.Permanence

/-!
# Sign-ups that race

A sign-up looks for its address first and creates the user later, so that any number of them may
find the address free. The creation looks again. Whatever is interleaved, and from whatever users
there are at the start, at most one sign-up for an address ever succeeds; one does if any creates a
user for an address that was free, and then all others that try are told that it is taken
(`System.addresses_registered_once`). A sign-up that does not succeed changes nothing.
-/

namespace SessionAuth

/-! ### Sign-ups -/

/-- The task is a sign-up for the address, in whatever spelling. -/
def Task.SignsUpFor (t : Task) (e : Email) : Prop :=
  ∃ text password, t.command = .signUp text password ∧ Email.ofText text = .ok e

/-- The task has tried to create a user, and was told what came of it. -/
def Task.HasTried (t : Task) : Prop := ∃ u x, ⟨.ask (.createUser u), x⟩ ∈ t.history

theorem Task.hasTried_told (t : Task) (u : User)
    (next : Except Failure Unit → Program (Except Failure Outcome)) (x : Except Failure Unit) :
    (t.told (.ask (.createUser u)) next x).HasTried :=
  ⟨u, x, List.mem_append_right _ (List.mem_singleton_self _)⟩

theorem Task.SignsUpFor.unique {t : Task} {e e' : Email} (h : t.SignsUpFor e)
    (h' : t.SignsUpFor e') : e = e' := by
  obtain ⟨text, password, hc, he⟩ := h
  obtain ⟨text', password', hc', he'⟩ := h'
  rw [hc] at hc'
  cases hc'
  rw [he] at he'
  exact Except.ok.inj he'

namespace Service

variable {s : Service} {fresh : Fresh} {command : Command} {text password : String} {i : Bool}
  {history : List Exchange} {u : User} {r : Except Failure Outcome}

/-- Only a sign-up creates a user, with the address that its client gave. -/
theorem Calls.signUp_of_createUser
    (h : s.Calls fresh command i history (.ask (.createUser u))) :
    ∃ text password, command = .signUp text password ∧ Email.ofText text = .ok u.email := by
  cases h with
  | createUser he hp => exact ⟨_, _, rfl, he⟩
  | within _ h => cases h

/-- A sign-up looks for its address and creates a user, outside of transactions. -/
theorem Calls.of_signUp {c : Call} (h : s.Calls fresh (.signUp text password) i history c) :
    i = false ∧ ((∃ e, c = .ask (.findUserByEmail e)) ∨ ∃ u, c = .ask (.createUser u)) := by
  cases h with
  | findEmail => exact ⟨rfl, .inl ⟨_, rfl⟩⟩
  | createUser => exact ⟨rfl, .inr ⟨_, rfl⟩⟩

/-- A sign-up makes no call after it has tried to create a user. -/
theorem Calls.createUser_not_mem {c : Call} (h : s.Calls fresh (.signUp text password) i history c)
    (x : Except Failure Unit) : ⟨.ask (.createUser u), x⟩ ∉ history := by
  cases h <;> simp

/-- A sign-up that succeeds has created a user. -/
theorem Ends.of_signUp_ok {o : Outcome} (h : s.Ends fresh (.signUp text password) history (.ok o)) :
    ∃ u, ⟨.ask (.createUser u), .ok ()⟩ ∈ history := by
  cases h with
  | signedUp => exact ⟨_, List.mem_append_right _ (List.mem_singleton_self _)⟩

/-- What a sign-up was told of the creation of the user is what it ends with. -/
theorem Ends.of_createUser {x : Except Failure Unit}
    (h : s.Ends fresh (.signUp text password) history r)
    (hh : ⟨.ask (.createUser u), x⟩ ∈ history) : r = x.map fun _ => .account u := by
  cases h with
  | failed h | signedUp h =>
    rcases List.mem_append.1 hh with hh | hh
    · exact absurd hh (h.createUser_not_mem x)
    · cases List.mem_singleton.1 hh
      rfl
  | invalidEmail | taken | invalidPassword => simp at hh

end Service

namespace Vault

variable {v w : Vault}

/-- A search from outside leaves the vault as it is. -/
theorem Turn.eq_of_findUserByEmail {e : Email} {x : Except Failure (Option User)}
    (h : Turn v false (.ask (.findUserByEmail e)) x w) : w = v := by
  generalize hi : false = i at h
  cases h with
  | outside => rfl
  | inside => cases hi
  | failed => rfl

/-- The creation of a user from outside that is refused leaves the vault as it is. -/
theorem Turn.eq_or_ok_of_createUser {u : User} {x : Except Failure Unit}
    (h : Turn v false (.ask (.createUser u)) x w) : w = v ∨ x = .ok () := by
  generalize hi : false = i at h
  cases h with
  | outside st =>
    cases hadd : st.addUser u with
    | error e =>
      rw [Service.answer_createUser_error hadd]
      exact .inl rfl
    | ok st' =>
      rw [Service.answer_createUser hadd]
      exact .inr rfl
  | inside => cases hi
  | failed => exact .inl rfl

end Vault

namespace Task

variable {s : Service} {t t' : Task} {mayFail : Bool} {v v' : Vault} {u : User}

/-- Whoever was told of the creation of a user is a sign-up for the user's address, under the task's
own identifier. -/
theorem Conforms.of_createUser (h : t.Conforms s) {x : Except Failure Unit}
    (hh : ⟨.ask (.createUser u), x⟩ ∈ t.history) :
    t.SignsUpFor u.email ∧ u.id = t.fresh.userId := by
  obtain ⟨before, later, heq⟩ := List.append_of_mem hh
  obtain ⟨i, hc⟩ := h.history before _ later heq
  exact ⟨hc.signUp_of_createUser, hc.of_createUser.1⟩

/-- A sign-up that was told of the creation of the user has returned it. -/
theorem Conforms.returns_of_createUser (h : t.Conforms s) (hr : t.rest.isSome)
    {x : Except Failure Unit} (hh : ⟨.ask (.createUser u), x⟩ ∈ t.history) :
    t.Returns (x.map fun _ => .account u) := by
  obtain ⟨⟨text, password, hc, -⟩, -⟩ := h.of_createUser hh
  obtain ⟨r, hreturns⟩ := h.exists_returns hr fun c hcall => by
    rw [hc] at hcall
    exact hcall.createUser_not_mem x hh
  have hends := h.of_returns hreturns
  rw [hc] at hends
  rwa [hends.of_createUser hh] at hreturns

/-- A sign-up can no longer be given up when it was told of the creation of the user. -/
theorem Step.returns_of_createUser (h : t.Step mayFail v v' t') (ht : t.Conforms s)
    (hold : ∀ u x, ⟨.ask (.createUser u), x⟩ ∈ t.history → t.Returns (x.map fun _ => .account u)) :
    ∀ u x, ⟨.ask (.createUser u), x⟩ ∈ t'.history → t'.Returns (x.map fun _ => .account u) := by
  intro u x hh
  have ht' := h.conforms ht
  have hbefore := h.before
  cases h with
  | log | abandoned => exact hbefore.returns _ (hold u x hh)
  | answered | failed => exact ht'.returns_of_createUser rfl hh

/-- A step of a sign-up changes the vault only by creating the user, and then the sign-up has
succeeded. -/
theorem Step.eq_or_returns (h : t.Step mayFail v v' t') (ht : t.Conforms s) {text password : String}
    (hc : t.command = .signUp text password) : v' = v ∨ ∃ u, t'.Returns (.ok (.account u)) := by
  have ht' := h.conforms ht
  cases h.move ht with
  | logged => exact .inl rfl
  | abandoned hcall =>
    rw [hc] at hcall
    rw [hcall.of_signUp.1]
    exact .inl rfl
  | told next hr hcall hturn =>
    rw [hc] at hcall
    obtain ⟨hi, ⟨e, rfl⟩ | ⟨u, rfl⟩⟩ := hcall.of_signUp
    · rw [hi] at hturn
      exact .inl hturn.eq_of_findUserByEmail
    · rw [hi] at hturn
      refine hturn.eq_or_ok_of_createUser.imp_right fun hok => ⟨u, ?_⟩
      subst hok
      have hh : ⟨.ask (.createUser u), .ok ()⟩ ∈ (t.told _ next (.ok ())).history := by simp [told]
      exact ht'.returns_of_createUser rfl hh

end Task

/-! ### All sign-ups together -/

namespace Store

variable {st : Store} {u : User}

theorem addUser_eq_error {f : Failure} (h : st.addUser u = .error f) :
    f = .emailTaken ∧ (u.email ∈ st.emails ∨ u.id ∈ st.users) := by
  simp only [addUser, Bool.or_eq_true, Std.ExtTreeMap.contains_iff_mem] at h
  split_ifs at h with hin
  cases h
  exact ⟨rfl, hin⟩

/-- The address of a user who is created was free. -/
theorem emails_of_createUser (h : (st.answer (.createUser u)).answer = .ok ()) :
    st.emails[u.email]? = none := by
  simp only [answer, add] at h
  split at h
  · rename_i st' hadd
    exact (addUser_eq_ok_iff.1 hadd).1
  · cases h

/-- The creation of a user is refused because the address or the identifier is in use. -/
theorem of_createUser_error {f : Failure} (h : (st.answer (.createUser u)).answer = .error f) :
    f = .emailTaken ∧ (u.email ∈ st.emails ∨ u.id ∈ st.users) := by
  simp only [answer, add] at h
  split at h
  · cases h
  · rename_i e hadd
    cases h
    exact addUser_eq_error hadd

theorem IsConsistent.mem_emails_iff (h : st.IsConsistent) {e : Email} :
    e ∈ st.emails ↔ ∃ u : User, st.users[u.id]? = some u ∧ u.email = e := by
  rw [Std.ExtTreeMap.mem_iff_isSome_getElem?, Option.isSome_iff_exists]
  constructor
  · rintro ⟨id, hid⟩
    obtain ⟨u, hu, rfl, he⟩ := (h.email_iff e id).1 hid
    exact ⟨u, hu, he⟩
  · rintro ⟨u, hu, rfl⟩
    exact ⟨u.id, h.emails_of_user hu⟩

end Store

/-- Two creations of users with one address. -/
def Exchange.IsSameAddress (e f : Exchange) : Prop :=
  ∃ u w : User, e = ⟨.ask (.createUser u), .ok ()⟩ ∧ f = ⟨.ask (.createUser w), .ok ()⟩ ∧
    u.email = w.email

namespace System

variable {s : Service} {mayFail : Bool} {a b : System} {st : Store} {t : Task} {u : User}

/-- What is known of a system that began with the users of a store: who was created since is there,
nobody else is, sign-ups end as they were told, and no address was given to two of them. -/
structure Registers (s : Service) (st : Store) (a : System) : Prop where
  conforms : a.Conforms s
  isSound : a.vault.IsSound
  users_eq : a.vault.store.users = a.vault.settled.users
  kept : ∀ u, a.Knows ⟨.ask (.createUser u), .ok ()⟩ → a.vault.store.users[u.id]? = some u
  origin : ∀ (id : UserId) (u : User), a.vault.store.users[id]? = some u →
    st.users[id]? = some u ∨ a.Knows ⟨.ask (.createUser u), .ok ()⟩
  returns : ∀ t ∈ a.tasks, ∀ u x, ⟨.ask (.createUser u), x⟩ ∈ t.history →
    t.Returns (x.map fun _ => .account u)
  apart : a.TellsApart Exchange.IsSameAddress

theorem registers_start (hst : st.IsConsistent) : Registers s st ⟨⟨st, none⟩, []⟩ where
  conforms _ h := by cases h
  isSound := Vault.isSound_closed hst
  users_eq := rfl
  kept _ h := by simp [Knows] at h
  origin _ _ h := .inl h
  returns _ h := by cases h
  apart := .nil

/-- A user who is created has an address that was given to nobody before. -/
theorem Registers.email_ne (ha : a.Registers s st) {i : Bool} {v : Vault}
    (h : a.vault.Turn i (.ask (.createUser u)) (.ok ()) v) {w : User}
    (hw : a.Knows ⟨.ask (.createUser w), .ok ()⟩) : u.email ≠ w.email := by
  intro heq
  have hfree := Store.emails_of_createUser (h.answer_eq rfl)
  rw [heq, ha.isSound.store.emails_of_user (ha.kept w hw)] at hfree
  cases hfree

theorem Registers.step (ha : a.Registers s st) (h : Step s mayFail a b) : b.Registers s st where
  conforms := h.conforms ha.conforms
  isSound := h.isSound ha.conforms ha.isSound
  users_eq := h.users_eq ha.conforms ha.isSound ha.users_eq
  kept u hb := by
    rcases h.account_stored ha.conforms hb with hold | hnew
    · exact h.user? ha.conforms ha.users_eq (ha.kept u hold)
    · exact hnew
  origin id u hu := by
    rcases h.user_created ha.conforms ha.users_eq hu with hold | hnew
    · exact (ha.origin id u hold).imp_right (h.knows ha.conforms)
    · exact .inr hnew
  returns u hu := by
    cases h with
    | arrival v tasks command fresh =>
      rcases List.mem_append.1 hu with hu | hu
      · exact ha.returns u hu
      · rw [List.mem_singleton.1 hu]
        exact fun _ _ hh => by cases hh
    | @progress before after v v' t t' h =>
      simp only [List.mem_append, List.mem_cons] at hu
      rcases hu with hu | rfl | hu
      · exact ha.returns u (by simp [hu])
      · exact h.returns_of_createUser (ha.conforms t (by simp)) (ha.returns t (by simp))
      · exact ha.returns u (by simp [hu])
  apart := by
    refine ha.apart.step h ha.conforms fun t _ c x _ hturn e hk => ⟨?_, ?_⟩
    · rintro ⟨u, w, hu, rfl, heq⟩
      cases hu
      exact ha.email_ne hturn hk heq
    · rintro ⟨w, u, rfl, hu, heq⟩
      cases hu
      exact ha.email_ne hturn hk heq.symm

theorem Reaches.registers (h : Reaches s mayFail ⟨⟨st, none⟩, []⟩ a) (hst : st.IsConsistent) :
    a.Registers s st := by
  induction h with
  | refl => exact registers_start hst
  | tail _ h ih => exact ih.step h

/-- A sign-up that succeeds has created a user with its address. -/
theorem Registers.exists_created (ha : a.Registers s st) (ht : t ∈ a.tasks) {e : Email}
    (he : t.SignsUpFor e) {o : Outcome} (hr : t.Returns (.ok o)) :
    ∃ u, ⟨.ask (.createUser u), .ok ()⟩ ∈ t.history ∧ u.email = e := by
  have hconf := ha.conforms t ht
  have hends := hconf.of_returns hr
  obtain ⟨text, password, hc, -⟩ := id he
  rw [hc] at hends
  obtain ⟨u, hu⟩ := hends.of_signUp_ok
  exact ⟨u, hu, (hconf.of_createUser hu).1.unique he⟩

/-! ### Sign-ups that are refused -/

/-- No task was given the identifier of another task or of a user of the store for a new user. -/
structure HasFreshUsers (st : Store) (a : System) : Prop where
  nodup : (a.tasks.map (·.fresh.userId)).Nodup
  unused : ∀ t ∈ a.tasks, t.fresh.userId ∉ st.users

theorem HasFreshUsers.of_step (hb : b.HasFreshUsers st) (h : Step s mayFail a b) :
    a.HasFreshUsers st := by
  obtain ⟨new, hnew⟩ := h.fresh_eq
  have husers := congrArg (List.map (·.userId)) hnew
  simp only [List.map_append, List.map_map, Function.comp_def] at husers
  refine ⟨?_, fun t ht => ?_⟩
  · have hnodup := hb.nodup
    rw [husers] at hnodup
    exact hnodup.of_append_left
  · obtain ⟨u, hu, -, hfresh, -⟩ := h.exists_task ht
    rw [← hfresh]
    exact hb.unused u hu

/-- Nobody has the identifier of a user who is about to be created. -/
theorem Registers.not_mem_users (ha : a.Registers s st) (hf : a.HasFreshUsers st) (ht : t ∈ a.tasks)
    (hc : s.Calls t.fresh t.command t.isInside t.history (.ask (.createUser u))) :
    u.id ∉ a.vault.store.users := by
  intro hmem
  obtain ⟨w, hw⟩ := mem_users_iff.1 hmem
  have hid := ha.isSound.store.user_id _ w hw
  rcases ha.origin _ w hw with hold | ⟨t', ht', hh⟩
  · refine hf.unused t ht ?_
    rw [← hc.of_createUser.1]
    exact mem_users_iff.2 ⟨w, hold⟩
  · have hid' := ((ha.conforms t' ht').of_createUser hh).2
    have heq : t' = t := List.inj_on_of_nodup_map hf.nodup ht' ht
      (by rw [← hid', hid, hc.of_createUser.1])
    rw [heq] at hh
    exact hc.of_createUser.2 _ _ hh

/-- Whoever is refused is told that the address is taken, and it is. -/
def RefusesTaken (a : System) : Prop :=
  ∀ u f, a.Knows ⟨.ask (.createUser u), .error f⟩ →
    f = .emailTaken ∧ u.email ∈ a.vault.store.emails

/-- An address that has a user keeps it. -/
theorem Registers.mem_emails_of_step (ha : a.Registers s st) (h : Step s mayFail a b) {e : Email}
    (he : e ∈ a.vault.store.emails) : e ∈ b.vault.store.emails := by
  rw [ha.isSound.store.mem_emails_iff] at he
  rw [(ha.step h).isSound.store.mem_emails_iff]
  obtain ⟨u, hu, rfl⟩ := he
  exact ⟨u, h.user? ha.conforms ha.users_eq hu, rfl⟩

theorem RefusesTaken.step (hr : a.RefusesTaken) (h : Step s false a b) (ha : a.Registers s st)
    (hf : a.HasFreshUsers st) : b.RefusesTaken := by
  intro u f hb
  rcases h.knows_or_answered ha.conforms hb with hold | ⟨t, ht, c, reply, hc, hreply, he⟩
  · exact (hr u f hold).imp_right (ha.mem_emails_of_step h)
  · obtain ⟨rfl, hanswer⟩ := Exchange.mk.inj he
    obtain ⟨rfl, hin⟩ := Store.of_createUser_error
      ((Vault.answer_of_reply hreply).symm.trans (eq_of_heq hanswer).symm)
    exact ⟨rfl, ha.mem_emails_of_step h (hin.resolve_right (ha.not_mem_users hf ht hc))⟩

theorem Reaches.refusesTaken (h : Reaches s false ⟨⟨st, none⟩, []⟩ a) (hst : st.IsConsistent)
    (hf : a.HasFreshUsers st) : a.RefusesTaken := by
  induction h with
  | refl => exact fun _ _ h => by simp [Knows] at h
  | tail hr h ih =>
    have hf' := hf.of_step h
    exact (ih hf').step h (Reaches.registers hr hst) hf'

/-- If a sign-up has tried to create a user for an address that was free at the start, the address
has a user, whom one of the sign-ups has created. -/
theorem Registers.exists_account (ha : a.Registers s st) (hst : st.IsConsistent)
    (hr : a.RefusesTaken) (ht : t ∈ a.tasks) (hfree : u.email ∉ st.emails)
    {x : Except Failure Unit} (hh : ⟨.ask (.createUser u), x⟩ ∈ t.history) :
    ∃ w, w.email = u.email ∧ a.Knows ⟨.ask (.createUser w), .ok ()⟩ := by
  have hemail : u.email ∈ a.vault.store.emails := by
    cases x with
    | error f => exact (hr u f ⟨t, ht, hh⟩).2
    | ok _ => exact ha.isSound.store.mem_emails_iff.2 ⟨u, ha.kept u ⟨t, ht, hh⟩, rfl⟩
  obtain ⟨w, hw, heq⟩ := ha.isSound.store.mem_emails_iff.1 hemail
  refine ⟨w, heq, (ha.origin _ w hw).resolve_left fun hold => hfree ?_⟩
  exact hst.mem_emails_iff.2 ⟨w, hold, heq⟩

/-- An address is registered once. Among any number of sign-ups and of other operations, from
whatever users there are at the start, at most one sign-up for an address ever succeeds, however
each of them spells it. If the vault answers all calls and nobody has the new identifiers, one
does as soon as one has tried to create a user for an address that was free at the start, and all
others that have tried fail because the address is taken. A step of a sign-up that fails or is
given up, then or later, leaves the vault as it is. -/
theorem addresses_registered_once (hst : st.IsConsistent)
    (h : Reaches s mayFail ⟨⟨st, none⟩, []⟩ b) :
    (∀ (e : Email) (m n : Nat) (t u : Task) (x y : Outcome), b.tasks[m]? = some t →
      b.tasks[n]? = some u → t.SignsUpFor e → u.SignsUpFor e → t.Returns (.ok x) →
      u.Returns (.ok y) → m = n) ∧
    (mayFail = false → b.HasFreshUsers st → ∀ e : Email, e ∉ st.emails →
      (∃ t ∈ b.tasks, t.SignsUpFor e ∧ t.HasTried) →
      ∃ (n : Nat) (t : Task) (u : User), b.tasks[n]? = some t ∧ t.SignsUpFor e ∧ u.email = e ∧
        t.Returns (.ok (.account u)) ∧
        ∀ (m : Nat) (w : Task), b.tasks[m]? = some w → m ≠ n → w.SignsUpFor e → w.HasTried →
          w.Returns (.error .emailTaken)) ∧
    ∀ (v v' : Vault) (before after : List Task) (t t' : Task) (text password : String),
      b = ⟨v, before ++ t :: after⟩ → t.command = .signUp text password →
      t.Step mayFail v v' t' → ∀ (c : System) (w : Task),
      Reaches s mayFail ⟨v', before ++ t' :: after⟩ c → c.tasks[before.length]? = some w →
      (∃ f, w.Returns (.error f)) ∨ w.rest = none → v' = v := by
  have hb := Reaches.registers h hst
  refine ⟨?_, ?_, ?_⟩
  · intro e m n t u x y ht hu hte hue hx hy
    obtain ⟨x', hx'⟩ := hb.exists_created (List.mem_of_getElem? ht) hte hx
    obtain ⟨y', hy'⟩ := hb.exists_created (List.mem_of_getElem? hu) hue hy
    have heq : x'.email = y'.email := hx'.2.trans hy'.2.symm
    exact hb.apart.position_eq ht hu hx'.1 hy'.1 ⟨x', y', rfl, rfl, heq⟩
      ⟨y', x', rfl, rfl, heq.symm⟩
  · rintro rfl hf e hfree ⟨t, ht, hte, htried⟩
    have hrefuses := Reaches.refusesTaken h hst hf
    obtain ⟨u, x, hh⟩ := htried
    obtain rfl := ((hb.conforms t ht).of_createUser hh).1.unique hte
    obtain ⟨w, hw, t', ht', hcreated⟩ := hb.exists_account hst hrefuses ht hfree hh
    obtain ⟨n, hn⟩ := List.mem_iff_getElem?.1 ht'
    refine ⟨n, t', w, hn, hw ▸ ((hb.conforms t' ht').of_createUser hcreated).1, hw,
      hb.returns t' ht' w _ hcreated, fun m t'' hm hne hfor htried => ?_⟩
    obtain ⟨y, z, hh'⟩ := htried
    have hmem := List.mem_of_getElem? hm
    have hsame := ((hb.conforms t'' hmem).of_createUser hh').1.unique hfor
    have heq : y.email = w.email := hsame.trans hw.symm
    cases z with
    | ok _ =>
      exact absurd (hb.apart.position_eq hm hn hh' hcreated ⟨y, w, rfl, rfl, heq⟩
        ⟨w, y, rfl, rfl, heq.symm⟩) hne
    | error f =>
      obtain ⟨rfl, -⟩ := hrefuses y f ⟨t'', hmem, hh'⟩
      exact hb.returns t'' hmem y _ hh'
  · rintro v v' before after t t' text password rfl hc hstep c w hreaches hw hend
    rcases hstep.eq_or_returns (hb.conforms t (by simp)) hc with heq | ⟨u, hu⟩
    · exact heq
    · obtain ⟨w', hw', hbefore⟩ := Reaches.before (n := before.length) (t := t') hreaches (by simp)
      obtain rfl := Option.some.inj (hw.symm.trans hw')
      have hok := hbefore.returns _ hu
      rcases hend with ⟨f, hf⟩ | hnone
      · cases hf.unique hok
      · obtain ⟨p, hp, -⟩ := hok
        rw [hnone] at hp
        cases hp

end System

/-! ### Two that find the address free -/

/-- A sign-up looks for its address, and creates the user when it is told of none. -/
theorem Service.perform_signUp (s : Service) (fresh : Fresh) {text password : String}
    {email : Email} {p : Password} (he : Email.ofText text = .ok email)
    (hp : Password.ofText password = .ok p) : ∃ next later,
      (s.perform fresh (.signUp text password)).run = .call (.ask (.findUserByEmail email)) next ∧
      next (.ok none) = .call (.ask (.createUser (s.newUser fresh email p))) later := by
  unfold perform signUp
  dsimp only
  rw [he, hp]
  exact ⟨_, _, rfl, rfl⟩

/-- A sign-up that has found its address free is about to create the user. -/
theorem Service.exists_runs_signUp (s : Service) (fresh : Fresh) {text password : String}
    {email : Email} {p : Password} {st : Store} (he : Email.ofText text = .ok email)
    (hp : Password.ofText password = .ok p) (hnone : st.userByEmail? email = none)
    (mayFail : Bool) :
    ∃ (t : Task) (later : Except Failure (Call.ask (.createUser (s.newUser fresh email p))).Answer →
        Program (Except Failure Outcome)),
      Task.Runs mayFail (⟨st, none⟩, .start s (.signUp text password) fresh) (⟨st, none⟩, t) ∧
      t.command = .signUp text password ∧ t.fresh = fresh ∧
      t.history = [⟨.ask (.findUserByEmail email), .ok none⟩] ∧
      t.rest = some (.call (.ask (.createUser (s.newUser fresh email p))) later) := by
  obtain ⟨next, later, hstart, hfree⟩ := s.perform_signUp fresh he hp
  have hfind : st.answer (.findUserByEmail email) = ⟨.ok none, st, []⟩ := by
    rw [answer_findUserByEmail, hnone]
  have hstep := Task.Step.ask (t := .start s (.signUp text password) fresh)
    (congrArg some hstart) hfind mayFail
  exact ⟨_, later, .single hstep, rfl, rfl, rfl, congrArg some hfree⟩

namespace System

/-- Two sign-ups that spell one address in two ways have both found it free before either of them
creates a user. -/
theorem addresses_registered_once_raced : ∃ (e : Email) (b : System),
    Reaches .least false ⟨⟨.empty, none⟩, []⟩ b ∧ b.HasFreshUsers .empty ∧ b.tasks.length = 2 ∧
    (∀ t ∈ b.tasks, t.SignsUpFor e ∧ t.HasTried ∧
      ⟨.ask (.findUserByEmail e), .ok none⟩ ∈ t.history) ∧
    ∃ (n : Nat) (t : Task) (u : User), b.tasks[n]? = some t ∧ t.Returns (.ok (.account u)) ∧
      ∀ (m : Nat) (w : Task), b.tasks[m]? = some w → m ≠ n → w.Returns (.error .emailTaken) := by
  have hspelling : Email.normalize " ADA@B.cc " = Email.normalize "ada@b.cc" := by decide +kernel
  have hemail := (Email.ofText_congr hspelling).trans Service.takes_ada.email
  have hnone := Store.userByEmail?_empty ⟨"ada@b.cc"⟩
  obtain ⟨t₁, later₁, hruns₁, hc₁, hf₁, hh₁, hr₁⟩ := Service.least.exists_runs_signUp (.numbered 1)
    Service.takes_ada.email Service.takes_ada.password hnone false
  obtain ⟨t₂, later₂, hruns₂, hc₂, hf₂, hh₂, hr₂⟩ := Service.least.exists_runs_signUp (.numbered 2)
    hemail Service.takes_ada.password hnone false
  have hstart : Reaches .least false ⟨⟨.empty, none⟩, []⟩ ⟨⟨.empty, none⟩, []⟩ := .refl
  -- both create the user now
  have htaken : (Store.ofUser Service.ada).addUser
      (Service.least.newUser (.numbered 2) ⟨"ada@b.cc"⟩ ⟨"correct horse"⟩) =
        .error .emailTaken := by
    simp [Store.addUser, Store.ofUser, Service.ada, Service.newUser]
  have hfirst := Task.Step.ask hr₁
    (Service.answer_createUser (Store.addUser_empty Service.ada)) false
  have hsecond := Task.Step.ask hr₂ (Service.answer_createUser_error htaken) false
  have hreaches := (((hstart.arrive hruns₁).arrive hruns₂).tail
    (.progress [] [t₂] hfirst)).tail (.progress [_] [] hsecond)
  have htried : ∀ t ∈ [t₁.told _ later₁ (.ok ()), t₂.told _ later₂ (.error .emailTaken)],
      t.SignsUpFor ⟨"ada@b.cc"⟩ ∧ t.HasTried ∧
        ⟨.ask (.findUserByEmail ⟨"ada@b.cc"⟩), .ok none⟩ ∈ t.history := by
    intro t ht
    simp only [List.mem_cons, List.not_mem_nil, or_false] at ht
    rcases ht with rfl | rfl
    · exact ⟨⟨_, _, hc₁, Service.takes_ada.email⟩, t₁.hasTried_told _ _ _, by simp [Task.told, hh₁]⟩
    · exact ⟨⟨_, _, hc₂, hemail⟩, t₂.hasTried_told _ _ _, by simp [Task.told, hh₂]⟩
  have hfresh : HasFreshUsers .empty ⟨⟨.ofUser Service.ada, none⟩,
      [t₁.told _ later₁ (.ok ()), t₂.told _ later₂ (.error .emailTaken)]⟩ := by
    refine ⟨?_, fun _ _ => by simp [Store.empty]⟩
    simp only [List.map, Task.told, hf₁, hf₂]
    decide
  obtain ⟨-, hone, -⟩ := addresses_registered_once Store.isConsistent_empty hreaches
  obtain ⟨n, t, u, hn, -, -, hu, hothers⟩ := hone rfl hfresh ⟨"ada@b.cc"⟩ (by simp [Store.empty])
    ⟨_, .head _, (htried _ (.head _)).1, (htried _ (.head _)).2.1⟩
  refine ⟨_, _, hreaches, hfresh, rfl, htried, n, t, u, hn, hu, fun m w hw hne => ?_⟩
  have hmem := List.mem_of_getElem? hw
  exact hothers m w hw hne (htried w hmem).1 (htried w hmem).2.1

end System

end SessionAuth
