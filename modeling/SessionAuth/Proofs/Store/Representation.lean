import Mathlib.Data.List.Induction
import Mathlib.Logic.ExistsUnique
import SessionAuth.Proofs.Store.Transaction

/-!
# The representation of the store

The three maps of a store belong together in every state that calls can lead to, within transactions
and outside of them, and however transactions end (`Vault.Reachable.represents`). A change is taken
back entry by entry: a token comes back without a look at its owner, and a user goes with all
tokens. So the invariant (`Store.IsRecoverable`) speaks of all stores on the way back along the
journal, and each request extends that way at its end.
-/

namespace SessionAuth

namespace Store

variable {s : Store} {journal changes : List Undo}

/-- Every store on the way back along a journal is consistent. -/
def IsRecoverable (s : Store) (journal : List Undo) : Prop :=
  ∀ kept undone, journal = kept ++ undone → (s.takeBack undone).IsConsistent

theorem IsRecoverable.isConsistent (h : s.IsRecoverable journal) : s.IsConsistent :=
  h journal [] (List.append_nil journal).symm

theorem IsRecoverable.isConsistent_takeBack (h : s.IsRecoverable journal) :
    (s.takeBack journal).IsConsistent := h [] journal rfl

theorem isRecoverable_nil (h : s.IsConsistent) : s.IsRecoverable [] := by
  intro kept undone heq
  rw [(List.append_eq_nil_iff.1 heq.symm).2]
  exact h

/-- The way back leads through the changes first, and then on along the earlier journal. -/
theorem IsRecoverable.append (h : s.IsRecoverable changes)
    (hback : (s.takeBack changes).IsRecoverable journal) :
    s.IsRecoverable (journal ++ changes) := by
  intro kept undone heq
  rcases List.append_eq_append_iff.1 heq with ⟨middle, -, hchanges⟩ | ⟨middle, hjournal, hundone⟩
  · exact h middle undone hchanges
  · rw [hundone, takeBack_append]
    exact hback kept middle hjournal

/-! ### The changes of one request -/

/-- Tokens may come back as long as their owners are there. -/
theorem isConsistent_restore (h : s.IsConsistent) (ts : List RefreshToken)
    (hts : ∀ t ∈ ts, t.owner ∈ s.users) :
    (s.takeBack (ts.map .restoreToken)).IsConsistent := by
  induction ts using List.reverseRecOn generalizing s with
  | nil => exact h
  | append_singleton ts t ih =>
    rw [List.map_append, takeBack_append]
    have howner : t.owner ∈ s.users := hts t (by simp)
    exact ih (h.putToken howner) fun t' ht' => hts t' (List.mem_append_left _ ht')

theorem isRecoverable_delete (h : s.IsConsistent) (condition : RefreshToken → Bool) :
    (s.delete condition).store.IsRecoverable (s.delete condition).journal := by
  intro kept undone heq
  obtain ⟨before, ts, hsplit, -, rfl⟩ := List.map_eq_append_iff.1 heq
  refine isConsistent_restore (h.removeTokensWhere condition) ts fun t ht => ?_
  have hmem : t ∈ s.tokensWhere condition := by
    rw [hsplit]
    exact List.mem_append_right before ht
  obtain ⟨⟨id, hid⟩, -⟩ := (mem_tokensWhere_iff condition).1 hmem
  exact h.owner_mem id t hid

/-- A single change leads straight back. -/
theorem isRecoverable_of_length_le (h : s.IsConsistent) (hback : (s.takeBack journal).IsConsistent)
    (hlength : journal.length ≤ 1) : s.IsRecoverable journal := by
  intro kept undone heq
  rcases kept with - | ⟨u, kept⟩
  · rw [heq] at hback
    exact hback
  · have hnil : undone = [] := by
      rw [heq, List.length_append, List.length_cons] at hlength
      exact List.length_eq_zero_iff.1 (by omega)
    rw [hnil]
    exact h

/-- The changes of a request lead back through consistent stores only. -/
theorem isRecoverable_answer (h : s.IsConsistent) (r : Request) :
    (s.answer r).store.IsRecoverable (s.answer r).journal := by
  have hback : ((s.answer r).store.takeBack (s.answer r).journal).IsConsistent := by
    rw [takeBack_answer h r]
    exact h
  have hsmall := isRecoverable_of_length_le (isConsistent_answer h r) hback
  cases r with
  | createUser | createToken =>
    apply hsmall
    simp only [answer, add]
    split <;> simp
  | deleteToken id =>
    apply hsmall
    simp only [answer]
    split <;> simp
  | deleteTokensOf | deleteExpired => exact isRecoverable_delete h _
  | findUserByEmail | findUser | findToken | tokensOf => exact isRecoverable_nil h

end Store

namespace Vault

variable {v w : Vault} {isInside : Bool} {c : Call} {x : Except Failure c.Answer}

/-- Every store on the way back from an open transaction is consistent. -/
def IsRecoverable (v : Vault) : Prop := v.store.IsRecoverable (v.journal.getD [])

theorem isRecoverable_closed {s : Store} (h : s.IsConsistent) : IsRecoverable ⟨s, none⟩ :=
  Store.isRecoverable_nil h

theorem IsRecoverable.drop (h : v.IsRecoverable) : v.drop.IsRecoverable :=
  isRecoverable_closed h.isConsistent_takeBack

theorem Turn.isRecoverable (h : Turn v isInside c x w) (hv : v.IsRecoverable) :
    w.IsRecoverable := by
  cases h with
  | outside s _ r => exact isRecoverable_closed (Store.isConsistent_answer hv.isConsistent r)
  | inside s journal r =>
    refine Store.IsRecoverable.append (Store.isRecoverable_answer hv.isConsistent r) ?_
    rw [Store.takeBack_answer hv.isConsistent]
    exact hv
  | begin => exact isRecoverable_closed hv.isConsistent
  | commit => exact isRecoverable_closed hv.isConsistent
  | rollback => exact hv.drop
  | commitOutside | rollbackOutside => exact hv
  | failed v isInside c f =>
    rcases afterFailure_eq v isInside c with h | ⟨-, h⟩
    · rw [h]
      exact hv
    · rw [h]
      exact hv.drop

/-- The vaults to which calls lead: from outside or within the open transaction, in any order, and
with any of its ends. -/
inductive Reachable : Vault → Prop
  | empty : Reachable empty
  | call {v : Vault} {isInside : Bool} {c : Call} {r : Reply Vault c.Answer} (h : Reachable v)
    (hr : v.reply? isInside c = some r) : Reachable r.state
  | drop {v : Vault} (h : Reachable v) : Reachable v.drop

theorem Reachable.isRecoverable (h : v.Reachable) : v.IsRecoverable := by
  induction h with
  | empty => exact isRecoverable_closed Store.isConsistent_empty
  | call _ hr ih => exact (turn_of_reply hr).isRecoverable ih
  | drop _ ih => exact ih.drop

/-- Whatever is called, and as far as the open transaction is taken back, addresses and users name
each other one to one, each token is stored under its own identifier, and its owner is a user. -/
theorem Reachable.represents (h : v.Reachable) {kept undone : List Undo}
    (hj : v.journal.getD [] = kept ++ undone) {s : Store} (hs : s = v.store.takeBack undone) :
    (∀ (e : Email) (id : UserId),
      s.emails[e]? = some id ↔ ∃ u, s.users[id]? = some u ∧ u.id = id ∧ u.email = e) ∧
    (∀ (e : Email) (id : UserId), s.emails[e]? = some id → id ∈ s.users) ∧
    (∀ id ∈ s.users, ∃! e : Email, s.emails[e]? = some id) ∧
    (∀ (id : RefreshTokenId) (t : RefreshToken), s.tokens[id]? = some t → t.id = id) ∧
    ∀ (id : RefreshTokenId) (t : RefreshToken), s.tokens[id]? = some t → t.owner ∈ s.users := by
  subst hs
  have hcons := h.isRecoverable kept undone hj
  generalize v.store.takeBack undone = s at hcons ⊢
  refine ⟨hcons.email_iff, fun e id he => ?_, fun id hid => ?_, hcons.token_id, hcons.owner_mem⟩
  · obtain ⟨u, hu, -⟩ := (hcons.email_iff e id).1 he
    rw [Std.ExtTreeMap.mem_iff_isSome_getElem?, hu]
    rfl
  · rw [Std.ExtTreeMap.mem_iff_isSome_getElem?, Option.isSome_iff_exists] at hid
    obtain ⟨u, hu⟩ := hid
    refine ⟨u.email, (hcons.email_iff _ id).2 ⟨u, hu, hcons.user_id id u hu, rfl⟩, fun e he => ?_⟩
    obtain ⟨u', hu', -, rfl⟩ := (hcons.email_iff e id).1 he
    rw [hu] at hu'
    rw [Option.some.inj hu']

/-- A user's token that was deleted within the transaction is put back first. -/
theorem Reachable.represents_deleted : ∃ v : Vault, v.Reachable ∧
    v.journal.getD [] = [.removeUser (default : User).id, .removeToken (default : RefreshToken).id] ++
      [.restoreToken default] ∧
    (default : RefreshToken).owner ∈ (v.store.takeBack [.restoreToken default]).users := by
  have hgrow : ∀ (s : Store) (journal : List Undo) (r : Request), Reachable ⟨s, some journal⟩ →
      Reachable (answerInside s journal r).state := by
    intro s journal r h
    have hreply : reply? ⟨s, some journal⟩ true (.ask r) = some (answerInside s journal r) := rfl
    exact .call h hreply
  have hbegin : reply? ⟨.empty, none⟩ false .begin = some ⟨.ok (), ⟨.empty, some []⟩, []⟩ := rfl
  have huser := hgrow _ _ (.createUser default) (.call .empty hbegin)
  have htoken := hgrow _ _ (.createToken default) huser
  have hdeleted := hgrow _ _ (.deleteToken (default : RefreshToken).id) htoken
  refine ⟨_, hdeleted, rfl, ?_⟩
  obtain ⟨-, -, -, -, howner⟩ := hdeleted.represents rfl rfl
  exact howner (default : RefreshToken).id default rfl

end Vault

end SessionAuth
