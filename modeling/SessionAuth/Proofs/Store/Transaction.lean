import SessionAuth.Proofs.Store.Journal
import SessionAuth.Store.Backend

/-!
# Calls on a vault

What a call can do to a vault (`Turn`, `turn_of_reply`). A vault has two stores: the one that the
open transaction sees, and the one to which it returns when that transaction is dropped
(`settled`). Both stay consistent (`Turn.isSound`), a transaction changes the second one only by its
commit (`Turn.settled_eq`), and a token gets into either of them only by its creation
(`Turn.holds`).
-/

namespace SessionAuth

/-- A call and its answer. -/
structure Exchange where
  call : Call
  answer : Except Failure call.Answer

/-- The creation of a token. -/
abbrev Exchange.creation (t : RefreshToken) : Exchange := ⟨.ask (.createToken t), .ok ()⟩

/-- The deletion of a token that was there. -/
abbrev Exchange.deletion (id : RefreshTokenId) : Exchange := ⟨.ask (.deleteToken id), .ok true⟩

/-- The commit of a transaction. -/
abbrev Exchange.commitment : Exchange := ⟨.commit, .ok ()⟩

namespace Vault

variable {v w : Vault} {isInside : Bool} {c : Call} {x : Except Failure c.Answer}

/-- The store that is left when the open transaction is dropped. -/
def settled (v : Vault) : Store := v.store.takeBack (v.journal.getD [])

/-- Both stores are consistent. -/
structure IsSound (v : Vault) : Prop where
  store : v.store.IsConsistent
  settled : v.settled.IsConsistent

theorem settled_of_closed (s : Store) : settled ⟨s, none⟩ = s := rfl

theorem settled_eq_store (h : v.journal = none) : v.settled = v.store := by
  rw [settled, h]
  rfl

theorem drop_eq (v : Vault) : v.drop = ⟨v.settled, none⟩ := rfl

theorem isSound_closed {s : Store} (h : s.IsConsistent) : IsSound ⟨s, none⟩ := ⟨h, h⟩

theorem isSound_empty : IsSound empty := isSound_closed Store.isConsistent_empty

theorem IsSound.drop (h : v.IsSound) : v.drop.IsSound := isSound_closed h.settled

/-! ### What a call can do -/

/-- The turns that calls may take: a vault, whether the caller is inside the transaction, the call,
its answer, and the vault after it. A call may also fail for a reason of its own. -/
inductive Turn : Vault → (isInside : Bool) → (c : Call) → Except Failure c.Answer → Vault → Prop
  | outside (s : Store) (isInside : Bool) (r : Request) :
    Turn ⟨s, none⟩ isInside (.ask r) (s.answer r).answer ⟨(s.answer r).store, none⟩
  | inside (s : Store) (journal : List Undo) (r : Request) :
    Turn ⟨s, some journal⟩ true (.ask r) (s.answer r).answer
      ⟨(s.answer r).store, some (journal ++ (s.answer r).journal)⟩
  | begin (s : Store) (isInside : Bool) : Turn ⟨s, none⟩ isInside .begin (.ok ()) ⟨s, some []⟩
  | commit (v : Vault) : Turn v true .commit (.ok ()) ⟨v.store, none⟩
  | rollback (v : Vault) : Turn v true .rollback (.ok ()) v.drop
  | commitOutside (v : Vault) : Turn v false .commit (.ok ()) v
  | rollbackOutside (v : Vault) : Turn v false .rollback (.ok ()) v
  | failed (v : Vault) (isInside : Bool) (c : Call) (f : Failure) :
    Turn v isInside c (.error f) (Backend.afterFailure isInside v c)

theorem afterFailure_eq (v : Vault) (isInside : Bool) (c : Call) :
    Backend.afterFailure isInside v c = v ∨
      isInside = true ∧ Backend.afterFailure isInside v c = v.drop := by
  cases isInside with
  | false => cases c <;> exact .inl rfl
  | true =>
    cases c with
    | ask | begin => exact .inl rfl
    | commit | rollback => exact .inr ⟨rfl, rfl⟩

theorem turn_of_reply {r : Reply Vault c.Answer} (h : v.reply? isInside c = some r) :
    Turn v isInside c r.answer r.state := by
  obtain ⟨s, journal⟩ := v
  cases c with
  | ask r =>
    cases journal with
    | none =>
      cases h
      exact .outside s isInside r
    | some journal =>
      cases isInside with
      | false => cases h
      | true =>
        cases h
        exact .inside s journal r
  | begin =>
    cases journal with
    | none =>
      cases h
      exact .begin s isInside
    | some journal => cases h
  | commit =>
    cases isInside with
    | false =>
      cases h
      exact .commitOutside _
    | true =>
      cases h
      exact .commit _
  | rollback =>
    cases isInside with
    | false =>
      cases h
      exact .rollbackOutside _
    | true =>
      cases h
      exact .rollback _

/-- Within a transaction, a request leaves the settled store alone. -/
theorem settled_inside {s : Store} (h : s.IsConsistent) (journal : List Undo) (r : Request) :
    settled ⟨(s.answer r).store, some (journal ++ (s.answer r).journal)⟩ =
      settled ⟨s, some journal⟩ := by
  simp only [settled, Option.getD_some, Store.takeBack_append, Store.takeBack_answer h]

theorem Turn.isSound (h : Turn v isInside c x w) (hv : v.IsSound) : w.IsSound := by
  cases h with
  | outside s _ r => exact isSound_closed (Store.isConsistent_answer hv.store r)
  | inside s journal r =>
    refine ⟨Store.isConsistent_answer hv.store r, ?_⟩
    rw [settled_inside hv.store]
    exact hv.settled
  | begin s _ => exact ⟨hv.store, hv.store⟩
  | commit => exact isSound_closed hv.store
  | rollback => exact hv.drop
  | commitOutside | rollbackOutside => exact hv
  | failed v isInside c f =>
    rcases afterFailure_eq v isInside c with h | ⟨-, h⟩
    · rw [h]
      exact hv
    · rw [h]
      exact hv.drop

/-- The settled store changes when a transaction is committed, or by a request outside of one. -/
theorem Turn.settled_eq (h : Turn v isInside c x w) (hv : v.IsSound) :
    w.settled = v.settled ∨
      ((⟨c, x⟩ : Exchange) = .commitment ∧ isInside = true ∧ w.settled = v.store) ∨
      ∃ r, (⟨c, x⟩ : Exchange) = ⟨.ask r, (v.store.answer r).answer⟩ ∧ v.journal = none ∧
        w.settled = (v.store.answer r).store := by
  cases h with
  | outside s _ r => exact .inr (.inr ⟨r, rfl, rfl, rfl⟩)
  | inside s journal r => exact .inl (settled_inside hv.store journal r)
  | begin | rollback | commitOutside | rollbackOutside => exact .inl rfl
  | commit => exact .inr (.inl ⟨rfl, rfl, rfl⟩)
  | failed v isInside c f =>
    rcases afterFailure_eq v isInside c with h | ⟨-, h⟩
    · rw [h]
      exact .inl rfl
    · rw [h]
      exact .inl rfl

/-- A caller who knows whether the transaction is the own one keeps knowing it. -/
theorem Turn.journal_isSome (h : Turn v isInside c x w) (hv : v.journal.isSome = isInside) :
    w.journal.isSome = c.isInsideAfter isInside x := by
  cases h with
  | outside | inside | commitOutside | rollbackOutside => exact hv
  | begin | commit | rollback => rfl
  | failed v isInside c f =>
    cases c with
    | ask | begin => exact hv
    | commit | rollback =>
      cases isInside with
      | false => exact hv
      | true => rfl

/-! ### Tokens -/

/-- The token is in one of the two stores. -/
def Holds (v : Vault) (t : RefreshToken) : Prop :=
  v.store.tokens[t.id]? = some t ∨ v.settled.tokens[t.id]? = some t

theorem holds_closed_iff {s : Store} {t : RefreshToken} :
    Holds ⟨s, none⟩ t ↔ s.tokens[t.id]? = some t := or_self_iff

theorem Holds.of_drop {t : RefreshToken} (h : v.drop.Holds t) : v.Holds t :=
  .inr (holds_closed_iff.1 h)

end Vault

/-- A token is in the store after a request only if it was there before or has been created. -/
theorem Store.tokens_answer {s : Store} {r : Request} {id : RefreshTokenId} {t : RefreshToken}
    (h : (s.answer r).store.tokens[id]? = some t) :
    s.tokens[id]? = some t ∨
      t.id = id ∧ (⟨.ask r, (s.answer r).answer⟩ : Exchange) = .creation t := by
  cases r with
  | createUser u =>
    simp only [answer, add] at h
    split at h
    · rename_i s' hs
      obtain ⟨-, -, rfl⟩ := addUser_eq_ok_iff.1 hs
      exact .inl h
    · exact .inl h
  | createToken t' =>
    simp only [answer, add] at h ⊢
    split at h
    · rename_i s' hs
      obtain ⟨-, -, rfl⟩ := addToken_eq_ok_iff.1 hs
      rw [tokens_putToken] at h
      split_ifs at h with hid
      · cases h
        exact .inr ⟨hid, rfl⟩
      · exact .inl h
    · exact .inl h
  | deleteToken id' =>
    simp only [answer] at h
    split at h
    · rw [tokens_removeToken] at h
      split_ifs at h
      exact .inl h
    · exact .inl h
  | deleteTokensOf owner =>
    simp only [answer, delete, tokens_removeTokensWhere, Option.filter_eq_some_iff] at h
    exact .inl h.1
  | deleteExpired now =>
    simp only [answer, delete, tokens_removeTokensWhere, Option.filter_eq_some_iff] at h
    exact .inl h.1
  | findUserByEmail | findUser | findToken | tokensOf => exact .inl h

namespace Vault

variable {v w : Vault} {isInside : Bool} {c : Call} {x : Except Failure c.Answer}

theorem Turn.holds (h : Turn v isInside c x w) (hv : v.IsSound) {t : RefreshToken}
    (ht : w.Holds t) : v.Holds t ∨ (⟨c, x⟩ : Exchange) = .creation t := by
  cases h with
  | outside s _ r =>
    rw [holds_closed_iff] at ht ⊢
    exact (Store.tokens_answer ht).imp_right And.right
  | inside s journal r =>
    rcases ht with ht | ht
    · exact (Store.tokens_answer ht).imp .inl And.right
    · rw [settled_inside hv.store] at ht
      exact .inl (.inr ht)
  | begin s _ =>
    rcases ht with ht | ht
    · exact .inl (.inl ht)
    · exact .inl (.inl ht)
  | commit => exact .inl (.inl (holds_closed_iff.1 ht))
  | rollback => exact .inl ht.of_drop
  | commitOutside | rollbackOutside => exact .inl ht
  | failed v isInside c f =>
    rcases afterFailure_eq v isInside c with h | ⟨-, h⟩
    · rw [h] at ht
      exact .inl ht
    · rw [h] at ht
      exact .inl ht.of_drop

/-- A token that is deleted outside of a transaction was in the store and is in neither store
afterwards. -/
theorem Turn.deleteToken {id : RefreshTokenId}
    (h : Turn v false (.ask (.deleteToken id)) (.ok true) w) (hv : v.IsSound) :
    (∃ t, v.Holds t ∧ t.id = id) ∧ ∀ t, w.Holds t → t.id ≠ id := by
  generalize hx : Except.ok true = x at h
  cases h with
  | outside s _ r =>
    simp only [Store.answer] at hx ⊢
    split at hx
    · rename_i t ht
      refine ⟨⟨t, ?_, hv.store.token_id id t ht⟩, fun t' ht' => ?_⟩
      · rw [holds_closed_iff, hv.store.token_id id t ht]
        exact ht
      · simp only [holds_closed_iff, Store.tokens_removeToken] at ht'
        split_ifs at ht' with hne
        exact Ne.symm hne
    · simp at hx
  | failed => cases hx

end Vault

end SessionAuth
