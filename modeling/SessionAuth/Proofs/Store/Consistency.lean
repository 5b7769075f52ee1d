import Mathlib.Tactic.SplitIfs
import SessionAuth.Store.Request

/-!
# Consistency of the store

How each operation changes what can be looked up, and that every answer to a request leaves a
consistent store consistent (`isConsistent_answer`). Two stores are the same when they give the same
answers to all lookups (`Store.ext`).
-/

namespace SessionAuth

/-- The values of a map are those of its pairs. -/
theorem values_eq_map_toList {κ α : Type} {cmp : κ → κ → Ordering} [Std.TransCmp cmp]
    (m : Std.ExtTreeMap κ α cmp) : m.values = m.toList.map Prod.snd := by
  obtain ⟨⟨q⟩⟩ := m
  induction q using Quotient.ind with
  | _ m =>
    change m.values = (Std.DTreeMap.Const.toList m).map Prod.snd
    unfold Std.DTreeMap.values Std.DTreeMap.Const.toList
    rw [Std.DTreeMap.Internal.Impl.values_eq_map_snd,
      Std.DTreeMap.Internal.Impl.Const.toList_eq_toListModel_map, List.map_map]
    rfl

namespace Store

variable {s s' : Store} {u : User} {t : RefreshToken}

/-- A store is determined by its lookups. -/
theorem ext (hu : ∀ id : UserId, s.users[id]? = s'.users[id]?)
    (he : ∀ e : Email, s.emails[e]? = s'.emails[e]?)
    (ht : ∀ id : RefreshTokenId, s.tokens[id]? = s'.tokens[id]?) : s = s' := by
  cases s
  cases s'
  simp only [mk.injEq]
  exact ⟨Std.ExtTreeMap.ext_getElem? fun id => hu id, Std.ExtTreeMap.ext_getElem? fun e => he e,
    Std.ExtTreeMap.ext_getElem? fun id => ht id⟩

/-! ### Lookups -/

theorem tokens_eq_none_iff {id : RefreshTokenId} : s.tokens[id]? = none ↔ id ∉ s.tokens := by
  rw [Std.ExtTreeMap.mem_iff_isSome_getElem?, Option.not_isSome_iff_eq_none]

theorem tokens_putToken (id : RefreshTokenId) :
    (s.putToken t).tokens[id]? = if t.id = id then some t else s.tokens[id]? := by
  simp [putToken, Std.ExtTreeMap.getElem?_insert]

theorem tokens_removeToken (id id' : RefreshTokenId) :
    (s.removeToken id).tokens[id']? = if id = id' then none else s.tokens[id']? := by
  simp [removeToken, Std.ExtTreeMap.getElem?_erase]

theorem tokens_removeTokensWhere (condition : RefreshToken → Bool) (id : RefreshTokenId) :
    (s.removeTokensWhere condition).tokens[id]? =
      s.tokens[id]?.filter fun t => !condition t := by
  simp [removeTokensWhere]

theorem mem_tokensWhere_iff (condition : RefreshToken → Bool) :
    t ∈ s.tokensWhere condition ↔
      (∃ id : RefreshTokenId, s.tokens[id]? = some t) ∧ condition t := by
  simp only [tokensWhere, values_eq_map_toList, List.mem_filter, List.mem_map, Prod.exists,
    exists_eq_right, Std.ExtTreeMap.mem_toList_iff_getElem?_eq_some]

/-- A user is added when neither address nor identifier is in use. -/
theorem addUser_eq_ok_iff :
    s.addUser u = .ok s' ↔ s.emails[u.email]? = none ∧ s.users[u.id]? = none ∧
      s' = { s with users := s.users.insert u.id u, emails := s.emails.insert u.email u.id } := by
  simp only [addUser, Bool.or_eq_true, Std.ExtTreeMap.contains_iff_mem,
    Std.ExtTreeMap.mem_iff_isSome_getElem?, Option.isSome_iff_ne_none]
  grind

/-- A token is added when its owner is known and its identifier is not in use. -/
theorem addToken_eq_ok_iff :
    s.addToken t = .ok s' ↔ t.owner ∈ s.users ∧ s.tokens[t.id]? = none ∧ s' = s.putToken t := by
  simp only [addToken, putToken, Std.ExtTreeMap.contains_eq_isSome_getElem?,
    Std.ExtTreeMap.mem_iff_isSome_getElem?]
  cases s.users[t.owner]? <;> cases s.tokens[t.id]? <;> simp [eq_comm]

/-! ### Users by their addresses -/

theorem IsConsistent.emails_of_user (h : s.IsConsistent) (hu : s.users[u.id]? = some u) :
    s.emails[u.email]? = some u.id := (h.email_iff u.email u.id).2 ⟨u, hu, rfl, rfl⟩

theorem IsConsistent.userByEmail?_of_user (h : s.IsConsistent) (hu : s.users[u.id]? = some u) :
    s.userByEmail? u.email = some u := by
  rw [userByEmail?, h.emails_of_user hu]
  exact hu

theorem userByEmail?_empty (email : Email) : empty.userByEmail? email = none := by
  simp [empty, userByEmail?]

/-- Who is found under an address is stored and has the address. -/
theorem IsConsistent.of_userByEmail? (h : s.IsConsistent) {email : Email}
    (hu : s.userByEmail? email = some u) : s.users[u.id]? = some u ∧ u.email = email := by
  obtain ⟨id, hid, huser⟩ := Option.bind_eq_some_iff.1 hu
  obtain ⟨w, hw, hwid, hemail⟩ := (h.email_iff email id).1 hid
  obtain rfl := Option.some.inj (hw.symm.trans huser)
  rw [hwid]
  exact ⟨hw, hemail⟩

/-- Tokens belong to users who are there. -/
theorem IsConsistent.exists_owner (h : s.IsConsistent) {id : RefreshTokenId}
    (ht : s.tokens[id]? = some t) : ∃ u : User, s.users[u.id]? = some u ∧ t.owner = u.id := by
  have howner := h.owner_mem id t ht
  rw [Std.ExtTreeMap.mem_iff_isSome_getElem?] at howner
  obtain ⟨u, hu⟩ := Option.isSome_iff_exists.1 howner
  have hid := h.user_id _ _ hu
  exact ⟨u, hid.symm ▸ hu, hid.symm⟩

/-! ### Consistency is kept -/

theorem isConsistent_empty : empty.IsConsistent := by
  constructor <;> simp [empty]

theorem IsConsistent.addUser (h : s.IsConsistent) (he : s.emails[u.email]? = none)
    (hu : s.users[u.id]? = none) :
    IsConsistent
      { s with users := s.users.insert u.id u, emails := s.emails.insert u.email u.id } where
  email_iff e id := by
    simp only [Std.ExtTreeMap.getElem?_insert, Std.compare_eq_iff_eq]
    by_cases hid : u.id = id
    · subst hid
      have hnone : s.emails[e]? ≠ some u.id := fun hs => by
        obtain ⟨v, hv, -⟩ := (h.email_iff e u.id).1 hs
        rw [hu] at hv
        cases hv
      simp only [if_pos, Option.some.injEq, exists_eq_left', true_and]
      split_ifs with hemail
      · exact iff_of_true rfl hemail
      · exact iff_of_false hnone hemail
    · rw [if_neg hid]
      split_ifs with hemail
      · subst hemail
        refine iff_of_false (fun hs => hid (Option.some.inj hs)) fun hs => ?_
        rw [← h.email_iff, he] at hs
        cases hs
      · exact h.email_iff e id
  user_id id v hv := by
    simp only [Std.ExtTreeMap.getElem?_insert, Std.compare_eq_iff_eq] at hv
    split_ifs at hv with hid
    · rw [← Option.some.inj hv, hid]
    · exact h.user_id id v hv
  token_id := h.token_id
  owner_mem id t ht := Std.ExtTreeMap.mem_insert.2 (.inr (h.owner_mem id t ht))

theorem IsConsistent.putToken (h : s.IsConsistent) (ht : t.owner ∈ s.users) :
    (s.putToken t).IsConsistent where
  email_iff := h.email_iff
  user_id := h.user_id
  token_id id t' h' := by
    rw [tokens_putToken] at h'
    split_ifs at h' with hid
    · rw [← Option.some.inj h', hid]
    · exact h.token_id id t' h'
  owner_mem id t' h' := by
    rw [tokens_putToken] at h'
    split_ifs at h' with hid
    · rw [← Option.some.inj h']
      exact ht
    · exact h.owner_mem id t' h'

/-- A store with fewer tokens is as consistent. -/
theorem IsConsistent.of_tokens_sub (h : s.IsConsistent) (hu : s'.users = s.users)
    (he : s'.emails = s.emails)
    (ht : ∀ (id : RefreshTokenId) (t : RefreshToken), s'.tokens[id]? = some t →
      s.tokens[id]? = some t) : s'.IsConsistent where
  email_iff := by
    rw [hu, he]
    exact h.email_iff
  user_id := by
    rw [hu]
    exact h.user_id
  token_id id t h' := h.token_id id t (ht id t h')
  owner_mem id t h' := by
    rw [hu]
    exact h.owner_mem id t (ht id t h')

theorem IsConsistent.removeToken (h : s.IsConsistent) (id : RefreshTokenId) :
    (s.removeToken id).IsConsistent := by
  refine h.of_tokens_sub rfl rfl fun id' t h' => ?_
  rw [tokens_removeToken] at h'
  split_ifs at h'
  exact h'

theorem IsConsistent.removeTokensWhere (h : s.IsConsistent) (condition : RefreshToken → Bool) :
    (s.removeTokensWhere condition).IsConsistent := by
  refine h.of_tokens_sub rfl rfl fun id t h' => ?_
  rw [tokens_removeTokensWhere, Option.filter_eq_some_iff] at h'
  exact h'.1

/-- Every answer leaves a consistent store consistent. -/
theorem isConsistent_answer (h : s.IsConsistent) (r : Request) :
    (s.answer r).store.IsConsistent := by
  cases r with
  | createUser u =>
    simp only [answer, add]
    split
    · rename_i s' hs
      obtain ⟨he, hu, rfl⟩ := addUser_eq_ok_iff.1 hs
      exact h.addUser he hu
    · exact h
  | createToken t =>
    simp only [answer, add]
    split
    · rename_i s' hs
      obtain ⟨ht, -, rfl⟩ := addToken_eq_ok_iff.1 hs
      exact h.putToken ht
    · exact h
  | deleteToken id =>
    simp only [answer]
    split
    · exact h.removeToken id
    · exact h
  | deleteTokensOf owner => exact h.removeTokensWhere _
  | deleteExpired now => exact h.removeTokensWhere _
  | findUserByEmail | findUser | findToken | tokensOf => exact h

end Store

end SessionAuth
