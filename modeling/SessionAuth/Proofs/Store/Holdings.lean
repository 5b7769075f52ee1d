import SessionAuth.Proofs.Store.Journal
import SessionAuth.Proofs.Store.Transaction

/-!
# What tokens a user holds

`Store.holdings` are the tokens of a user, and `Store.held` counts them. Only the creation of a
token adds to them, one for its owner (`held_answer`).
-/

namespace SessionAuth

namespace Store

variable {s s' : Store} {t : RefreshToken} {owner : UserId}

/-! ### The tokens -/

/-- The tokens of a user, under their identifiers. -/
def holdings (s : Store) (owner : UserId) : Std.ExtTreeMap RefreshTokenId RefreshToken :=
  s.tokens.filter fun _ t => decide (t.owner = owner)

theorem getElem?_holdings (s : Store) (owner : UserId) (id : RefreshTokenId) :
    (s.holdings owner)[id]? = s.tokens[id]?.filter fun t => decide (t.owner = owner) :=
  Std.ExtTreeMap.getElem?_filter'

theorem holdings_congr (h : s'.tokens = s.tokens) : s'.holdings owner = s.holdings owner := by
  unfold holdings
  rw [h]

theorem holdings_putToken (s : Store) (t : RefreshToken) :
    (s.putToken t).holdings t.owner = (s.holdings t.owner).insert t.id t := by
  refine Std.ExtTreeMap.ext_getElem? fun id => ?_
  simp only [getElem?_holdings, tokens_putToken, Std.ExtTreeMap.getElem?_insert,
    Std.compare_eq_iff_eq]
  by_cases hid : t.id = id <;> simp [hid]

/-- A new token is nobody's but its owner's. -/
theorem holdings_putToken_of_ne (ht : s.tokens[t.id]? = none) (howner : t.owner ≠ owner) :
    (s.putToken t).holdings owner = s.holdings owner := by
  refine Std.ExtTreeMap.ext_getElem? fun id => ?_
  simp only [getElem?_holdings, tokens_putToken]
  by_cases hid : t.id = id
  · rw [← hid, ht]
    simp [howner]
  · simp [hid]

theorem holdings_removeTokensOf : (s.removeTokensWhere (·.owner = owner)).holdings owner = ∅ := by
  refine Std.ExtTreeMap.ext_getElem? fun id => ?_
  rw [getElem?_holdings, tokens_removeTokensWhere, Std.ExtTreeMap.getElem?_empty]
  cases s.tokens[id]? with
  | none => rfl
  | some t => by_cases howner : t.owner = owner <;> simp [Option.filter, howner]

theorem holdings_removeTokensOf_of_ne {other : UserId} (h : other ≠ owner) :
    (s.removeTokensWhere (·.owner = owner)).holdings other = s.holdings other := by
  refine Std.ExtTreeMap.ext_getElem? fun id => ?_
  rw [getElem?_holdings, getElem?_holdings, tokens_removeTokensWhere]
  cases s.tokens[id]? with
  | none => rfl
  | some t =>
    by_cases howner : t.owner = owner
    · simp [Option.filter, howner, h.symm]
    · simp [Option.filter, howner]

/-! ### Their number -/

/-- As many tokens are listed as satisfy the condition. -/
theorem length_tokensWhere (s : Store) (condition : RefreshToken → Bool) :
    (s.tokensWhere condition).length = (s.tokens.filter fun _ t => condition t).size := by
  rw [tokensWhere, values_eq_map_toList, List.filter_map, List.length_map,
    ← Std.ExtTreeMap.length_toList, Std.ExtTreeMap.toList_filter]
  rfl

/-- The number of tokens of a user. -/
def held (s : Store) (owner : UserId) : Nat := (s.tokensOf owner).length

theorem held_eq_size (s : Store) (owner : UserId) : s.held owner = (s.holdings owner).size := by
  rw [held, tokensOf, List.length_mergeSort, length_tokensWhere, holdings]

theorem held_eq_of_tokens_eq (h : s'.tokens = s.tokens) : s'.held owner = s.held owner := by
  rw [held_eq_size, held_eq_size, holdings_congr h]

theorem held_empty (owner : UserId) : empty.held owner = 0 := by
  rw [held_eq_size]
  exact Nat.le_zero.1 Std.ExtTreeMap.size_filter_le_size

/-- A store with fewer tokens holds fewer of any user. -/
theorem held_le_of_sub (h : ∀ (id : RefreshTokenId) (t : RefreshToken),
    s'.tokens[id]? = some t → s.tokens[id]? = some t) : s'.held owner ≤ s.held owner := by
  have heq : s'.holdings owner =
      (s.holdings owner).filter fun id _ => decide (id ∈ s'.tokens) := by
    refine Std.ExtTreeMap.ext_getElem? fun id => ?_
    simp only [Std.ExtTreeMap.getElem?_filter', getElem?_holdings,
      Std.ExtTreeMap.mem_iff_isSome_getElem?]
    cases h' : s'.tokens[id]? with
    | none =>
      cases s.tokens[id]? with
      | none => rfl
      | some t => by_cases howner : t.owner = owner <;> simp [Option.filter, howner]
    | some t =>
      rw [h id t h']
      simp
  rw [held_eq_size, held_eq_size, heq]
  exact Std.ExtTreeMap.size_filter_le_size

theorem held_putToken (ht : s.tokens[t.id]? = none) (owner : UserId) :
    (s.putToken t).held owner = s.held owner + if t.owner = owner then 1 else 0 := by
  rw [held_eq_size, held_eq_size]
  split_ifs with howner
  · subst howner
    have hnot : t.id ∉ s.holdings t.owner := by
      rw [Std.ExtTreeMap.mem_iff_isSome_getElem?, getElem?_holdings, ht]
      simp
    rw [holdings_putToken, Std.ExtTreeMap.size_insert, if_neg (by simpa using hnot)]
  · rw [holdings_putToken_of_ne ht howner, Nat.add_zero]

theorem held_removeToken (ht : s.tokens[t.id]? = some t) (owner : UserId) :
    (s.removeToken t.id).held owner + (if t.owner = owner then 1 else 0) = s.held owner := by
  have hnone : (s.removeToken t.id).tokens[t.id]? = none := by
    rw [tokens_removeToken, if_pos rfl]
  rw [← held_putToken hnone owner, putToken_removeToken ht]

theorem held_removeTokensWhere_le (condition : RefreshToken → Bool) :
    (s.removeTokensWhere condition).held owner ≤ s.held owner := by
  refine held_le_of_sub fun id t h => ?_
  rw [tokens_removeTokensWhere, Option.filter_eq_some_iff] at h
  exact h.1

theorem held_removeTokensOf : (s.removeTokensWhere (·.owner = owner)).held owner = 0 := by
  rw [held_eq_size, holdings_removeTokensOf]
  exact Std.ExtTreeMap.size_empty

/-- A request leaves a user with at most as many tokens as before, unless it creates one. -/
theorem held_answer (h : s.IsConsistent) (r : Request) (owner : UserId) :
    (s.answer r).store.held owner ≤ s.held owner ∨
      ∃ t, t.owner = owner ∧ (⟨.ask r, (s.answer r).answer⟩ : Exchange) = .creation t ∧
        (s.answer r).store.held owner = s.held owner + 1 := by
  cases r with
  | createUser u =>
    simp only [answer, add]
    split
    · rename_i s' hs
      obtain ⟨-, -, rfl⟩ := addUser_eq_ok_iff.1 hs
      exact .inl (Nat.le_refl _)
    · exact .inl (Nat.le_refl _)
  | createToken t =>
    simp only [answer, add]
    split
    · rename_i s' hs
      obtain ⟨-, ht, rfl⟩ := addToken_eq_ok_iff.1 hs
      rw [held_putToken ht owner]
      by_cases howner : t.owner = owner
      · exact .inr ⟨t, howner, rfl, by rw [if_pos howner]⟩
      · rw [if_neg howner]
        exact .inl (Nat.le_refl _)
    · exact .inl (Nat.le_refl _)
  | deleteToken id =>
    simp only [answer]
    split
    · rename_i t ht
      have hid := h.token_id id t ht
      subst hid
      exact .inl (Nat.le.intro (held_removeToken ht owner))
    · exact .inl (Nat.le_refl _)
  | deleteTokensOf | deleteExpired => exact .inl (held_removeTokensWhere_le _)
  | findUserByEmail | findUser | findToken | tokensOf => exact .inl (Nat.le_refl _)

end Store

end SessionAuth
