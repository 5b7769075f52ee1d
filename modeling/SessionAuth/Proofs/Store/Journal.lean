import SessionAuth.Proofs.Store.Consistency

/-!
# Taking changes back

What a request puts into the journal takes its change back (`takeBack_answer`), and a journal that
grew at its end is taken back from its end (`takeBack_append`). So nothing that happens within a
transaction touches the store to which it returns.
-/

namespace SessionAuth

namespace Store

variable {s : Store}

theorem takeBack_append (j k : List Undo) : s.takeBack (j ++ k) = (s.takeBack k).takeBack j := by
  simp [takeBack]

/-! ### One change -/

theorem removeUser_addUser {u : User} (h : s.IsConsistent) (he : s.emails[u.email]? = none)
    (hu : s.users[u.id]? = none) :
    removeUser
      { s with users := s.users.insert u.id u, emails := s.emails.insert u.email u.id } u.id =
      s := by
  have htokens : s.tokens.filter (fun _ t => t.owner ≠ u.id) = s.tokens := by
    rw [Std.ExtTreeMap.filter_eq_self_iff]
    intro id hid
    have howner := h.owner_mem id _ (Std.ExtTreeMap.getElem?_eq_some_getElem hid)
    simp only [decide_eq_true_eq]
    intro hcontra
    rw [hcontra, Std.ExtTreeMap.mem_iff_isSome_getElem?, hu] at howner
    cases howner
  simp only [removeUser, Std.ExtTreeMap.getElem?_insert_self, htokens]
  apply ext
  · intro id
    simp only [Std.ExtTreeMap.getElem?_erase, Std.ExtTreeMap.getElem?_insert,
      Std.compare_eq_iff_eq]
    split_ifs with hid
    · rw [← hid, hu]
    · rfl
  · intro e
    simp only [Std.ExtTreeMap.getElem?_erase, Std.ExtTreeMap.getElem?_insert,
      Std.compare_eq_iff_eq]
    split_ifs with hemail
    · rw [← hemail, he]
    · rfl
  · exact fun _ => rfl

theorem removeToken_putToken {t : RefreshToken} (ht : s.tokens[t.id]? = none) :
    (s.putToken t).removeToken t.id = s := by
  refine ext (fun _ => rfl) (fun _ => rfl) fun id => ?_
  rw [tokens_removeToken, tokens_putToken]
  split_ifs with hid
  · rw [← hid, ht]
  · rfl

theorem putToken_removeToken {t : RefreshToken} (ht : s.tokens[t.id]? = some t) :
    (s.removeToken t.id).putToken t = s := by
  refine ext (fun _ => rfl) (fun _ => rfl) fun id => ?_
  rw [tokens_putToken, tokens_removeToken]
  split_ifs with hid
  · rw [← hid, ht]
  · rfl

/-! ### Many tokens -/

/-- Tokens that are put back one by one. -/
theorem foldl_putToken_eq (s₀ : Store) (ts : List RefreshToken) :
    ∀ s : Store, s.users = s₀.users → s.emails = s₀.emails →
      (∀ t ∈ ts, s₀.tokens[t.id]? = some t) →
      (∀ id : RefreshTokenId, (∀ t ∈ ts, t.id ≠ id) → s.tokens[id]? = s₀.tokens[id]?) →
      ts.foldl putToken s = s₀ := by
  induction ts with
  | nil =>
    intro s hu he _ h
    refine ext (fun id => by rw [List.foldl_nil, hu]) (fun e => by rw [List.foldl_nil, he])
      fun id => h id fun t ht => ?_
    cases ht
  | cons t ts ih =>
    intro s hu he hts h
    refine ih (s.putToken t) hu he (fun t' ht' => hts t' (List.mem_cons_of_mem t ht'))
      fun id hid => ?_
    rw [tokens_putToken]
    split_ifs with heq
    · rw [← heq, hts t List.mem_cons_self]
    · refine h id fun t' ht' => ?_
      rcases List.mem_cons.1 ht' with rfl | ht'
      · exact heq
      · exact hid t' ht'

/-- Deleted tokens come back, whatever their order in the journal. -/
theorem takeBack_delete (h : s.IsConsistent) (condition : RefreshToken → Bool) :
    (s.removeTokensWhere condition).takeBack ((s.tokensWhere condition).map .restoreToken) = s := by
  rw [takeBack, ← List.map_reverse, List.foldl_map]
  refine foldl_putToken_eq s _ _ rfl rfl (fun t ht => ?_) fun id hid => ?_
  · obtain ⟨⟨id, hid⟩, -⟩ := (mem_tokensWhere_iff condition).1 (List.mem_reverse.1 ht)
    rw [h.token_id id t hid]
    exact hid
  · rw [tokens_removeTokensWhere]
    cases ht : s.tokens[id]? with
    | none => rfl
    | some t =>
      have hkept : ¬ condition t := fun hc =>
        hid t (List.mem_reverse.2 ((mem_tokensWhere_iff condition).2 ⟨⟨id, ht⟩, hc⟩))
          (h.token_id id t ht)
      simp [hkept]

/-- What a request puts into the journal takes its change back. -/
theorem takeBack_answer (h : s.IsConsistent) (r : Request) :
    (s.answer r).store.takeBack (s.answer r).journal = s := by
  cases r with
  | createUser u =>
    simp only [answer, add]
    split
    · rename_i s' hs
      obtain ⟨he, hu, rfl⟩ := addUser_eq_ok_iff.1 hs
      exact removeUser_addUser h he hu
    · rfl
  | createToken t =>
    simp only [answer, add]
    split
    · rename_i s' hs
      obtain ⟨-, ht, rfl⟩ := addToken_eq_ok_iff.1 hs
      exact removeToken_putToken ht
    · rfl
  | deleteToken id =>
    simp only [answer]
    split
    · rename_i t ht
      have hid := h.token_id id t ht
      subst hid
      exact putToken_removeToken ht
    · rfl
  | deleteTokensOf owner => exact takeBack_delete h _
  | deleteExpired now => exact takeBack_delete h _
  | findUserByEmail | findUser | findToken | tokensOf => rfl

end Store

end SessionAuth
