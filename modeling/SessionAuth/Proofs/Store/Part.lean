import SessionAuth.Proofs.Store.Holdings

/-!
# What belongs to a user

The part of a store that belongs to a user: the record, the entry of the address, and the tokens
(`Store.partOf`). Lookups about the user have the same answer in the part, and each change to the
store is the same change to the part, or none if it is about somebody else.
-/

namespace SessionAuth

namespace Store

variable {s s' : Store} {u : User} {t : RefreshToken} {r : Request}

/-- The part of the store that belongs to the user. -/
def partOf (s : Store) (u : User) : Store where
  users := s.users.filter fun id _ => id = u.id
  emails := s.emails.filter fun e _ => e = u.email
  tokens := s.tokens.filter fun _ t => t.owner = u.id

/-! ### Lookups -/

theorem users_partOf (s : Store) (u : User) (id : UserId) :
    (s.partOf u).users[id]? = if id = u.id then s.users[id]? else none := by
  simp only [partOf, Std.ExtTreeMap.getElem?_filter']
  split_ifs with h <;> cases s.users[id]? <;> simp [Option.filter, h]

theorem emails_partOf (s : Store) (u : User) (e : Email) :
    (s.partOf u).emails[e]? = if e = u.email then s.emails[e]? else none := by
  simp only [partOf, Std.ExtTreeMap.getElem?_filter']
  split_ifs with h <;> cases s.emails[e]? <;> simp [Option.filter, h]

theorem tokens_partOf (s : Store) (u : User) (id : RefreshTokenId) :
    (s.partOf u).tokens[id]? = s.tokens[id]?.filter fun t => t.owner = u.id := by
  simp only [partOf, Std.ExtTreeMap.getElem?_filter']

/-- A token of the part is one of the user's. -/
theorem tokens_partOf_eq_some_iff (id : RefreshTokenId) :
    (s.partOf u).tokens[id]? = some t ↔ s.tokens[id]? = some t ∧ t.owner = u.id := by
  simp only [tokens_partOf, Option.filter_eq_some_iff, decide_eq_true_eq]

/-- Two stores have the same of a user if they have the same record, the same entry and the same
tokens. -/
theorem partOf_eq_iff : s.partOf u = s'.partOf u ↔ s.users[u.id]? = s'.users[u.id]? ∧
    s.emails[u.email]? = s'.emails[u.email]? ∧ ∀ (id : RefreshTokenId) (t : RefreshToken),
      t.owner = u.id → (s.tokens[id]? = some t ↔ s'.tokens[id]? = some t) := by
  constructor
  · intro h
    have husers := s.users_partOf u u.id
    have hemails := s.emails_partOf u u.email
    rw [h, users_partOf, if_pos rfl, if_pos rfl] at husers
    rw [h, emails_partOf, if_pos rfl, if_pos rfl] at hemails
    refine ⟨husers.symm, hemails.symm, fun id t ht => ?_⟩
    have htokens := tokens_partOf_eq_some_iff (s := s) (u := u) (t := t) id
    rw [h, tokens_partOf_eq_some_iff] at htokens
    simp only [ht, and_true] at htokens
    exact htokens.symm
  · rintro ⟨husers, hemails, htokens⟩
    refine ext (fun id => ?_) (fun e => ?_) fun id => ?_
    · rw [users_partOf, users_partOf]
      split_ifs with h
      · rw [h, husers]
      · rfl
    · rw [emails_partOf, emails_partOf]
      split_ifs with h
      · rw [h, hemails]
      · rfl
    · refine Option.ext fun t => ?_
      rw [tokens_partOf_eq_some_iff, tokens_partOf_eq_some_iff]
      exact and_congr_left fun ht => htokens id t ht

/-- The tokens of a user are in the part. -/
theorem tokensWhere_partOf (s : Store) (u : User) :
    (s.partOf u).tokensWhere (·.owner = u.id) = s.tokensWhere (·.owner = u.id) := by
  simp only [tokensWhere, partOf, values_eq_map_toList, Std.ExtTreeMap.toList_filter,
    List.filter_map, List.filter_filter, Function.comp_def, Bool.and_self]

theorem tokensOf_partOf (s : Store) (u : User) : (s.partOf u).tokensOf u.id = s.tokensOf u.id := by
  rw [tokensOf, tokensOf, tokensWhere_partOf]

/-! ### Changes -/

theorem partOf_removeToken (s : Store) (u : User) (id : RefreshTokenId) :
    (s.removeToken id).partOf u = (s.partOf u).removeToken id := by
  refine ext (fun _ => rfl) (fun _ => rfl) fun id' => ?_
  rw [tokens_partOf, tokens_removeToken, tokens_removeToken, tokens_partOf]
  split_ifs <;> rfl

theorem partOf_removeTokensWhere (s : Store) (u : User) (condition : RefreshToken → Bool) :
    (s.removeTokensWhere condition).partOf u = (s.partOf u).removeTokensWhere condition := by
  refine ext (fun _ => rfl) (fun _ => rfl) fun id => ?_
  rw [tokens_partOf, tokens_removeTokensWhere, tokens_removeTokensWhere, tokens_partOf,
    Option.filter_filter, Option.filter_filter]
  simp only [Bool.and_comm]

theorem partOf_putToken (s : Store) (ht : t.owner = u.id) :
    (s.putToken t).partOf u = (s.partOf u).putToken t := by
  refine ext (fun _ => rfl) (fun _ => rfl) fun id => ?_
  rw [tokens_partOf, tokens_putToken, tokens_putToken, tokens_partOf]
  split_ifs
  · simp [Option.filter, ht]
  · rfl

/-- A token that is removed is gone from the part of its owner alone. -/
theorem partOf_removeToken_of_ne {id : RefreshTokenId}
    (h : ∀ t, s.tokens[id]? = some t → t.owner ≠ u.id) :
    (s.removeToken id).partOf u = s.partOf u := by
  refine partOf_eq_iff.2 ⟨rfl, rfl, fun id' t ht => ?_⟩
  rw [tokens_removeToken]
  split_ifs with hid
  · subst hid
    exact iff_of_false nofun fun hs => h t hs ht
  · rfl

/-- Tokens that are removed from one user stay with all others. -/
theorem partOf_removeTokensOf_of_ne {owner : UserId} (h : owner ≠ u.id) :
    (s.removeTokensWhere (·.owner = owner)).partOf u = s.partOf u := by
  refine partOf_eq_iff.2 ⟨rfl, rfl, fun id t ht => ?_⟩
  have hne : t.owner ≠ owner := ht ▸ h.symm
  rw [tokens_removeTokensWhere, Option.filter_eq_some_iff]
  simp [hne]

/-- A new token is new in the part of its owner alone. -/
theorem partOf_addToken_of_ne (hadd : s.addToken t = .ok s') (ht : t.owner ≠ u.id) :
    s'.partOf u = s.partOf u := by
  obtain ⟨-, hnone, rfl⟩ := addToken_eq_ok_iff.1 hadd
  refine partOf_eq_iff.2 ⟨rfl, rfl, fun id t' ht' => ?_⟩
  rw [tokens_putToken]
  split_ifs with hid
  · subst hid
    rw [hnone]
    exact iff_of_false (fun h => ht (Option.some.inj h ▸ ht')) nofun
  · rfl

/-- A new user has nothing of another one. -/
theorem partOf_addUser {w : User} (hadd : s.addUser w = .ok s') (hid : w.id ≠ u.id)
    (hemail : w.email ≠ u.email) : s'.partOf u = s.partOf u := by
  obtain ⟨-, -, rfl⟩ := addUser_eq_ok_iff.1 hadd
  refine partOf_eq_iff.2 ⟨?_, ?_, fun id t _ => Iff.rfl⟩
  · simp only [Std.ExtTreeMap.getElem?_insert, Std.compare_eq_iff_eq, hid, if_false]
  · simp only [Std.ExtTreeMap.getElem?_insert, Std.compare_eq_iff_eq, hemail, if_false]

/-! ### Requests -/

/-- Nobody but the user has the identifier or the address. -/
def Fits (s : Store) (u : User) : Prop :=
  ∀ w : User, s.users[w.id]? = some w → w.id = u.id ∨ w.email = u.email → w = u

/-- What the request names belongs to the user, or to nobody. -/
def Concerns (s : Store) (u : User) : Request → Prop
  | .createUser w => w.email = u.email ∧ s.users[w.id]? = none
  | .findUserByEmail email => email = u.email
  | .findUser id => id = u.id
  | .createToken t => t.owner = u.id ∧ s.tokens[t.id]? = none
  | .findToken id | .deleteToken id => ∀ t, s.tokens[id]? = some t → t.owner = u.id
  | .tokensOf owner | .deleteTokensOf owner => owner = u.id
  | .deleteExpired _ => False

/-- What the request changes does not belong to the user. -/
def Spares (s : Store) (u : User) : Request → Prop
  | .createUser w => w.email ≠ u.email
  | .createToken t => t.owner ≠ u.id
  | .deleteToken id => ∀ t, s.tokens[id]? = some t → t.owner ≠ u.id
  | .deleteTokensOf owner => owner ≠ u.id
  | .deleteExpired _ => False
  | .findUserByEmail _ | .findUser _ | .findToken _ | .tokensOf _ => True

/-- A request that changes nothing of the user leaves the part as it is. -/
theorem partOf_answer (hfit : (s.answer r).store.Fits u) (hr : s.Spares u r) :
    (s.answer r).store.partOf u = s.partOf u := by
  cases r with
  | createUser w =>
    simp only [answer, add] at hfit ⊢
    split
    next s' hadd =>
      rw [hadd] at hfit
      obtain ⟨-, -, rfl⟩ := addUser_eq_ok_iff.1 hadd
      refine partOf_addUser hadd (fun hid => hr ?_) hr
      rw [hfit w (by simp) (.inl hid)]
    · rfl
  | createToken t =>
    simp only [answer, add]
    split
    next s' hadd => exact partOf_addToken_of_ne hadd hr
    · rfl
  | deleteToken id =>
    simp only [answer]
    split
    · exact partOf_removeToken_of_ne hr
    · rfl
  | deleteTokensOf owner => exact partOf_removeTokensOf_of_ne hr
  | deleteExpired => exact hr.elim
  | findUserByEmail | findUser | findToken | tokensOf => rfl

theorem userByEmail?_partOf (h : s.IsConsistent) (hfit : s.Fits u) :
    (s.partOf u).userByEmail? u.email = s.userByEmail? u.email := by
  rw [userByEmail?, userByEmail?, emails_partOf, if_pos rfl]
  cases hid : s.emails[u.email]? with
  | none => rfl
  | some id =>
    obtain ⟨w, hw, rfl, hemail⟩ := (h.email_iff _ _).1 hid
    rw [hfit w hw (.inr hemail)]
    show (s.partOf u).users[u.id]? = s.users[u.id]?
    rw [users_partOf, if_pos rfl]

theorem token?_partOf {id : RefreshTokenId} (h : ∀ t, s.tokens[id]? = some t → t.owner = u.id) :
    (s.partOf u).token? id = s.token? id := by
  show (s.partOf u).tokens[id]? = s.tokens[id]?
  rw [tokens_partOf]
  cases ht : s.tokens[id]? with
  | none => rfl
  | some t => simp [Option.filter, h t ht]

/-- The first record of the user. -/
theorem partOf_insert (s : Store) (u : User) :
    partOf { s with users := s.users.insert u.id u, emails := s.emails.insert u.email u.id } u =
      { s.partOf u with
        users := (s.partOf u).users.insert u.id u
        emails := (s.partOf u).emails.insert u.email u.id } := by
  refine ext (fun id => ?_) (fun e => ?_) fun id => rfl
  · simp only [users_partOf, Std.ExtTreeMap.getElem?_insert, Std.compare_eq_iff_eq]
    split_ifs with h₁ h₂ h₂
    · rfl
    · rfl
    · exact absurd h₂.symm h₁
    · rfl
  · simp only [emails_partOf, Std.ExtTreeMap.getElem?_insert, Std.compare_eq_iff_eq]
    split_ifs with h₁ h₂ h₂
    · rfl
    · rfl
    · exact absurd h₂.symm h₁
    · rfl

theorem addUser_of_taken {w : User} (h : s.emails[w.email]? ≠ none) :
    s.addUser w = .error .emailTaken := by
  have hcontains : s.emails.contains w.email = true := by
    rw [Std.ExtTreeMap.contains_eq_isSome_getElem?, Option.isSome_iff_ne_none]
    exact h
  rw [addUser, hcontains, Bool.true_or, if_pos rfl]

theorem addToken_of_not_mem (h : t.owner ∉ s.users) : s.addToken t =
    .error (.internal ("Refresh token owner " ++ t.owner.text ++ " does not exist")) := by
  have hcontains : s.users.contains t.owner = false := by
    rw [← Bool.not_eq_true, Std.ExtTreeMap.contains_iff_mem]
    exact h
  rw [addToken, hcontains, Bool.not_false, if_pos rfl]

theorem mem_users_partOf (s : Store) {id : UserId} :
    id ∈ (s.partOf u).users ↔ id ∈ s.users ∧ id = u.id := by
  rw [Std.ExtTreeMap.mem_iff_isSome_getElem?, Std.ExtTreeMap.mem_iff_isSome_getElem?, users_partOf]
  split_ifs with h <;> simp [h]

/-- A request about the user is answered from the part. -/
theorem answer_partOf (h : s.IsConsistent) (hfit : (s.answer r).store.Fits u)
    (hr : s.Concerns u r) : (s.partOf u).answer r =
      ⟨(s.answer r).answer, (s.answer r).store.partOf u, (s.answer r).journal⟩ := by
  cases r with
  | createUser w =>
    obtain ⟨hemail, hnone⟩ := hr
    cases hadd : s.addUser w with
    | ok s' =>
      obtain ⟨hfree, -, rfl⟩ := addUser_eq_ok_iff.1 hadd
      obtain rfl : w = u := hfit w (by simp [answer, add, hadd]) (.inr hemail)
      have hpart := addUser_eq_ok_iff.2 ⟨by rw [emails_partOf, hfree, ite_self],
        by rw [users_partOf, hnone, ite_self], s.partOf_insert w⟩
      simp only [answer, add, hadd, hpart]
    | error e =>
      have htaken : s.emails[w.email]? ≠ none := fun hfree => by
        rw [addUser_eq_ok_iff.2 ⟨hfree, hnone, rfl⟩] at hadd
        cases hadd
      have htaken' : (s.partOf u).emails[w.email]? ≠ none := by
        rw [emails_partOf, if_pos hemail]
        exact htaken
      simp only [answer, add, addUser_of_taken htaken, addUser_of_taken htaken']
  | findUserByEmail email =>
    obtain rfl : email = u.email := hr
    simp only [answer, userByEmail?_partOf h hfit]
  | findUser id =>
    obtain rfl : id = u.id := hr
    simp only [answer, user?, users_partOf, if_true]
  | createToken t =>
    obtain ⟨howner, hnone⟩ := hr
    have hnone' : (s.partOf u).tokens[t.id]? = none := by
      rw [tokens_partOf, hnone]
      rfl
    by_cases hmem : t.owner ∈ s.users
    · have hadd := addToken_eq_ok_iff.2 ⟨hmem, hnone, rfl⟩
      have hadd' := addToken_eq_ok_iff.2
        ⟨(mem_users_partOf s).2 ⟨hmem, howner⟩, hnone', s.partOf_putToken howner⟩
      simp only [answer, add, hadd, hadd']
    · have hmem' : t.owner ∉ (s.partOf u).users := fun h => hmem ((mem_users_partOf s).1 h).1
      simp only [answer, add, addToken_of_not_mem hmem, addToken_of_not_mem hmem']
  | findToken id => simp only [answer, token?_partOf hr]
  | tokensOf owner =>
    obtain rfl : owner = u.id := hr
    simp only [answer, tokensOf_partOf]
  | deleteToken id =>
    simp only [answer, token?_partOf hr]
    cases s.token? id with
    | none => rfl
    | some t => simp only [partOf_removeToken]
  | deleteTokensOf owner =>
    obtain rfl : owner = u.id := hr
    simp only [answer, delete, tokensWhere_partOf, partOf_removeTokensWhere]
  | deleteExpired => exact hr.elim

end Store

end SessionAuth
