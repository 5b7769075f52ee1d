import SessionAuth.Proofs.Service.Effect
import SessionAuth.Proofs.Service.Knowledge
import SessionAuth.Proofs.Store.Part

/-!
# A user's part in each command

A command about a user's account does the same on the part of the store that belongs to the user
(`Service.performOn_partOf`), and a command about anything else leaves that part as it is
(`Service.partOf_performOn`). So what a user is answered depends on nothing that others do between
the user's commands (`Service.answersTo_alike`).
-/

namespace SessionAuth

/-- The command is about the user's account: it gives the address, or the identifier of one of the
user's tokens, in any spelling. -/
def Command.concerns (c : Command) (u : User) (st : Store) : Bool :=
  match c with
  | .signUp text _ | .login text _ _ => decide (Email.ofText text = .ok u.email)
  | .refresh text _ | .logout text =>
    ((RefreshTokenId.parse? text).bind st.token?).any fun token => token.owner = u.id
  | .cleanUp => false

namespace Store

variable {st : Store} {u : User} {t : RefreshToken}

/-- The user of an address has it. -/
theorem IsConsistent.email_eq (h : st.IsConsistent) {email : Email} {w : User}
    (hw : st.userByEmail? email = some w) (hu : st.users[u.id]? = some u) (hid : w.id = u.id) :
    email = u.email := by
  obtain ⟨hwu, rfl⟩ := h.of_userByEmail? hw
  rw [hid, hu] at hwu
  rw [Option.some.inj hwu]

theorem users_partOf_self (hu : st.users[u.id]? = some u) :
    (st.partOf u).users[u.id]? = some u := by
  rw [users_partOf, if_pos rfl, hu]

/-- The part of a user is consistent by itself. -/
theorem IsConsistent.partOf (h : st.IsConsistent) (hu : st.users[u.id]? = some u) :
    (st.partOf u).IsConsistent where
  email_iff e id := by
    rw [emails_partOf]
    constructor
    · intro he
      split_ifs at he with heq
      subst heq
      rw [h.emails_of_user hu] at he
      cases he
      exact ⟨u, users_partOf_self hu, rfl, rfl⟩
    · rintro ⟨v, hv, rfl, rfl⟩
      rw [users_partOf] at hv
      split_ifs at hv with hid
      rw [hid, hu] at hv
      cases hv
      rw [if_pos rfl, h.emails_of_user hu]
  user_id id v hv := by
    rw [users_partOf] at hv
    split_ifs at hv
    exact h.user_id id v hv
  token_id id t ht := h.token_id id t ((tokens_partOf_eq_some_iff id).1 ht).1
  owner_mem id t ht := by
    rw [((tokens_partOf_eq_some_iff id).1 ht).2, Std.ExtTreeMap.mem_iff_isSome_getElem?,
      users_partOf_self hu]
    rfl

theorem tokens_partOf_of_none {id : RefreshTokenId} (h : st.tokens[id]? = none) :
    (st.partOf u).tokens[id]? = none := by
  rw [tokens_partOf, h]
  rfl

theorem partOf_makeRoom (st : Store) (u : User) (quota : Nat) :
    (st.makeRoom quota u.id).partOf u = (st.partOf u).makeRoom quota u.id := by
  unfold makeRoom
  rw [tokensOf_partOf]
  split_ifs
  · exact partOf_removeTokensWhere st u _
  · rfl

theorem partOf_makeRoom_of_ne {owner : UserId} (h : owner ≠ u.id) (quota : Nat) :
    (st.makeRoom quota owner).partOf u = st.partOf u := by
  unfold makeRoom
  split_ifs
  · exact partOf_removeTokensOf_of_ne h
  · rfl

end Store

namespace Service

variable {s : Service} {fresh : Fresh} {st : Store} {text password device : String} {u : User}
  {f : Fingerprint} {c : Command}

/-! ### Commands about the user -/

/-- A command about the user's account does on the part of the store that belongs to the user what
it does on the store. -/
theorem performOn_partOf (hst : st.IsConsistent) (hu : st.users[u.id]? = some u)
    (hc : c.concerns u st = true) (hunused : st.tokens[fresh.tokenId]? = none) :
    s.performOn fresh (st.partOf u) c =
      ((s.performOn fresh st c).1, (s.performOn fresh st c).2.partOf u) := by
  have hpart := hst.partOf hu
  have hu' := Store.users_partOf_self hu
  have hunused' := Store.tokens_partOf_of_none (u := u) hunused
  cases c with
  | signUp text password =>
    simp only [Command.concerns, decide_eq_true_eq] at hc
    simp only [performOn, signUpOn_of_registered hpart hu' hc, signUpOn_of_registered hst hu hc,
      settle]
  | login text password device =>
    simp only [Command.concerns, decide_eq_true_eq] at hc
    simp only [performOn, loginOn_of_registered hpart hu' hc, loginOn_of_registered hst hu hc]
    cases Fingerprint.ofText device with
    | error e => rfl
    | ok f =>
      dsimp only
      rw [admitOn_of_unused hu' hunused', admitOn_of_unused hu hunused]
      cases s.accessFor fresh password u with
      | error e => rfl
      | ok access =>
        have hput := Store.partOf_putToken (st.makeRoom s.policy.quota u.id)
          (t := s.newToken fresh u.id f) (u := u) rfl
        rw [Store.partOf_makeRoom] at hput
        simp only [Except.map, settle, hput]
  | refresh text device =>
    simp only [Command.concerns, Option.any_eq_true, Option.bind_eq_some_iff,
      decide_eq_true_eq] at hc
    obtain ⟨token, ⟨id, hid, ht⟩, howner⟩ := hc
    have ht' : (st.partOf u).tokens[id]? = some token :=
      (Store.tokens_partOf_eq_some_iff id).2 ⟨ht, howner⟩
    have hrenew := renewOn_of_unused (s := s) hu howner hunused device id
    have hrenew' := renewOn_of_unused (s := s) hu' howner hunused' device id
    have hput : ((st.removeToken id).putToken (s.newToken fresh u.id token.fingerprint)).partOf u =
        ((st.partOf u).removeToken id).putToken (s.newToken fresh u.id token.fingerprint) := by
      rw [Store.partOf_putToken _ rfl, Store.partOf_removeToken]
    simp only [performOn, refreshOn_of_found hid ht, refreshOn_of_found hid ht', hrenew, hrenew']
    split_ifs
    · simp only [settle, Store.partOf_removeToken]
    · cases s.signFor fresh u with
      | error e => simp only [Except.map, settle, Store.partOf_removeToken]
      | ok access => simp only [Except.map, settle, hput]
    · simp only [settle, Store.partOf_removeToken]
  | logout text =>
    simp only [performOn, logoutOn]
    cases RefreshTokenId.parse? text with
    | none => rfl
    | some id => simp only [Store.partOf_removeToken]
  | cleanUp => cases hc

/-- A cleanup removes from the part of a user what it removes of it from the store. -/
theorem performOn_cleanUp_partOf (s : Service) (fresh : Fresh) (st : Store) (u : User) :
    (s.performOn fresh (st.partOf u) .cleanUp).2 = (s.performOn fresh st .cleanUp).2.partOf u :=
  (Store.partOf_removeTokensWhere st u _).symm

/-! ### Commands about others -/

/-- A command about anything else leaves what belongs to the user as it is. -/
theorem partOf_performOn (hst : st.IsConsistent) (hu : st.users[u.id]? = some u)
    (hc : c.concerns u st = false) (hclean : c ≠ .cleanUp) :
    (s.performOn fresh st c).2.partOf u = st.partOf u := by
  cases c with
  | signUp text password =>
    simp only [Command.concerns, decide_eq_false_iff_not] at hc
    simp only [performOn]
    refine snd_settle (p := fun st' => st'.partOf u = st.partOf u) rfl fun w st' h => ?_
    obtain ⟨he, hadd⟩ := signUpOn_eq_ok h
    refine Store.partOf_addUser hadd (fun hid => ?_) fun hemail => hc (hemail ▸ he)
    have hnone := (Store.addUser_eq_ok_iff.1 hadd).2.1
    rw [hid, hu] at hnone
    cases hnone
  | login text password device =>
    simp only [Command.concerns, decide_eq_false_iff_not] at hc
    simp only [performOn]
    refine snd_settle (p := fun st' => st'.partOf u = st.partOf u) rfl fun session st' h => ?_
    obtain ⟨f, email, w, -, he, hw, hadmit⟩ := loginOn_eq_ok h
    have hid : w.id ≠ u.id := fun hid => hc (he.trans (congrArg _ (hst.email_eq hw hu hid)))
    obtain ⟨access, -, -, hadd⟩ := admitOn_eq_ok hadmit
    rw [Store.partOf_addToken_of_ne hadd hid, Store.partOf_makeRoom_of_ne hid]
  | refresh text device =>
    simp only [Command.concerns] at hc
    simp only [performOn, refreshOn]
    cases hid : RefreshTokenId.parse? text with
    | none => rfl
    | some id =>
      dsimp only
      cases ht : st.token? id with
      | none => rfl
      | some token =>
        have howner : token.owner ≠ u.id := by simpa [hid, ht] using hc
        have hremove : (st.removeToken id).partOf u = st.partOf u := by
          refine Store.partOf_removeToken_of_ne fun t ht' => ?_
          have heq : token = t := Option.some.inj (ht.symm.trans ht')
          exact heq ▸ howner
        refine snd_settle (p := fun st' => st'.partOf u = st.partOf u) hremove
          fun session st' h => ?_
        obtain ⟨w, hw, hadd⟩ := renewOn_eq_ok h
        have hwid : w.id = token.owner := hst.user_id _ _ hw
        rw [Store.partOf_addToken_of_ne hadd (hwid ▸ howner), hremove]
  | logout text =>
    simp only [Command.concerns] at hc
    simp only [performOn, logoutOn]
    cases hid : RefreshTokenId.parse? text with
    | none => rfl
    | some id =>
      refine Store.partOf_removeToken_of_ne fun token ht => ?_
      have ht' : st.token? id = some token := ht
      simpa [hid, ht'] using hc
  | cleanUp => exact absurd rfl hclean

/-! ### One command after the other -/

/-- The store after commands that are carried out one after the other. -/
def storeAfter (s : Service) : Store → List (Command × Fresh) → Store
  | st, [] => st
  | st, (c, fresh) :: later => s.storeAfter (s.runAlone fresh c st).state.store later

/-- The answers to those commands that are about the user's account. -/
def answersTo (s : Service) (u : User) :
    Store → List (Command × Fresh) → List (Program.Rest (Except Failure Outcome))
  | _, [] => []
  | st, (c, fresh) :: later =>
    let run := s.runAlone fresh c st
    if c.concerns u st then run.rest :: s.answersTo u run.state.store later
    else s.answersTo u run.state.store later

/-- Those commands that are about the user's account, and the cleanups. -/
def shareOf (s : Service) (u : User) : Store → List (Command × Fresh) → List (Command × Fresh)
  | _, [] => []
  | st, (c, fresh) :: later =>
    let share := s.shareOf u (s.runAlone fresh c st).state.store later
    if c.concerns u st ∨ c = .cleanUp then (c, fresh) :: share else share

/-- No command is given a new token identifier that is in use when it comes. -/
def GivesUnused (s : Service) : Store → List (Command × Fresh) → Prop
  | _, [] => True
  | st, (c, fresh) :: later =>
    fresh.tokenId ∉ st.tokens ∧ s.GivesUnused (s.runAlone fresh c st).state.store later

/-- A user stays, whatever is done. -/
theorem users_performOn (hu : st.users[u.id]? = some u) (s : Service) (fresh : Fresh)
    (c : Command) : (s.performOn fresh st c).2.users[u.id]? = some u := by
  cases c with
  | signUp text password =>
    simp only [performOn]
    refine snd_settle (p := fun st' => st'.users[u.id]? = some u) hu fun w st' h => ?_
    have hstays := Store.user?_answer hu (.createUser w)
    rw [answer_createUser (signUpOn_eq_ok h).2] at hstays
    exact hstays
  | login text password device =>
    simp only [performOn]
    refine snd_settle (p := fun st' => st'.users[u.id]? = some u) hu fun session st' h => ?_
    obtain ⟨f, email, w, -, -, -, hadmit⟩ := loginOn_eq_ok h
    obtain ⟨access, -, -, hadd⟩ := admitOn_eq_ok hadmit
    obtain ⟨-, -, rfl⟩ := Store.addToken_eq_ok_iff.1 hadd
    show (st.makeRoom s.policy.quota w.id).users[u.id]? = some u
    rw [Store.users_makeRoom, hu]
  | refresh text device =>
    simp only [performOn, refreshOn]
    cases RefreshTokenId.parse? text with
    | none => exact hu
    | some id =>
      dsimp only
      cases st.token? id with
      | none => exact hu
      | some token =>
        refine snd_settle (p := fun st' => st'.users[u.id]? = some u) hu fun session st' h => ?_
        obtain ⟨w, -, hadd⟩ := renewOn_eq_ok h
        obtain ⟨-, -, rfl⟩ := Store.addToken_eq_ok_iff.1 hadd
        exact hu
  | logout text =>
    simp only [performOn, logoutOn]
    cases RefreshTokenId.parse? text <;> exact hu
  | cleanUp => exact hu

theorem concerns_partOf (c : Command) (u : User) (st : Store) :
    c.concerns u (st.partOf u) = c.concerns u st := by
  cases c with
  | signUp | login | cleanUp => rfl
  | refresh text _ | logout text =>
    simp only [Command.concerns]
    cases RefreshTokenId.parse? text with
    | none => rfl
    | some id =>
      show (st.partOf u).tokens[id]?.any _ = st.tokens[id]?.any _
      rw [Store.tokens_partOf]
      cases st.tokens[id]? with
      | none => rfl
      | some token => by_cases h : token.owner = u.id <;> simp [Option.filter, h]

/-- What a user is answered, and what becomes of what belongs to the user, follow from the part of
the store that belongs to the user and the commands about the user's account. -/
theorem answersTo_partOf (s : Service) (hst : st.IsConsistent) (hu : st.users[u.id]? = some u)
    (commands : List (Command × Fresh)) (hunused : s.GivesUnused st commands) :
    s.answersTo u st commands = s.answersTo u (st.partOf u) (s.shareOf u st commands) ∧
      (s.storeAfter st commands).partOf u =
        s.storeAfter (st.partOf u) (s.shareOf u st commands) := by
  induction commands generalizing st with
  | nil => exact ⟨rfl, rfl⟩
  | cons command later ih =>
    obtain ⟨c, fresh⟩ := command
    obtain ⟨hnew, hlater⟩ := hunused
    rw [← Store.tokens_eq_none_iff] at hnew
    obtain ⟨events, hrun⟩ := s.runAlone_eq fresh c hst
    obtain ⟨events', hrun'⟩ := s.runAlone_eq fresh c (hst.partOf hu)
    rw [hrun] at hlater
    obtain ⟨hanswers, hstore⟩ :=
      ih (s.isConsistent_performOn fresh c hst) (users_performOn hu s fresh c) hlater
    simp only [answersTo, storeAfter, shareOf, hrun]
    cases hc : c.concerns u st with
    | true =>
      have hsame := s.performOn_partOf hst hu hc hnew
      simp only [true_or, if_true, answersTo, storeAfter, concerns_partOf, hc, hrun', hsame,
        hanswers, hstore, and_self]
    | false =>
      by_cases hclean : c = .cleanUp
      · subst hclean
        have hsame := s.performOn_cleanUp_partOf fresh st u
        simp only [or_true, if_true, Bool.false_eq_true, if_false, answersTo, storeAfter,
          concerns_partOf, hc, hrun', hsame, hanswers, hstore, and_self]
      · have hsame : (s.performOn fresh st c).2.partOf u = st.partOf u :=
          partOf_performOn hst hu hc hclean
        rw [hsame] at hanswers hstore
        simp [hclean, hanswers, hstore]

theorem users_eq_of_partOf_eq {st₁ st₂ : Store} (hu : st₁.users[u.id]? = some u)
    (hpart : st₁.partOf u = st₂.partOf u) : st₂.users[u.id]? = some u := by
  rw [← (Store.partOf_eq_iff.1 hpart).1, hu]

/-- In two stores that have the same of a user, a command about the user's account is answered alike
and leaves the same of the user, and so does a cleanup but for the count that it tells. -/
theorem runAlone_alike (s : Service) {st₁ st₂ : Store} (h₁ : st₁.IsConsistent)
    (h₂ : st₂.IsConsistent) (hu : st₁.users[u.id]? = some u)
    (hpart : st₁.partOf u = st₂.partOf u) (hc : c.concerns u st₁ ∨ c = .cleanUp)
    (hnew₁ : fresh.tokenId ∉ st₁.tokens) (hnew₂ : fresh.tokenId ∉ st₂.tokens) :
    ∃ r₁ r₂ st₁' st₂' events₁ events₂,
      s.runAlone fresh c st₁ = ⟨.finished r₁, ⟨st₁', none⟩, false, events₁⟩ ∧
      s.runAlone fresh c st₂ = ⟨.finished r₂, ⟨st₂', none⟩, false, events₂⟩ ∧
      (c ≠ .cleanUp → r₁ = r₂) ∧ st₁'.partOf u = st₂'.partOf u := by
  obtain ⟨events₁, hrun₁⟩ := s.runAlone_eq fresh c h₁
  obtain ⟨events₂, hrun₂⟩ := s.runAlone_eq fresh c h₂
  refine ⟨_, _, _, _, events₁, events₂, hrun₁, hrun₂, ?_⟩
  rcases hc with hc | rfl
  · have hc₂ : c.concerns u st₂ = true := by
      rw [← concerns_partOf, ← hpart, concerns_partOf, hc]
    have hsame₁ := s.performOn_partOf h₁ hu hc (Store.tokens_eq_none_iff.2 hnew₁)
    have hsame₂ := s.performOn_partOf h₂ (users_eq_of_partOf_eq hu hpart) hc₂
      (Store.tokens_eq_none_iff.2 hnew₂)
    rw [hpart, hsame₂, Prod.mk.injEq] at hsame₁
    exact ⟨fun _ => hsame₁.1.symm, hsame₁.2.symm⟩
  · refine ⟨fun h => absurd rfl h, ?_⟩
    rw [← performOn_cleanUp_partOf, ← performOn_cleanUp_partOf, hpart]

/-- A command about anything else, alone at the vault, leaves what belongs to the user. -/
theorem runAlone_apart (s : Service) (hst : st.IsConsistent) (hu : st.users[u.id]? = some u)
    (hc : ¬ c.concerns u st) (hclean : c ≠ .cleanUp) (fresh : Fresh) : ∃ r st' events,
      s.runAlone fresh c st = ⟨.finished r, ⟨st', none⟩, false, events⟩ ∧
      st'.partOf u = st.partOf u := by
  obtain ⟨events, hrun⟩ := s.runAlone_eq fresh c hst
  exact ⟨_, _, events, hrun, partOf_performOn hst hu (eq_false_of_ne_true hc) hclean⟩

/-- In two runs, one command after the other, with the same commands about the user's account and
the same cleanups between them, the user is given the same answers. -/
theorem answersTo_alike (s : Service) {st₁ st₂ : Store} (h₁ : st₁.IsConsistent)
    (h₂ : st₂.IsConsistent) (hu : st₁.users[u.id]? = some u)
    (hpart : st₁.partOf u = st₂.partOf u) {commands₁ commands₂ : List (Command × Fresh)}
    (hnew₁ : s.GivesUnused st₁ commands₁) (hnew₂ : s.GivesUnused st₂ commands₂)
    (hshare : s.shareOf u st₁ commands₁ = s.shareOf u st₂ commands₂) :
    s.answersTo u st₁ commands₁ = s.answersTo u st₂ commands₂ ∧
      (s.storeAfter st₁ commands₁).partOf u = (s.storeAfter st₂ commands₂).partOf u := by
  obtain ⟨hanswers₁, hstore₁⟩ := s.answersTo_partOf h₁ hu commands₁ hnew₁
  obtain ⟨hanswers₂, hstore₂⟩ :=
    s.answersTo_partOf h₂ (users_eq_of_partOf_eq hu hpart) commands₂ hnew₂
  rw [hanswers₁, hanswers₂, hstore₁, hstore₂, hpart, hshare]
  exact ⟨rfl, rfl⟩

/-- Another user. -/
def bob : User := ⟨(Fresh.numbered 4).userId, ⟨"bob@b.cc"⟩, ⟨""⟩, .epoch⟩

/-- There is a store in which a user is beside another one, who has the only token. -/
theorem exists_beside {u : User} (hid : bob.id ≠ u.id) (hemail : bob.email ≠ u.email)
    {token : RefreshToken} (howner : token.owner = bob.id) :
    ∃ st : Store, st.IsConsistent ∧ st.users[bob.id]? = some bob ∧
      (∀ id, st.tokens[id]? = if token.id = id then some token else none) ∧
      (Store.ofUser u).partOf u = st.partOf u := by
  have hnone : (Store.ofUser u).users[bob.id]? = none := by
    simp [Store.ofUser, Store.empty, hid.symm]
  have hnone' : (Store.ofUser u).emails[bob.email]? = none := by
    simp [Store.ofUser, Store.empty, hemail.symm]
  let both : Store := { Store.ofUser u with
    users := (Store.ofUser u).users.insert bob.id bob
    emails := (Store.ofUser u).emails.insert bob.email bob.id }
  have hadd : (Store.ofUser u).addUser bob = .ok both :=
    Store.addUser_eq_ok_iff.2 ⟨hnone', hnone, rfl⟩
  have hbob : both.users[bob.id]? = some bob := by simp [both]
  have htoken : both.addToken token = .ok (both.putToken token) :=
    Store.addToken_of_unused hbob howner (Store.tokens_ofUser u _)
  refine ⟨both.putToken token, ?_, hbob, fun id => ?_, ?_⟩
  · exact ((Store.isConsistent_ofUser u).addUser hnone' hnone).putToken
      (Store.addToken_eq_ok_iff.1 htoken).1
  · have hold : both.tokens[id]? = none := Store.tokens_ofUser u id
    rw [Store.tokens_putToken, hold]
  · rw [Store.partOf_addToken_of_ne htoken (howner ▸ hid), Store.partOf_addUser hadd hid hemail]

/-- Beside the first user, there is another one, who may log out before the first one logs in. -/
theorem exists_logout_beside : ∃ (st : Store) (other own : Command) (first second : Fresh),
    st.IsConsistent ∧ st.users[bob.id]? = some bob ∧ (Store.ofUser ada).partOf ada = st.partOf ada ∧
    least.GivesUnused (.ofUser ada) [(own, second)] ∧
    least.GivesUnused st [(other, first), (own, second)] ∧
    least.shareOf ada (.ofUser ada) [(own, second)] = [(own, second)] ∧
    least.shareOf ada st [(other, first), (own, second)] = [(own, second)] := by
  let token := least.newToken (.numbered 2) bob.id ⟨"laptop"⟩
  let other : Command := .logout "00000000-0000-0000-0000-000000000002"
  let own : Command := .login "ada@b.cc" "correct horse" "laptop"
  have hid : bob.id ≠ ada.id := by decide
  obtain ⟨st, hst, hbob, htokens, hpart⟩ := exists_beside hid (by decide) (rfl : token.owner = _)
  have hunused {id : RefreshTokenId} (h : token.id ≠ id) : st.tokens[id]? = none := by
    rw [htokens, if_neg h]
  have hown (st : Store) : own.concerns ada st = true := decide_eq_true takes_ada.email
  have hother : other.concerns ada st = false := by
    have hfound : st.token? (Fresh.numbered 2).tokenId = some token := by
      rw [Store.token?, htokens]
      exact if_pos rfl
    simp only [other, Command.concerns, Fresh.parse?_two, Option.bind_some, hfound, Option.any_some]
    exact decide_eq_false hid
  have hshare (st : Store) : least.shareOf ada st [(own, .numbered 6)] = [(own, .numbered 6)] := by
    simp only [shareOf, hown, true_or, if_true]
  obtain ⟨events, hrun⟩ := least.runAlone_eq (.numbered 5) other hst
  refine ⟨st, other, own, .numbered 5, .numbered 6, hst, hbob, hpart,
    ⟨Store.tokens_eq_none_iff.1 (Store.tokens_ofUser ada _), trivial⟩,
    ⟨Store.tokens_eq_none_iff.1 (hunused (by decide)), ?_, trivial⟩, hshare _, ?_⟩
  · rw [hrun]
    simp only [performOn, other, logoutOn, Fresh.parse?_two]
    rw [← Store.tokens_eq_none_iff, Store.tokens_removeToken, hunused (by decide), ite_self]
  · have hclean : other ≠ .cleanUp := by decide
    rw [shareOf, hshare, hother]
    exact if_neg (by simp [hclean])

end Service

end SessionAuth
