import SessionAuth.Proofs.Http.Login
import SessionAuth.Proofs.Service.Refusal

/-!
# Logins do not tell who has an account

Whoever tries to log in without the right credentials gets one and the same response, whatever
accounts and tokens there are (`login_tells_nothing`). Accounts whose stored hash cannot be counted
are the exception (`login_tells_uncountable`).
-/

namespace SessionAuth

namespace Http.Site

variable {s : Site} {fresh fresh₁ fresh₂ : Fresh} {st st₁ st₂ : Store}
  {text password device : String} {e e₁ e₂ : Failure} {v₁ v₂ : Vault} {i₁ i₂ : Bool}
  {events₁ events₂ : List Event}

/-- The response to a login that fails tells the failure. -/
theorem answer_of_loginOn {r : Request} (hmethod : r.method = "POST") (hpath : r.path = "/login")
    (hform : r.content LoginRequest.reader = .ok ⟨text, password, device⟩) (hst : st.IsConsistent)
    (h : s.service.loginOn fresh text password device st = .error e) :
    ∃ events, (s.answer fresh r).run Backend.memory false ⟨st, none⟩ =
      ⟨.finished (.ofProblem e.problem), ⟨st, none⟩, false, events⟩ := by
  obtain ⟨history, hlogin⟩ := s.service.login_goes_on fresh text password device hst
  rw [h] at hlogin
  exact (answer_login_goes hmethod hpath (login_goes hform hlogin)).run_eq

/-- Logins tell nothing about accounts. In any two stores, a login that fails in both changes
neither, and is told the same: that the device is not valid, or else that the credentials are not.
The responses are the same. Only a login that gets to an uncountable hash is aborted. -/
theorem login_tells_nothing (s : Site) (hsign : s.service.SignsAll) (h₁ : st₁.IsConsistent)
    (h₂ : st₂.IsConsistent) (hnew₁ : fresh₁.tokenId ∉ st₁.tokens)
    (hnew₂ : fresh₂.tokenId ∉ st₂.tokens)
    (hrun₁ : s.service.runAlone fresh₁ (.login text password device) st₁ =
      ⟨.finished (.error e₁), v₁, i₁, events₁⟩)
    (hrun₂ : s.service.runAlone fresh₂ (.login text password device) st₂ =
      ⟨.finished (.error e₂), v₂, i₂, events₂⟩) :
    v₁ = ⟨st₁, none⟩ ∧ v₂ = ⟨st₂, none⟩ ∧
    (e₁ = .ofHashError .aborted ↔ st₁.AbortsLogin text password device) ∧
    (e₂ = .ofHashError .aborted ↔ st₂.AbortsLogin text password device) ∧
    (¬ st₁.AbortsLogin text password device → ¬ st₂.AbortsLogin text password device →
      e₁ = Service.loginRefusal device ∧ e₂ = Service.loginRefusal device ∧
      ∀ r : Request, r.method = "POST" → r.path = "/login" →
        r.content LoginRequest.reader = .ok ⟨text, password, device⟩ →
        ∃ response events₁ events₂,
          (s.answer fresh₁ r).run Backend.memory false ⟨st₁, none⟩ =
            ⟨.finished response, ⟨st₁, none⟩, false, events₁⟩ ∧
          (s.answer fresh₂ r).run Backend.memory false ⟨st₂, none⟩ =
            ⟨.finished response, ⟨st₂, none⟩, false, events₂⟩) := by
  obtain ⟨hlogin₁, rfl⟩ := Service.loginOn_of_runAlone h₁ hrun₁
  obtain ⟨hlogin₂, rfl⟩ := Service.loginOn_of_runAlone h₂ hrun₂
  refine ⟨rfl, rfl, Service.eq_aborted_iff hsign h₁ hnew₁ hlogin₁,
    Service.eq_aborted_iff hsign h₂ hnew₂ hlogin₂, fun hno₁ hno₂ => ?_⟩
  obtain rfl := Service.eq_loginRefusal hsign h₁ hnew₁ hlogin₁ hno₁
  obtain rfl := Service.eq_loginRefusal hsign h₂ hnew₂ hlogin₂ hno₂
  refine ⟨rfl, rfl, fun r hmethod hpath hform => ?_⟩
  obtain ⟨events₁, hanswer₁⟩ := answer_of_loginOn hmethod hpath hform h₁ hlogin₁
  obtain ⟨events₂, hanswer₂⟩ := answer_of_loginOn hmethod hpath hform h₂ hlogin₂
  exact ⟨_, events₁, events₂, hanswer₁, hanswer₂⟩

/-! ### One user and nobody -/

/-- A user with some stored hash. -/
def ada (hash : String) : User :=
  ⟨(Fresh.numbered 1).userId, ⟨"ada@b.cc"⟩, ⟨hash⟩, (Fresh.numbered 1).now⟩

theorem runAlone_ada {hash : String} {fault : Password.HashError}
    (hparse : Password.Phc.parse hash = .error fault) :
    ∃ events, Service.least.runAlone (.numbered 2) (.login "ada@b.cc" "correct horse" "laptop")
      (.ofUser (ada hash)) =
        ⟨.finished (.error (.ofHashError fault)), ⟨.ofUser (ada hash), none⟩, false, events⟩ := by
  have hst := Store.isConsistent_ofUser (ada hash)
  have hu : (Store.ofUser (ada hash)).users[(ada hash).id]? = some (ada hash) := by
    simp [Store.ofUser]
  have hverify : Service.least.hasher.verify ⟨"correct horse"⟩ (ada hash).passwordHash =
      .error fault := Password.Hasher.verify_of_parse_error hparse
  exact Service.runAlone_of_loginOn hst
    (Service.loginOn_of_verify Service.isUsable_least.signer hst hu Service.takes_ada.device
      Service.takes_ada.email Service.takes_ada.password hverify)

theorem runAlone_nobody : ∃ events, Service.least.runAlone (.numbered 2)
    (.login "ada@b.cc" "correct horse" "laptop") .empty =
      ⟨.finished (.error .invalidCredentials), ⟨.empty, none⟩, false, events⟩ :=
  Service.runAlone_of_loginOn Store.isConsistent_empty
    (Service.loginOn_of_unknown Service.takes_ada.device Service.takes_ada.email
      (Store.userByEmail?_empty _))

/-- A login is refused in the same way where the stored hash of its user is no hash, and where there
is no such user. -/
theorem login_tells_nothing_ada : ∃ (s : Site) (r : Request) (response : Response)
    (events₁ events₂ : List Event), r.method = "POST" ∧ r.path = "/login" ∧
    r.content LoginRequest.reader = .ok ⟨"ada@b.cc", "correct horse", "laptop"⟩ ∧
    (s.answer (.numbered 2) r).run Backend.memory false ⟨.ofUser (ada "no hash"), none⟩ =
      ⟨.finished response, ⟨.ofUser (ada "no hash"), none⟩, false, events₁⟩ ∧
    (s.answer (.numbered 2) r).run Backend.memory false ⟨.empty, none⟩ =
      ⟨.finished response, ⟨.empty, none⟩, false, events₂⟩ := by
  let s : Site := ⟨.least, ⟨"issuer", .edwards, .unusable⟩, { name := "refresh" }⟩
  have hfields : Password.Phc.fields? "no hash" = none := by decide +kernel
  have hparse : Password.Phc.parse "no hash" = .error .wrongPassword := by
    unfold Password.Phc.parse
    rw [hfields]
  obtain ⟨_, hrun₁⟩ := runAlone_ada hparse
  obtain ⟨_, hrun₂⟩ := runAlone_nobody
  obtain ⟨-, -, -, -, htold⟩ := login_tells_nothing s Service.isUsable_least.signer
    (Store.isConsistent_ofUser _) Store.isConsistent_empty
    (Store.tokens_eq_none_iff.1 (Store.tokens_ofUser _ _)) (by simp [Store.empty]) hrun₁ hrun₂
  have hno₁ : ¬ (Store.ofUser (ada "no hash")).AbortsLogin "ada@b.cc" "correct horse" "laptop" := by
    rintro ⟨_, email, w, _, -, he, hw, -, fields, hsome, -⟩
    cases Service.takes_ada.email.symm.trans he
    cases (Store.userByEmail?_ofUser (ada "no hash")).symm.trans hw
    cases hfields.symm.trans hsome
  have hno₂ : ¬ Store.empty.AbortsLogin "ada@b.cc" "correct horse" "laptop" := by
    rintro ⟨_, email, w, _, -, -, hw, -⟩
    cases (Store.userByEmail?_empty email).symm.trans hw
  obtain ⟨-, -, hanswer⟩ := htold hno₁ hno₂
  obtain ⟨response, events₁, events₂, hanswer₁, hanswer₂⟩ := hanswer .loginOfAda rfl
    Request.path_loginOfAda Request.content_loginOfAda
  exact ⟨s, .loginOfAda, response, events₁, events₂, rfl, Request.path_loginOfAda,
    Request.content_loginOfAda, hanswer₁, hanswer₂⟩

/-- A login tells a user apart from nobody, if the stored hash of the user has 2 ^ 32 - 1 lanes. -/
theorem login_tells_uncountable : ∃ (hash : String) (events₁ events₂ : List Event),
    Service.least.runAlone (.numbered 2) (.login "ada@b.cc" "correct horse" "laptop")
      (.ofUser (ada hash)) =
        ⟨.finished (.error (.ofHashError .aborted)), ⟨.ofUser (ada hash), none⟩, false, events₁⟩ ∧
    Service.least.runAlone (.numbered 2) (.login "ada@b.cc" "correct horse" "laptop") .empty =
      ⟨.finished (.error .invalidCredentials), ⟨.empty, none⟩, false, events₂⟩ := by
  let hash := "$argon2id$v=19$m=8,t=1,p=4294967295$MDEyMzQ1Njc4OWFiY2RlZg$" ++
    "kttRiy0dEibXVQnuYLwG/e6OzNfPEhsVwFU2wpnW/Tg"
  have hcost : (Password.Phc.fields? hash).map (Password.Phc.costFault? ·.parameters.cost) =
      some (some .uncountable) := by
    decide +kernel
  have huncountable : Password.Phc.IsUncountable hash := Option.map_eq_some_iff.1 hcost
  obtain ⟨events₁, hrun₁⟩ := runAlone_ada (Password.Phc.parse_eq_aborted_iff.2 huncountable)
  obtain ⟨events₂, hrun₂⟩ := runAlone_nobody
  exact ⟨hash, events₁, events₂, hrun₁, hrun₂⟩

end Http.Site

end SessionAuth
