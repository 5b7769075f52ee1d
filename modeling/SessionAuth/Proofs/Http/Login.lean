import SessionAuth.Http.Site
import SessionAuth.Proofs.Http.Cookie
import SessionAuth.Proofs.Service.Atomicity
import SessionAuth.Proofs.Service.Exclusion

/-!
# Logins over HTTP

The response to a login is built after its transaction has been committed. If the cookie that was
configured can be sent, that last step never fails, and a login that is not answered with 200 has
changed nothing. If it cannot be sent, no login is answered with 200, but those that the service
lets through have changed the store.
-/

namespace SessionAuth

/-- Nothing comes after the result. -/
theorem Program.bind_done {α : Type} (p : Program α) : p.bind .done = p := by
  induction p with
  | done a => rfl
  | log e next ih => exact congrArg (Program.log e) ih
  | call c next ih => exact congrArg (Program.call c) (funext ih)

namespace Http

variable {s : Site} {fresh : Fresh} {r : Request} {v w : Vault} {i j : Bool}
  {history : List Exchange} {st : Store} {session : Session}

/-! ### Requests -/

namespace Request

/-- A text of JSON that is posted. -/
def post (target body : String) : Request :=
  ⟨"POST", target, [⟨"content-type", Text.utf8 "application/json"⟩], Text.utf8 body⟩

/-- A login with what `Service.takes_ada` says is taken. -/
def loginOfAda : Request := post "/login" "[\"ada@b.cc\",\"correct horse\",\"laptop\"]"

theorem path_loginOfAda : loginOfAda.path = "/login" := by decide +kernel

theorem content_loginOfAda :
    loginOfAda.content LoginRequest.reader = .ok ⟨"ada@b.cc", "correct horse", "laptop"⟩ := by
  decide +kernel

end Request

/-! ### Responses -/

/-- The response to the outcome of an operation. -/
def Response.ofResult : Except Failure Response → Response
  | .ok response => response
  | .error f => .ofProblem f.problem

/-- No problem is told with the status of a success. -/
theorem Response.status_ofProblem_ne (p : Problem) : (ofProblem p).status ≠ 200 := by
  have hkind : p.kind.status ≠ 200 := by cases p.kind <;> decide
  exact hkind

theorem Rejection.status_ne (rejection : Rejection) : rejection.status ≠ 200 := by
  cases rejection <;> decide

namespace Site

/-- A request for a route by one of its methods is answered by the operation of the route. -/
theorem answer_eq {route : Route} (hroute : Route.ofPath? r.path = some route)
    (hmethod : route.methods.contains r.method = true) (hhead : r.method ≠ "HEAD") :
    s.answer fresh r = conclude (s.serve fresh r route) := by
  unfold answer
  rw [hroute]
  dsimp only
  rw [if_pos hmethod]
  simp only [if_neg hhead]
  exact Program.bind_done _

/-- What is posted to a route is answered by its operation, unless the route tells about a token. -/
theorem answer_post (route : Route) (hroute : route ≠ .me) (hmethod : r.method = "POST")
    (hpath : r.path = route.path) : s.answer fresh r = conclude (s.serve fresh r route) := by
  have hof : Route.ofPath? r.path = some route := by
    rw [hpath]
    cases route <;> decide
  have hallowed : route.methods.contains r.method = true := by
    rw [hmethod]
    cases route with
    | me => exact absurd rfl hroute
    | _ => decide
  have hhead : r.method ≠ "HEAD" := by
    rw [hmethod]
    decide
  exact answer_eq hof hallowed hhead

/-- The response is the outcome of the operation. -/
theorem conclude_goes {o : Operation Response} {x : Except Failure Response}
    (h : o.run.Goes v i history x w j) : (conclude o).Goes v i history (.ofResult x) w j := by
  have hbind : (conclude o).Goes v i (history ++ []) (.ofResult x) w j := by
    refine h.bind ?_
    cases x with
    | ok response => exact .done _ _ _
    | error f => exact .log _ (.done _ _ _)
  rw [List.append_nil] at hbind
  exact hbind

/-- Whether a session can be handed out depends on the configured cookie alone. -/
theorem handOut_eq (s : Site) (session : Session) :
    (s.cookie.IsSendable ∧
      ∃ response, s.handOut session = .ok response ∧ response.status = 200) ∨
      ¬ s.cookie.IsSendable ∧ s.handOut session = .error (.internal Cookie.headerError) := by
  have hset := s.cookie.isSome_setValue? session.tokenId.uuid session.lifetime.toNat
  have hid : session.tokenId.uuid.text = session.tokenId.text := rfl
  rw [hid] at hset
  unfold handOut cookieField
  cases hvalue : s.cookie.setValue? session.tokenId.text session.lifetime.toNat with
  | none =>
    rw [hvalue] at hset
    exact .inr ⟨fun hsend => Bool.false_ne_true (hset.2 hsend), rfl⟩
  | some value =>
    rw [hvalue] at hset
    exact .inl ⟨hset.1 rfl, _, rfl, rfl⟩

/-! ### Logins -/

/-- A login of the service runs to its end, and changes nothing if it fails. -/
theorem exists_login_goes (s : Service) (fresh : Fresh) (text password device : String)
    (hst : st.IsConsistent) : ∃ history x w,
      (s.login fresh text password device).run.Goes ⟨st, none⟩ false history x w false ∧
        ∀ e, x = .error e → w = ⟨st, none⟩ := by
  obtain ⟨history, x, w, j, hgoes, rfl, -⟩ :=
    (Service.login_follows s fresh text password device).exists_goes
      (fun h => h.of_begin.1) (v := ⟨st, none⟩) rfl
  refine ⟨history, x, w, hgoes, fun e he => ?_⟩
  subst he
  exact Task.eq_of_login_goes hst hgoes

/-- What the service lets through is handed out, unless the cookie cannot be sent. -/
theorem login_goes {form : LoginRequest} {x : Except Failure Session}
    (hform : r.content LoginRequest.reader = .ok form)
    (h : (s.service.login fresh form.email form.password form.fingerprint).run.Goes v i history x w
      j) : (s.login fresh r).run.Goes v i history (x >>= s.handOut) w j := by
  unfold login withContent
  rw [hform]
  cases x with
  | error e => exact Operation.goes_error_bind _ h
  | ok session =>
    have hbind := Operation.goes_bind h
      (f := fun session => Operation.demand (s.handOut session)) (.done _ _ _)
    rw [List.append_nil] at hbind
    have hout : (Except.ok session >>= s.handOut) = s.handOut session := pure_bind session s.handOut
    rw [hout]
    exact hbind

/-- A login over HTTP is answered with the outcome of the operation. -/
theorem answer_login_goes {x : Except Failure Response} (hmethod : r.method = "POST")
    (hpath : r.path = "/login") (h : (s.login fresh r).run.Goes v i history x w j) :
    (s.answer fresh r).Goes v i history (.ofResult x) w j := by
  rw [answer_post .login nofun hmethod hpath]
  exact conclude_goes h

/-- A login that does not answer with 200 changes nothing, if the configured cookie can be sent. If
it cannot, no login answers with 200; what the service lets through stays in the store all the same,
and all else changes nothing. -/
theorem login_changes_nothing (s : Site) (fresh : Fresh) (hmethod : r.method = "POST")
    (hpath : r.path = "/login") (hst : st.IsConsistent) : ∃ response v events,
      (s.answer fresh r).run Backend.memory false ⟨st, none⟩ =
        ⟨.finished response, v, false, events⟩ ∧
      (s.cookie.IsSendable → response.status ≠ 200 → v = ⟨st, none⟩) ∧
      (¬ s.cookie.IsSendable → response.status ≠ 200 ∧
        (v = ⟨st, none⟩ ∨ ∃ form history session, r.content LoginRequest.reader = .ok form ∧
          (s.service.login fresh form.email form.password form.fingerprint).run.Goes ⟨st, none⟩
            false history (.ok session) v false)) := by
  cases hform : r.content LoginRequest.reader with
  | error rejection =>
    have hlogin : (s.login fresh r).run.Goes ⟨st, none⟩ false []
        (.ok (.bare rejection.status)) ⟨st, none⟩ false := by
      simp only [login, withContent, hform]
      exact .done _ _ _
    obtain ⟨events, hrun⟩ := (answer_login_goes hmethod hpath hlogin).run_eq
    exact ⟨_, _, events, hrun, fun _ _ => rfl, fun _ => ⟨rejection.status_ne, .inl rfl⟩⟩
  | ok form =>
    obtain ⟨history, x, w, hgoes, hfailed⟩ :=
      exists_login_goes s.service fresh form.email form.password form.fingerprint hst
    have hserve : (s.login fresh r).run.Goes ⟨st, none⟩ false history (x >>= s.handOut) w
        false := login_goes hform hgoes
    obtain ⟨events, hrun⟩ := (answer_login_goes hmethod hpath hserve).run_eq
    refine ⟨_, w, events, hrun, ?_⟩
    cases x with
    | error e =>
      have hw := hfailed e rfl
      exact ⟨fun _ _ => hw, fun _ => ⟨Response.status_ofProblem_ne _, .inl hw⟩⟩
    | ok session =>
      have hbind : (Except.ok session >>= s.handOut) = s.handOut session :=
        pure_bind session s.handOut
      rw [hbind]
      rcases handOut_eq s session with ⟨hsend, response, hout, hok⟩ | ⟨hnot, hout⟩
      · rw [hout]
        exact ⟨fun _ hstatus => absurd hok hstatus, fun hnot => absurd hsend hnot⟩
      · rw [hout]
        exact ⟨fun hsend => absurd hsend hnot, fun _ =>
          ⟨Response.status_ofProblem_ne _, .inr ⟨form, history, session, rfl, hgoes⟩⟩⟩

/-- The name of the cookie has a line break: the login of a user without tokens is not answered with
200, and leaves a token. -/
theorem login_changes_nothing_unsendable : ∃ (s : Site) (st : Store) (fresh : Fresh) (r : Request)
    (response : Response) (v : Vault) (events : List Event),
    r.method = "POST" ∧ r.path = "/login" ∧ st.IsConsistent ∧ ¬ s.cookie.IsSendable ∧
    (s.answer fresh r).run Backend.memory false ⟨st, none⟩ =
      ⟨.finished response, v, false, events⟩ ∧
    response.status ≠ 200 ∧ st.tokens[fresh.tokenId]? = none ∧
    fresh.tokenId ∈ v.store.tokens := by
  let s : Site := ⟨.least, ⟨"issuer", .edwards, .unusable⟩, { name := "bad\nname" }⟩
  let u := Service.least.newUser (.numbered 1) ⟨"ada@b.cc"⟩ ⟨"correct horse"⟩
  let token := Service.least.newToken (.numbered 2) u.id ⟨"laptop"⟩
  have hst : (Store.ofUser u).IsConsistent := Store.isConsistent_ofUser u
  have hname : (Header.value? s.cookie.name).isSome = false := by decide +kernel
  have hsend : ¬ s.cookie.IsSendable := fun h => Bool.false_ne_true (hname.symm.trans h.1)
  obtain ⟨access, ha⟩ := Service.least.accessFor_newUser Service.isUsable_least
    Service.takes_ada.password (Fresh.length_salt_numbered 1) (.numbered 2) ⟨"ada@b.cc"⟩
  have hadd : (Store.ofUser u).addToken token = .ok ((Store.ofUser u).putToken token) :=
    Store.addToken_ofUser rfl
  have hlogin := Service.login_goes Service.takes_ada.device Service.takes_ada.email
    (Store.userByEmail?_ofUser u) ha (Store.length_tokensOf_ofUser u (Nat.le_refl 1)) hadd
  have hserve : (s.login (.numbered 2) .loginOfAda).run.Goes ⟨.ofUser u, none⟩ false _ _ _ false :=
    login_goes Request.content_loginOfAda hlogin
  obtain ⟨_, hrun⟩ := (answer_login_goes rfl Request.path_loginOfAda hserve).run_eq
  obtain ⟨response, v, events, hrun', -, hfailed⟩ :=
    login_changes_nothing s (.numbered 2) rfl Request.path_loginOfAda hst
  refine ⟨s, .ofUser u, .numbered 2, .loginOfAda, response, v, events, rfl,
    Request.path_loginOfAda, hst, hsend, hrun', (hfailed hsend).1, Store.tokens_ofUser u _, ?_⟩
  rw [hrun'] at hrun
  have hv : v = ⟨(Store.ofUser u).putToken token, none⟩ := congrArg (·.state) hrun
  rw [hv]
  simp [Store.putToken, token, Service.newToken, RefreshToken.Policy.issue]

end Site

end Http

end SessionAuth
