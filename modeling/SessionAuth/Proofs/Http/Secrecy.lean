import SessionAuth.Http.Site
import SessionAuth.Proofs.Service.Means
import SessionAuth.Proofs.Service.Scenarios

/-!
# Details of failures stay in the server

A request is answered with the same response in any two runs in which the store, the hasher and the
signer do the same, but for the details of their failures (`Site.details_withheld`). The site is
taken over any hasher and signer (`Site.answerWith`); with its own ones it is the site itself.
-/

namespace SessionAuth

open Operation

theorem Service.logout_alike (tokenId : String) :
    (Service.logout tokenId).Alike (Service.logout tokenId) := by
  unfold Service.logout
  cases RefreshTokenId.parse? tokenId with
  | none => exact alike_return _
  | some id =>
    refine (alike_ask _).bind fun deleted => ?_
    exact alike_ite (fun _ => alike_log _) fun _ => alike_return _

namespace Http.Site

variable {s : Site} {fresh : Fresh} {r : Request} {m m' : Means}

/-! ### The site over any hasher and signer -/

/-- Answers a request for a route by one of its methods. -/
def serveWith (s : Site) (m : Means) (fresh : Fresh) (r : Request) : Route → Operation Response
  | .signUp => withContent r SignUpRequest.reader fun form => do
    if !Bytes.equalInConstantTime (Text.utf8 form.password) (Text.utf8 form.confirmation) then
      throw (.passwordValidation "Passwords do not match")
    let user ← m.signUp fresh form.email form.password
    let body : SignUpResponse := ⟨user.id.text, user.email.text⟩
    return .json 200 body.toJson
  | .login => withContent r LoginRequest.reader fun form => do
    let session ← m.login fresh form.email form.password form.fingerprint
    demand (s.handOut session)
  | .refresh => withContent r RefreshRequest.reader fun form => do
    let tokenId ← demand (s.refreshToken r)
    let session ← m.refresh fresh tokenId form.fingerprint
    demand (s.handOut session)
  | .logout => s.logout r
  | .me => s.me fresh.now r

/-- Answers a request. -/
def answerWith (s : Site) (m : Means) (fresh : Fresh) (r : Request) : Program Response :=
  match Route.ofPath? r.path with
  | none => .done (.bare 404)
  | some route =>
    if route.methods.contains r.method then
      (conclude (s.serveWith m fresh r route)).bind fun response =>
        .done (if r.method = "HEAD" then { response with body := none } else response)
    else
      (conclude (s.refuse fresh r route)).bind fun response =>
        .done (response.withHeader "allow" (Text.utf8 (",".intercalate route.methods)))

theorem serveWith_of (s : Site) (fresh : Fresh) (r : Request) (route : Route) :
    s.serveWith (.of s.service) fresh r route = s.serve fresh r route := by
  cases route with
  | signUp =>
    simp only [serveWith, Means.signUp_of]
    rfl
  | login =>
    simp only [serveWith, Means.login_of]
    rfl
  | refresh =>
    simp only [serveWith, Means.refresh_of]
    rfl
  | logout | me => rfl

/-- With its own hasher and signer it is the site. -/
theorem answerWith_of (s : Site) (fresh : Fresh) (r : Request) :
    s.answerWith (.of s.service) fresh r = s.answer fresh r := by
  unfold answerWith answer
  cases Route.ofPath? r.path with
  | none => rfl
  | some route =>
    dsimp only
    rw [serveWith_of]

/-! ### What is told -/

theorem withContent_alike {α : Type} {reader : Json.Reader α} {f g : α → Operation Response}
    (h : ∀ a, (f a).Alike (g a)) : (withContent r reader f).Alike (withContent r reader g) := by
  unfold withContent
  cases r.content reader with
  | error rejection => exact alike_return _
  | ok form => exact h form

theorem serveWith_alike (h : m.Alike m') (route : Route) :
    (s.serveWith m fresh r route).Alike (s.serveWith m' fresh r route) := by
  cases route with
  | signUp =>
    refine withContent_alike fun form => alike_ite (fun _ => alike_throw _) fun _ => ?_
    exact (h.signUp form.email form.password).bind fun user => alike_return _
  | login =>
    refine withContent_alike fun form => ?_
    exact (h.login form.email form.password form.fingerprint).bind fun _ => alike_demand_refl _
  | refresh =>
    refine withContent_alike fun form => (alike_demand_refl _).bind fun tokenId => ?_
    exact (h.refresh tokenId form.fingerprint).bind fun _ => alike_demand_refl _
  | logout =>
    refine (alike_demand_refl _).bind fun tokenId => (Service.logout_alike tokenId).bind fun _ => ?_
    exact (alike_demand_refl _).bind fun _ => alike_return _
  | me => exact (alike_demand_refl _).bind fun _ => alike_return _

theorem refuse_alike (route : Route) :
    (s.refuse fresh r route).Alike (s.refuse fresh r route) := by
  unfold refuse
  refine alike_ite (fun _ => ?_) fun _ => alike_return _
  cases s.bearer fresh.now r with
  | error f => exact alike_throw f
  | ok claims => exact alike_return _

/-- Operations that are alike are concluded with the same response. -/
theorem conclude_alike {o o' : Operation Response} (h : o.Alike o') :
    (conclude o).Alike Eq (conclude o') := by
  refine Program.Alike.bind h ?_
  rintro _ _ (response | halike)
  · exact .done rfl
  · exact .log (.done (congrArg Response.ofProblem halike.problem_eq))

theorem answerWith_alike (h : m.Alike m') :
    (s.answerWith m fresh r).Alike Eq (s.answerWith m' fresh r) := by
  unfold answerWith
  cases Route.ofPath? r.path with
  | none => exact .done rfl
  | some route =>
    dsimp only
    split
    · exact (conclude_alike (serveWith_alike h route)).bind fun _ _ hsame => .done (by rw [hsame])
    · exact (conclude_alike (refuse_alike route)).bind fun _ _ hsame => .done (by rw [hsame])

/-- A request is answered with the same response, its fields and its body included, in any two runs
in which the store, the hasher and the signer do the same but for the details of failures of the
server. The site is any hasher's and signer's, its own ones included; and where nobody has to wait,
there is a response. -/
theorem details_withheld (hm : m.Alike m') (s : Site) (fresh : Fresh) (r : Request) {σ τ : Type}
    (b : Backend σ) (d : Backend τ) (st : σ) (st' : τ) :
    s.answerWith (.of s.service) fresh r = s.answer fresh r ∧
    (b.IsPrompt → ∃ response,
      ((s.answerWith m fresh r).run b false st).rest = .finished response) ∧
    ∀ response response',
      ((s.answerWith m fresh r).run b false st).rest = .finished response →
      ((s.answerWith m' fresh r).run d false st').rest = .finished response' →
      Program.AnsweredAlike ((s.answerWith m fresh r).record b false st)
        ((s.answerWith m' fresh r).record d false st') →
      response = response' :=
  ⟨answerWith_of s fresh r, fun hb => Program.exists_finished hb _ false st,
    fun _ _ hfirst hsecond => (answerWith_alike hm).of_finished hfirst hsecond⟩

/-! ### Hashers that fail -/

/-- A store in which there is nothing, and to which nothing can be written. -/
def barren (detail : String) : Backend Unit where
  serve _ c st := some ⟨(Backend.nothing? c).elim (.error (.storeUnavailable detail)) .ok, st, []⟩

theorem isPrompt_barren (detail : String) : (barren detail).IsPrompt := fun _ _ _ => rfl

theorem answer_of_gives_barren {detail : String} {c : Call} {x : Except Failure c.Answer}
    (h : (barren detail).Gives ⟨c, x⟩) :
    x = (Backend.nothing? c).elim (.error (.storeUnavailable detail)) .ok := by
  cases h with
  | reply h =>
    cases h
    rfl

/-- Two such stores answer alike. -/
theorem answeredAlike_barren {α β : Type} (detail detail' : String) (p : Program α)
    (q : Program β) :
    Program.AnsweredAlike (p.record (barren detail) false ()) (q.record (barren detail') false ())
    := by
  obtain ⟨-, hgives⟩ := Program.told_record (barren detail) p false ()
  obtain ⟨-, hgives'⟩ := Program.told_record (barren detail') q false ()
  intro n c x y hx hy
  rw [answer_of_gives_barren (hgives _ (List.mem_of_getElem? hx)),
    answer_of_gives_barren (hgives' _ (List.mem_of_getElem? hy))]
  cases Backend.nothing? c with
  | none => exact .inr (.error (.storeUnavailable _ _))
  | some a => exact .inr (.ok a)

/-- The means of a service, with a hasher that fails. -/
def failing (detail : String) : Means :=
  { Means.of .least with hash := fun _ _ => .error (.failed detail) }

theorem alike_failing (detail detail' : String) : (failing detail).Alike (failing detail') where
  hash _ _ := .error (.hashing _ _)
  verify _ _ := .refl _
  sign _ _ _ := .refl _
  policy := rfl

/-- A sign-up at which the hasher fails is answered with 500, and without the reason. -/
theorem details_withheld_hashing : ∃ (s : Site) (r : Request) (response : Response),
    r.path = "/signup" ∧ (failing "no entropy").Alike (failing "/dev/urandom: not found") ∧
    ((s.answerWith (failing "no entropy") (.numbered 1) r).run (barren "down") false ()).rest =
      .finished response ∧
    ((s.answerWith (failing "/dev/urandom: not found") (.numbered 1) r).run
      (barren "10.0.0.7: refused") false ()).rest = .finished response ∧
    response.status = 500 := by
  let s : Site := ⟨.least, ⟨"issuer", .edwards, .unusable⟩, { name := "refresh_token" }⟩
  let r : Request := ⟨"POST", "/signup", [⟨"content-type", Text.utf8 "application/json"⟩],
    Text.utf8 "[\"ada@b.cc\",\"correct horse\",\"correct horse\"]"⟩
  have hpath : r.path = "/signup" := by decide +kernel
  let m := failing "no entropy"
  let m' := failing "/dev/urandom: not found"
  obtain ⟨-, hends, hsame⟩ := details_withheld (alike_failing "no entropy" "/dev/urandom: not found")
    s (.numbered 1) r (barren "down") (barren "10.0.0.7: refused") () ()
  obtain ⟨response, hresponse⟩ := hends (isPrompt_barren _)
  obtain ⟨response', hresponse'⟩ :=
    Program.exists_finished (isPrompt_barren "10.0.0.7: refused") (s.answerWith m' (.numbered 1) r)
      false ()
  have hstatus : (match ((s.answerWith m (.numbered 1) r).run (barren "down") false ()).rest with
      | .finished response => response.status
      | .pending _ _ => 0) = 500 := by decide +kernel
  cases hsame response response' hresponse hresponse' (answeredAlike_barren _ _ _ _)
  rw [hresponse] at hstatus
  exact ⟨s, r, response, hpath, alike_failing _ _, hresponse, hresponse', hstatus⟩

end Http.Site

end SessionAuth
