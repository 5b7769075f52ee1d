import SessionAuth.Proofs.Http.Login
import SessionAuth.Proofs.Service.Outage

/-!
# Answers while the database fails

Faults of the database are sorted twice: into problems (`Database.Fault.problem`), where an outage
is a service that is unavailable, and into the failures of calls (`Backend.failureOf`), where it is
not told from a fault of the program. Requests are answered by the second
(`Http.Site.faults_answered`), so the two agree on everything but outages and duplicate keys.
-/

namespace SessionAuth

/-! ### Faults -/

/-- The key of a new row is there already. -/
abbrev Database.Fault.duplicate : Database.Fault := .reported (some duplicateCode)

/-- The database cannot be reached or cannot go on. -/
def Database.Fault.IsOutage (fault : Database.Fault) : Prop :=
  fault = .poolTimedOut ∨ fault = .poolClosed ∨ fault = .connection ∨
    ∃ code ∈ exhaustedCodes ++ stoppedCodes, fault = .reported (some code)

/-- Whether a call creates a user. -/
def Call.createsUser : Call → Bool
  | .ask (.createUser _) => true
  | _ => false

/-- The three kinds of problems that faults are. -/
theorem Database.Fault.kind_problem (fault : Database.Fault) :
    fault.IsOutage ∧ fault ≠ duplicate ∧ fault.problem.kind = .serviceUnavailable ∨
    ¬ fault.IsOutage ∧ fault = duplicate ∧ fault.problem.kind = .conflict ∨
    ¬ fault.IsOutage ∧ fault ≠ duplicate ∧ fault.problem.kind = .internalServerError := by
  cases fault with
  | poolTimedOut | poolClosed | connection => simp [IsOutage, problem, summary]
  | workerCrashed | rowNotFound | columnNotFound | protocol | other =>
    simp [IsOutage, problem, summary]
  | reported code? =>
    cases code? with
    | none => simp [IsOutage, problem, summary]
    | some code =>
      have hdup : duplicateCode ∉ exhaustedCodes ++ stoppedCodes := by decide
      by_cases hcode : code = duplicateCode
      · subst hcode
        simp only [List.mem_append, not_or] at hdup
        simp [IsOutage, problem, summary, hdup]
      · by_cases hexhausted : code ∈ exhaustedCodes
        · simp [IsOutage, problem, summary, hcode, hexhausted]
        · by_cases hstopped : code ∈ stoppedCodes
          · simp [IsOutage, problem, summary, hcode, hexhausted, hstopped]
          · simp [IsOutage, problem, summary, hcode, hexhausted, hstopped]

theorem Backend.failureOf_of_ne {fault : Database.Fault} (h : fault ≠ .duplicate) (c : Call) :
    failureOf fault c = .database fault := by
  unfold failureOf
  split
  · exact if_neg h
  · rfl

/-- Calls fail with a conflict when they create a user whose key is there, and else with a fault of
the server. -/
theorem Backend.kind_failureOf (fault : Database.Fault) (c : Call) :
    (failureOf fault c).kind =
      if c.createsUser ∧ fault = .duplicate then .conflict else .internalServerError := by
  cases c with
  | ask q =>
    cases q with
    | createUser u =>
      by_cases hfault : fault = .duplicate
      · simp [failureOf, Call.createsUser, Failure.kind, hfault]
      · simp [failureOf, Call.createsUser, Failure.kind, hfault]
    | _ => rfl
  | begin | commit | rollback => rfl

/-- A call is answered with the status of its fault, unless that is an outage, or a key that is
there where no user is created. -/
theorem Backend.status_failureOf_eq_iff (fault : Database.Fault) (c : Call) :
    (failureOf fault c).kind.status = fault.problem.kind.status ↔
      ¬ fault.IsOutage ∧ (fault = .duplicate → c.createsUser) := by
  rw [kind_failureOf]
  rcases fault.kind_problem with ⟨hout, hdup, hkind⟩ | ⟨hout, hdup, hkind⟩ | ⟨hout, hdup, hkind⟩
  · simp [hout, hdup, hkind, Problem.Kind.status]
  · subst hdup
    cases hc : c.createsUser <;> simp [hout, hkind, Problem.Kind.status]
  · simp [hout, hdup, hkind, Problem.Kind.status]

/-- Only the route that tells the bearer about the token may be asked for its fields alone. -/
theorem Http.Route.eq_me_of_head {route : Http.Route} (h : route.methods.contains "HEAD" = true) :
    route = .me := by
  cases route with
  | me => rfl
  | signUp | login | refresh | logout => exact absurd h (by decide)

namespace Http.Site

open Operation (follows_bind)

variable {s : Site} {fresh : Fresh} {r : Request} {history : List Exchange}

/-- The operation behind a request has ended, and if it failed, with a failure of which `P` holds.
Nothing was called where there was none. -/
def Serves (s : Service) (fresh : Fresh) (history : List Exchange) (P : Failure → Prop) : Prop :=
  history = [] ∨ ∃ command result, s.Ends fresh command history result ∧
    ∀ e, result = .error e → P e

theorem Serves.mono {s : Service} {P Q : Failure → Prop} (h : Serves s fresh history P)
    (hpq : ∀ e, P e → Q e) : Serves s fresh history Q := by
  rcases h with hnil | ⟨command, result, hends, hp⟩
  · exact .inl hnil
  · exact .inr ⟨command, result, hends, fun e he => hpq e (hp e he)⟩

/-- What holds of a failure that is on record. -/
theorem Serves.of_failure {s : Service} {P : Failure → Prop} (h : Serves s fresh history P)
    {x : Exchange} {e : Failure} (hx : x ∈ history) (hc : x.call ≠ .rollback)
    (he : x.answer = .error e) : P e := by
  rcases h with rfl | ⟨command, result, hends, hp⟩
  · cases hx
  · exact hp e (hends.eq_of_failure hx hc he)

theorem serves_bind {s : Service} {command : Command} {β : Type} {o : Operation β}
    {g : β → Outcome} (h : o.run.Follows (s.Calls fresh command)
      (fun isInside history y => isInside = false ∧ s.Ends fresh command history (y.map g))
      false []) {k : β → Operation Response} (hk : ∀ b, ∃ x, (k b).run = .done x) :
    (o >>= k).run.Follows
      (fun isInside history c => ∃ command, s.Calls fresh command isInside history c)
      (fun _ history x => Serves s fresh history fun e => x = .error e) false [] := by
  refine follows_bind (h.mono (fun _ _ _ h => ⟨command, h⟩) ?_)
  rintro isInside history (e | b) ⟨-, hends⟩
  · exact .inr ⟨command, _, hends, fun _ h => by cases h; rfl⟩
  · obtain ⟨x, hx⟩ := hk b
    dsimp only
    rw [hx]
    exact .done (.inr ⟨command, _, hends, nofun⟩)

/-- A body that is turned away is answered at once. -/
theorem withContent_follows {α : Type} {r : Request} {reader : Json.Reader α}
    {next : α → Operation Response} {calls : Bool → List Exchange → Call → Prop}
    {ends : Bool → List Exchange → Except Failure Response → Prop}
    (hrejected : ∀ rejection : Rejection, ends false [] (.ok (.bare rejection.status)))
    (hnext : ∀ content, (next content).run.Follows calls ends false []) :
    (withContent r reader next).run.Follows calls ends false [] := by
  unfold withContent
  cases r.content reader with
  | error rejection => exact .done (hrejected rejection)
  | ok content => exact hnext content

/-- A request for one of the routes of sessions is answered with what its operation ends with. -/
theorem serve_follows (s : Site) (fresh : Fresh) (r : Request) (route : Route) :
    (s.serve fresh r route).run.Follows
      (fun isInside history c => ∃ command, s.service.Calls fresh command isInside history c)
      (fun _ history x => Serves s.service fresh history fun e => x = .error e) false [] := by
  cases route with
  | signUp =>
    refine withContent_follows (fun _ => .inl rfl) fun form => ?_
    split
    · exact .done (.inl rfl)
    · exact serves_bind (s.service.signUp_follows fresh form.email form.password)
        fun _ => ⟨_, rfl⟩
  | login =>
    refine withContent_follows (fun _ => .inl rfl) fun form => ?_
    exact serves_bind (s.service.login_follows fresh form.email form.password form.fingerprint)
      fun _ => ⟨_, rfl⟩
  | refresh =>
    refine withContent_follows (fun _ => .inl rfl) fun form => ?_
    cases s.refreshToken r with
    | error => exact .done (.inl rfl)
    | ok tokenId =>
      rw [Operation.demand_ok_bind]
      exact serves_bind (s.service.refresh_follows fresh tokenId form.fingerprint)
        fun _ => ⟨_, rfl⟩
  | logout =>
    unfold serve logout
    cases s.refreshToken r with
    | error => exact .done (.inl rfl)
    | ok tokenId =>
      rw [Operation.demand_ok_bind]
      refine serves_bind (s.service.logout_follows fresh tokenId) fun _ => ?_
      cases cookieField s.cookie.deleteValue? with
      | error => exact ⟨_, rfl⟩
      | ok => exact ⟨_, rfl⟩
  | me =>
    unfold serve me
    cases s.bearer fresh.now r with
    | error => exact .done (.inl rfl)
    | ok => exact .done (.inl rfl)

theorem conclude_follows {s : Service} {o : Operation Response}
    {calls : Bool → List Exchange → Call → Prop}
    (h : o.run.Follows calls (fun _ history x => Serves s fresh history fun e => x = .error e)
      false []) :
    (conclude o).Follows calls
      (fun _ history response => Serves s fresh history fun e => response = .ofProblem e.problem)
      false [] := by
  refine Program.Follows.bind (h.mono (fun _ _ _ h => h) ?_)
  rintro isInside history (f | response) hserves
  · exact .log (.done (hserves.mono fun e he => by cases he; rfl))
  · exact .done (hserves.mono fun e he => nomatch he)

/-- A request is answered with the problem that the failure of its operation is. -/
theorem answer_follows (s : Site) (fresh : Fresh) (r : Request) :
    (s.answer fresh r).Follows
      (fun isInside history c => ∃ command, s.service.Calls fresh command isInside history c)
      (fun _ history response =>
        Serves s.service fresh history fun e => response = .ofProblem e.problem) false [] := by
  unfold answer
  cases Route.ofPath? r.path with
  | none => exact .done (.inl rfl)
  | some route =>
    dsimp only
    split
    case isTrue hmethod =>
      by_cases hhead : r.method = "HEAD"
      · rw [hhead] at hmethod
        obtain rfl := Route.eq_me_of_head hmethod
        unfold serve me
        cases s.bearer fresh.now r with
        | error => exact .log (.done (.inl rfl))
        | ok => exact .done (.inl rfl)
      · simp only [if_neg hhead]
        exact Program.Follows.bind ((conclude_follows (s.serve_follows fresh r route)).mono
          (fun _ _ _ h => h) fun _ _ _ h => .done h)
    case isFalse =>
      unfold refuse
      split
      · cases s.bearer fresh.now r with
        | error => exact .log (.done (.inl rfl))
        | ok => exact .done (.inl rfl)
      · exact .done (.inl rfl)

/-- A call that meets a fault fails with status 409 if it creates a user whose key is there, and
with 500 else. That is the status of the fault itself, unless it is an outage or another
duplicate key. Whatever else the backend does, a request whose call meets a fault is answered
with the problem that its failure is, if it is answered at all; and it is where nobody has to
wait. Where every call meets one, every request that makes a call is answered, and with 500: an
outage is not told from a fault of the program. -/
theorem faults_answered (s : Site) (fresh : Fresh) (r : Request) {σ : Type} (b : Backend σ)
    (st : σ) :
    (∀ fault c, (Backend.failureOf fault c).kind.status =
      if c.createsUser ∧ fault = .duplicate then 409 else 500) ∧
    (∀ fault c, (Backend.failureOf fault c).kind.status = fault.problem.kind.status ↔
      ¬ fault.IsOutage ∧ (fault = .duplicate → c.createsUser)) ∧
    (b.IsPrompt → ∃ response, ((s.answer fresh r).run b false st).rest = .finished response) ∧
    (∀ response, ((s.answer fresh r).run b false st).rest = .finished response →
      ∀ x ∈ (s.answer fresh r).record b false st, ∀ fault, x.call ≠ .rollback →
        x.answer = .error (Backend.failureOf fault x.call) →
        response = .ofProblem (Backend.failureOf fault x.call).problem) ∧
    ∀ fault, (s.answer fresh r).record (.faulty fault) false st ≠ [] →
      ∃ response, ((s.answer fresh r).run (.faulty fault) false st).rest = .finished response ∧
        response.status = 500 := by
  refine ⟨fun fault c => ?_, Backend.status_failureOf_eq_iff,
    fun hb => Program.exists_finished hb _ false st, ?_, fun fault hrec => ?_⟩
  · rw [Backend.kind_failureOf]
    split
    · rfl
    · rfl
  · intro response hresponse x hx fault hc he
    obtain ⟨j, hserves⟩ := (s.answer_follows fresh r).ends_of_record hresponse
    exact hserves.of_failure hx hc he
  · obtain ⟨response, hresponse⟩ :=
      Program.exists_finished (Backend.isPrompt_faulty fault) (s.answer fresh r) false st
    obtain ⟨x, hx, hc, he⟩ := Service.exists_fault_of_record (s.answer_follows fresh r) hrec
    obtain ⟨j, hserves⟩ := (s.answer_follows fresh r).ends_of_record hresponse
    refine ⟨response, hresponse, ?_⟩
    rw [hserves.of_failure hx hc he]
    rfl

/-- A login over closed connections is answered with 500. -/
theorem faults_answered_closed : ∃ (s : Site) (r : Request) (x : Exchange) (response : Response),
    r.method = "POST" ∧ r.path = "/login" ∧
    x ∈ (s.answer (.numbered 1) r).record .closed false () ∧
    x.answer = .error (.database .poolClosed) ∧
    ((s.answer (.numbered 1) r).run .closed false ()).rest = .finished response ∧
    response = .ofProblem (Failure.database .poolClosed).problem ∧ response.status = 500 ∧
    Database.Fault.poolClosed.problem.kind.status = 503 := by
  let s : Site := ⟨.least, ⟨"issuer", .edwards, .unusable⟩, { name := "refresh_token" }⟩
  let r := Request.loginOfAda
  have hcalls : ((s.answer (.numbered 1) r).record .closed false ()).isEmpty = false := by
    decide +kernel
  have hrec : (s.answer (.numbered 1) r).record .closed false () ≠ [] := by
    rw [← List.isEmpty_eq_false_iff]
    exact hcalls
  obtain ⟨x, hx, hc, he⟩ := Service.exists_fault_of_record (s.answer_follows (.numbered 1) r) hrec
  have hfault : Backend.failureOf .poolClosed x.call = .database .poolClosed :=
    Backend.failureOf_of_ne (by simp) x.call
  obtain ⟨-, -, hends, hanswer, hclosed⟩ :=
    faults_answered s (.numbered 1) r (.closed : Backend Unit) ()
  obtain ⟨response, hresponse⟩ := hends (Backend.isPrompt_faulty .poolClosed)
  have hproblem := hanswer response hresponse x hx .poolClosed hc (by rw [he, hfault])
  rw [hfault] at hproblem
  obtain ⟨response', hresponse', hstatus⟩ := hclosed .poolClosed hrec
  cases hresponse.symm.trans hresponse'
  exact ⟨s, r, x, response, rfl, Request.path_loginOfAda, hx, he, hresponse, hproblem, hstatus,
    rfl⟩

end Http.Site

end SessionAuth
