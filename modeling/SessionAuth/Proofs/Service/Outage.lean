import SessionAuth.Proofs.Service.Record
import SessionAuth.Proofs.Service.Scenarios

/-!
# Operations stop at the first failure

Whatever a backend answers, an operation whose call fails makes no other call and fails with the
failure it was told, in its own words (`Service.stops_at_failure`). Only a login has a transaction
to take back first, and how that goes is of no account. Over a database that is out of reach no
operation that gets to it succeeds.
-/

namespace SessionAuth

/-- A call that was answered with a value. -/
def Exchange.Succeeds (x : Exchange) : Prop := ∃ a, x.answer = .ok a

theorem Exchange.Succeeds.ne_error {x : Exchange} (h : x.Succeeds) (e : Failure) :
    x.answer ≠ .error e := by
  obtain ⟨a, ha⟩ := h
  rw [ha]
  exact fun heq => nomatch heq

/-- Where all others succeeded, what failed is the last. -/
theorem Exchange.eq_last_of_error {history : List Exchange} {x y : Exchange} {e : Failure}
    (hx : x ∈ history ++ [y]) (hall : ∀ z ∈ history, z.Succeeds) (he : x.answer = .error e) :
    x = y := by
  rcases List.mem_append.1 hx with hx | hx
  · exact absurd he ((hall x hx).ne_error e)
  · exact List.mem_singleton.1 hx

/-- Whether a command opens a session with credentials. -/
def Command.IsLogin (command : Command) : Prop :=
  ∃ text password device, command = .login text password device

namespace Service

variable {s : Service} {fresh : Fresh} {command : Command} {isInside : Bool}
  {history : List Exchange} {r : Except Failure Outcome} {text password : String} {f : Fingerprint}
  {x : Exchange} {e : Failure}

/-! ### What has failed before -/

theorem LoginAsks.succeeds {q : Request} (h : LoginAsks s fresh text password f history q) :
    ∀ x ∈ history, x.Succeeds := by
  cases h <;> simp [Exchange.Succeeds]

theorem LoginAsks.call_ne_rollback {q : Request} (h : LoginAsks s fresh text password f history q) :
    ∀ x ∈ history, x.call ≠ .rollback := by
  cases h <;> simp

theorem LoginEnds.succeeds {a : UserId × Session}
    (h : LoginEnds s fresh text password f history (.ok a)) : ∀ x ∈ history, x.Succeeds := by
  cases h with
  | opened _ h => simpa [or_imp, forall_and, Exchange.Succeeds] using h.succeeds

theorem LoginEnds.call_ne_rollback {r : Except Failure (UserId × Session)}
    (h : LoginEnds s fresh text password f history r) : ∀ x ∈ history, x.call ≠ .rollback := by
  cases h with
  | failed h | opened _ h => simpa [or_imp, forall_and] using h.call_ne_rollback
  | malformed | unknown | refused => simp

/-- The inside of a login ends with the failure of its call. -/
theorem LoginEnds.eq_of_failure {r : Except Failure (UserId × Session)}
    (h : LoginEnds s fresh text password f history r) (hx : x ∈ history)
    (he : x.answer = .error e) : r = .error e := by
  cases h with
  | @failed history q e' h =>
    cases Exchange.eq_last_of_error hx h.succeeds he
    cases he
    rfl
  | malformed => cases hx
  | unknown | refused =>
    cases List.mem_singleton.1 hx
    cases he
  | opened ha h =>
    exact absurd he ((LoginEnds.succeeds (.opened ha h) x hx).ne_error e)

/-- Only a rollback is called after a failure. -/
theorem Calls.succeeds {c : Call} (h : s.Calls fresh command isInside history c)
    (hc : c ≠ .rollback) : ∀ x ∈ history, x.Succeeds := by
  cases h with
  | within _ h | commit _ h => simpa [Exchange.Succeeds] using h.succeeds
  | rollback => exact absurd rfl hc
  | findEmail | createUser | begin | find | redeem | findOwner | renew | revoke | cleanUp =>
    simp [Exchange.Succeeds, claim]

/-- Nothing is called after a rollback. -/
theorem Calls.call_ne_rollback {c : Call} (h : s.Calls fresh command isInside history c) :
    ∀ x ∈ history, x.call ≠ .rollback := by
  cases h with
  | within _ h | commit _ h | rollback _ h => simpa using h.call_ne_rollback
  | findEmail | createUser | begin | find | redeem | findOwner | renew | revoke | cleanUp =>
    simp [claim]

theorem Calls.isLogin_of_rollback (h : s.Calls fresh command isInside history .rollback) :
    command.IsLogin := by
  cases h with
  | rollback => exact ⟨_, _, _, rfl⟩

/-- An operation ends with the failure of its call, if it is not a rollback. -/
theorem Ends.eq_of_failure (h : s.Ends fresh command history r) (hx : x ∈ history)
    (hc : x.call ≠ .rollback) (he : x.answer = .error e) : r = .error e := by
  have hno : (∀ x ∈ history, x.Succeeds) → r = .error e := fun hall =>
    absurd he ((hall x hx).ne_error e)
  cases h with
  | @failed command history c e' h =>
    have hcall : c ≠ .rollback := by
      rintro rfl
      nomatch h
    cases Exchange.eq_last_of_error hx (h.succeeds hcall) he
    cases he
    rfl
  | committed _ h => exact hno (by simpa [or_imp, forall_and, Exchange.Succeeds] using h.succeeds)
  | @uncommitted _ _ _ _ history _ e' _ h =>
    have hall : ∀ z ∈ ⟨.begin, .ok ()⟩ :: history, z.Succeeds := by
      simpa [Exchange.Succeeds] using h.succeeds
    cases Exchange.eq_last_of_error hx hall he
    cases he
    rfl
  | rolledBack _ h =>
    rcases List.mem_append.1 hx with hx | hx
    · rcases List.mem_cons.1 hx with rfl | hx
      · cases he
      · cases h.eq_of_failure hx he
        rfl
    · cases List.mem_singleton.1 hx
      exact absurd rfl hc
  | signedUp h =>
    exact hno (by simpa [or_imp, forall_and, Exchange.Succeeds] using h.succeeds (by simp))
  | invalidEmail | taken | invalidPassword | invalidDevice | unreadable | missing | lost | foreign
  | expired | orphaned | unsigned | renewed | unnamed | revoked | cleanedUp =>
    exact hno (by simp [Exchange.Succeeds, claim])

/-! ### Runs -/

/-- The first call of an operation is neither a rollback nor the creation of a user. -/
theorem Calls.failureOf_eq {c : Call} (h : s.Calls fresh command isInside [] c)
    (fault : Database.Fault) : c ≠ .rollback ∧ Backend.failureOf fault c = .database fault := by
  cases h <;> exact ⟨by simp, rfl⟩

theorem eq_of_failure_of_run {σ : Type} {b : Backend σ} {st : σ}
    (hr : ((s.perform fresh command).run.run b false st).rest = .finished r)
    (hx : x ∈ (s.perform fresh command).run.record b false st) (hc : x.call ≠ .rollback)
    (he : x.answer = .error e) : r = .error e := by
  obtain ⟨j, -, hends⟩ := (perform_follows s fresh command).ends_of_record hr
  exact hends.eq_of_failure hx hc he

/-- After a failure comes nothing, or the rollback of a login and then nothing. -/
theorem eq_nil_or_rollback_of_record {σ : Type} {b : Backend σ} {st : σ}
    {before after : List Exchange}
    (hrec : (s.perform fresh command).run.record b false st = before ++ x :: after)
    (he : x.answer = .error e) :
    after = [] ∨ command.IsLogin ∧ ∃ y, after = [⟨.rollback, y⟩] := by
  have hfollows := perform_follows s fresh command
  have hfailed : ¬ x.Succeeds := fun hx => hx.ne_error e he
  match after with
  | [] => exact .inl rfl
  | ⟨c, y⟩ :: later =>
    rw [List.append_cons] at hrec
    obtain ⟨i, hcall⟩ := hfollows.calls_of_record hrec
    have hroll : c = .rollback := by
      by_contra hc
      exact hfailed (hcall.succeeds hc x (by simp))
    subst hroll
    refine .inr ⟨hcall.isLogin_of_rollback, y, ?_⟩
    match later with
    | [] => rfl
    | z :: _ =>
      rw [List.append_cons] at hrec
      obtain ⟨i, hcall⟩ := hfollows.calls_of_record hrec
      exact absurd rfl (hcall.call_ne_rollback ⟨.rollback, y⟩ (by simp))

/-- What makes the calls of operations has a fault on record, once it has made a call to a database
that meets every call with it. -/
theorem exists_fault_of_record {σ α : Type} {p : Program α}
    {ends : Bool → List Exchange → α → Prop} {fault : Database.Fault} {st : σ}
    (h : p.Follows (fun isInside history c => ∃ command, s.Calls fresh command isInside history c)
      ends false []) (hrec : p.record (.faulty fault) false st ≠ []) :
    ∃ x ∈ p.record (.faulty fault) false st, x.call ≠ .rollback ∧
      x.answer = .error (.database fault) := by
  obtain ⟨-, hgives⟩ := Program.told_record (.faulty fault) p false st
  obtain ⟨x, after, hx⟩ := List.exists_cons_of_ne_nil hrec
  have hmem : x ∈ p.record (.faulty fault) false st := by simp [hx]
  have hfirst : p.record (.faulty fault) false st = [] ++ x :: after := hx
  obtain ⟨i, command, hcall⟩ := h.calls_of_record hfirst
  obtain ⟨hc, hfault⟩ := hcall.failureOf_eq fault
  have hanswer := Backend.eq_of_gives_faulty (hgives x hmem)
  rw [hfault] at hanswer
  exact ⟨x, hmem, hc, by rw [hanswer]⟩

/-- Over a database in which every call meets a fault, an operation that makes a call fails with the
fault. -/
theorem run_faulty {σ : Type} {fault : Database.Fault} {st : σ}
    (hrec : (s.perform fresh command).run.record (.faulty fault) false st ≠ []) :
    ((s.perform fresh command).run.run (.faulty fault) false st).rest =
      .finished (.error (.database fault)) := by
  obtain ⟨r, hr⟩ := Program.exists_finished (Backend.isPrompt_faulty fault)
    (s.perform fresh command).run false st
  obtain ⟨x, hx, hc, he⟩ := exists_fault_of_record ((perform_follows s fresh command).mono
    (fun _ _ _ h => ⟨command, h⟩) fun _ _ _ h => h) hrec
  rw [hr, eq_of_failure_of_run hr hx hc he]

/-- A failure stops an operation and is reported unchanged, whatever a backend answers: nothing has
failed before it, the operation can only end with it, and no call follows but one rollback of a
login, whose answer is of no account. Where nobody has to wait, the operation does end. Over closed
connections no operation succeeds that makes a call. -/
theorem stops_at_failure (s : Service) (fresh : Fresh) (command : Command) {σ : Type}
    (b : Backend σ) (st : σ) :
    (∀ before x after e, (s.perform fresh command).run.record b false st = before ++ x :: after →
      x.call ≠ .rollback → x.answer = .error e →
      (∀ y ∈ before, y.Succeeds) ∧
      (∀ r, ((s.perform fresh command).run.run b false st).rest = .finished r → r = .error e) ∧
      (after = [] ∨ command.IsLogin ∧ ∃ y, after = [⟨.rollback, y⟩])) ∧
    (b.IsPrompt → ∃ r, ((s.perform fresh command).run.run b false st).rest = .finished r) ∧
    ((s.perform fresh command).run.record .closed false st ≠ [] →
      ((s.perform fresh command).run.run .closed false st).rest =
        .finished (.error (.database .poolClosed))) := by
  refine ⟨fun before x after e hrec hc he => ⟨?_, fun r hr => ?_, ?_⟩, fun hb => ?_, run_faulty⟩
  · obtain ⟨i, hcall⟩ := (perform_follows s fresh command).calls_of_record hrec
    exact hcall.succeeds hc
  · exact eq_of_failure_of_run hr (by simp [hrec]) hc he
  · exact eq_nil_or_rollback_of_record hrec he
  · exact Program.exists_finished hb _ false st

/-- A database that breaks down within transactions: all calls there time out, and a rollback finds
the connections closed. -/
def breaksDown : Backend Unit where
  serve
    | _, .begin, s => some ⟨.ok (), s, []⟩
    | _, .rollback, s => some ⟨.error (.database .poolClosed), s, []⟩
    | _, _, s => some ⟨.error (.database .poolTimedOut), s, []⟩

theorem isPrompt_breaksDown : breaksDown.IsPrompt := by
  intro isInside c s
  cases c <;> rfl

/-- A login times out within its transaction and cannot take it back. Over closed connections it
does not get that far. -/
theorem stops_at_failure_rollback : ∃ (operation : Operation Outcome) (x y : Exchange),
    operation = Service.least.perform (.numbered 1) (.login "ada@b.cc" "correct horse" "laptop") ∧
    operation.run.record breaksDown false () = [⟨.begin, .ok ()⟩, x, y] ∧
    x.answer = .error (.database .poolTimedOut) ∧ y.answer = .error (.database .poolClosed) ∧
    (operation.run.run breaksDown false ()).rest = .finished (.error (.database .poolTimedOut)) ∧
    (operation.run.run .closed false ()).rest = .finished (.error (.database .poolClosed)) := by
  let command : Command := .login "ada@b.cc" "correct horse" "laptop"
  let x : Exchange := ⟨.ask (.findUserByEmail ⟨"ada@b.cc"⟩), .error (.database .poolTimedOut)⟩
  let y : Exchange := ⟨.rollback, .error (.database .poolClosed)⟩
  have hrec : (Service.least.perform (.numbered 1) command).run.record breaksDown false () =
      [⟨.begin, .ok ()⟩] ++ x :: [y] := rfl
  have hclosed : (Service.least.perform (.numbered 1) command).run.record .closed false () =
      [⟨.begin, .error (.database .poolClosed)⟩] := rfl
  obtain ⟨hfails, hends, hreaches⟩ :=
    stops_at_failure .least (.numbered 1) command breaksDown ()
  have hreached :
      (Service.least.perform (.numbered 1) command).run.record .closed false () ≠ [] := by
    rw [hclosed]
    exact List.cons_ne_nil _ _
  obtain ⟨r, hr⟩ := hends isPrompt_breaksDown
  obtain ⟨-, hresult, -⟩ := hfails _ x _ _ hrec (by simp [x]) rfl
  exact ⟨_, x, y, rfl, hrec, rfl, rfl, hresult r hr ▸ hr, hreaches hreached⟩

end Service

end SessionAuth
