import SessionAuth.Proofs.Bytes.ConstantTime
import SessionAuth.Proofs.Http.Login

/-!
# The confirmation of a password

Whoever creates an account gives the password twice. The two texts are compared as they are, in a
comparison that looks at every pair of bytes: what passes is exactly what was given twice, and all
else is refused before anything is asked of the store (`Http.Site.compares_exactly`).
-/

namespace SessionAuth

/-- A password was not confirmed. -/
def Failure.unconfirmed : Failure := .passwordValidation "Passwords do not match"

namespace Http.Site

variable {s : Site} {fresh : Fresh} {r : Request} {form : SignUpRequest}

/-- Creates the account that a form asks for, whatever the form repeats. -/
def register (s : Site) (fresh : Fresh) (form : SignUpRequest) : Operation Response := do
  let user ← s.service.signUp fresh form.email form.password
  let body : SignUpResponse := ⟨user.id.text, user.email.text⟩
  return .json 200 body.toJson

/-- Tells of a failure, and logs it. Nothing is asked of the store. -/
def refusal (f : Failure) : Program Response := .log f.event (.done (.ofProblem f.problem))

theorem signUp_eq (h : r.content SignUpRequest.reader = .ok form) : s.signUp fresh r =
    if form.password = form.confirmation then s.register fresh form
    else throw Failure.unconfirmed := by
  unfold signUp withContent
  rw [h]
  dsimp only
  rw [Bytes.equalInConstantTime_utf8]
  by_cases hsame : form.password = form.confirmation
  · rw [decide_eq_true hsame, if_pos hsame]
    rfl
  · rw [decide_eq_false hsame, if_neg hsame]
    rfl

/-- An account is refused for other reasons in other words. -/
theorem conclude_register_ne (s : Site) (fresh : Fresh) (form : SignUpRequest) :
    conclude (s.register fresh form) ≠ refusal .unconfirmed := by
  unfold conclude register Service.signUp
  cases Email.ofText form.email with
  | error e =>
    intro h
    have hevent : (Failure.invalidEmail e.message).event = Failure.unconfirmed.event :=
      (Program.log.inj h).1
    have hfields := congrArg Event.fields hevent
    have hmessage : "Invalid email: " ++ e.message =
        "Password validation failed: Passwords do not match" :=
      (Prod.mk.inj (List.cons.inj hfields).1).2
    have hfirst := congrArg (fun t => t.toList.head?) hmessage
    simp at hfirst
  | ok email => exact nofun

/-- Bytes, fingerprints and the two passwords of a form are told apart exactly where they differ, at
whatever place they do. -/
theorem compares_exactly (s : Site) (fresh : Fresh) :
    (∀ a b : Bytes, (Bytes.differences a b = 0 ↔ ∀ p ∈ a.zip b, p.1 = p.2) ∧
      (Bytes.equalInConstantTime a b = true ↔ a = b)) ∧
    (∀ f g : Fingerprint, f.agrees g = true ↔ f.text = g.text) ∧
    ∀ (r : Request) (form : SignUpRequest), r.method = "POST" → r.path = "/signup" →
      r.content SignUpRequest.reader = .ok form →
      (form.password = form.confirmation → s.answer fresh r = conclude (s.register fresh form)) ∧
      (s.answer fresh r = refusal .unconfirmed ↔ form.password ≠ form.confirmation) := by
  refine ⟨fun a b => ⟨Bytes.differences_eq_zero_iff_forall a b, ?_⟩, fun f g => ?_, ?_⟩
  · rw [Bytes.equalInConstantTime_eq, decide_eq_true_iff]
  · rw [Fingerprint.agrees_eq, decide_eq_true_iff]
  · intro r form hmethod hpath hform
    have hanswer : s.answer fresh r = conclude (s.signUp fresh r) :=
      answer_post .signUp nofun hmethod hpath
    rw [hanswer, signUp_eq hform]
    refine ⟨fun hsame => by rw [if_pos hsame], fun hrefused hsame => ?_, fun hne => ?_⟩
    · rw [if_pos hsame] at hrefused
      exact conclude_register_ne s fresh form hrefused
    · rw [if_neg hne]
      rfl

/-- A word with its accent in a letter is given twice, but not if it has the accent behind a letter
the second time, where it looks the same. -/
theorem compares_exactly_accents : ∃ r r' : Request,
    r.content SignUpRequest.reader = .ok ⟨"ada@b.cc", "caf\u00e9 12345", "caf\u00e9 12345"⟩ ∧
    r'.content SignUpRequest.reader = .ok ⟨"ada@b.cc", "caf\u00e9 12345", "cafe\u0301 12345"⟩ ∧
    ∀ (s : Site) (fresh : Fresh),
      s.answer fresh r =
        conclude (s.register fresh ⟨"ada@b.cc", "caf\u00e9 12345", "caf\u00e9 12345"⟩) ∧
      s.answer fresh r' = refusal .unconfirmed := by
  let r := Request.post "/signup" "[\"ada@b.cc\",\"caf\u00e9 12345\",\"caf\u00e9 12345\"]"
  let r' := Request.post "/signup" "[\"ada@b.cc\",\"caf\u00e9 12345\",\"cafe\u0301 12345\"]"
  have hpath (body : String) : (Request.post "/signup" body).path = "/signup" := by
    unfold Request.path Request.post
    dsimp only
    decide +kernel
  have hform : r.content SignUpRequest.reader =
      .ok ⟨"ada@b.cc", "caf\u00e9 12345", "caf\u00e9 12345"⟩ := by decide +kernel
  have hform' : r'.content SignUpRequest.reader =
      .ok ⟨"ada@b.cc", "caf\u00e9 12345", "cafe\u0301 12345"⟩ := by decide +kernel
  refine ⟨r, r', hform, hform', fun s fresh => ?_⟩
  obtain ⟨-, -, hanswer⟩ := compares_exactly s fresh
  exact ⟨(hanswer r _ rfl (hpath _) hform).1 rfl,
    (hanswer r' _ rfl (hpath _) hform').2.2 (by decide)⟩

end Http.Site

end SessionAuth
