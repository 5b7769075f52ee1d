import SessionAuth.Proofs.AccessToken.RoundTrip
import SessionAuth.Proofs.Http.Login
import SessionAuth.Proofs.Http.ReadBack

/-!
# The bearer of an access token

The route that tells the bearer about the token stands behind a guard (`Http.Site.guarded`). It lets
a request through exactly if its first field for authorization bears a token that the verifier lets
through (`Http.Site.me_exact`), and turns every other one away with one status, before the handler
behind it is looked at. No bytes of a header are cut where they cannot be
(`Http.Header.sliceToken?_eq`).
-/

namespace SessionAuth

namespace Http

namespace Header

variable {headers : List Header} {text token : String}

/-! ### The token of a request -/

/-- The text is the scheme, in whatever case, and behind it a token, perhaps with blanks around
it. -/
def IsBearerText (text token : String) : Prop :=
  ∃ scheme rest, text.toList = scheme ++ rest ∧ scheme.map Char.toLower = "bearer ".toList ∧
    token.toList = Text.trimList rest ∧ token ≠ ""

/-- The first field for authorization can be read as text, and bears the token. -/
def Bears (headers : List Header) (token : String) : Prop :=
  ∃ before field after text, headers = before ++ field :: after ∧
    (∀ h ∈ before, h.name ≠ "authorization") ∧ field.name = "authorization" ∧
    field.text? = some text ∧ IsBearerText text token

/-- The token of a text. -/
def tokenOf? (text : String) : Option String := do
  guard ((text.toList.take 7).map Char.toLower = bearerScheme)
  let token := Text.trimList (text.toList.drop 7)
  guard (token ≠ [])
  return String.ofList token

theorem bearerToken?_eq (headers : List Header) :
    bearerToken? headers = ((first? "authorization" headers).bind text?).bind tokenOf? := by
  unfold bearerToken?
  cases first? "authorization" headers <;> rfl

theorem tokenOf?_eq_some_iff : tokenOf? text = some token ↔ IsBearerText text token := by
  have hchecks : tokenOf? text = some token ↔
      (text.toList.take 7).map Char.toLower = bearerScheme ∧
        Text.trimList (text.toList.drop 7) ≠ [] ∧
        String.ofList (Text.trimList (text.toList.drop 7)) = token := by
    simp only [tokenOf?, Option.bind_eq_bind, Option.bind_eq_some_iff, Option.guard_eq_some',
      Option.pure_def, Option.some.injEq, exists_const]
  rw [hchecks]
  constructor
  · rintro ⟨hscheme, hne, rfl⟩
    refine ⟨_, _, (List.take_append_drop 7 text.toList).symm, hscheme, String.toList_ofList,
      fun hempty => hne ?_⟩
    rw [← String.toList_ofList (l := Text.trimList (text.toList.drop 7)), hempty]
    rfl
  · rintro ⟨scheme, rest, htext, hscheme, htoken, hne⟩
    have hlength : scheme.length = 7 := by
      rw [← List.length_map Char.toLower, hscheme]
      rfl
    rw [htext, List.take_left' hlength, List.drop_left' hlength, ← htoken, String.ofList_toList]
    exact ⟨hscheme, fun hnil => hne (String.toList_inj.1 hnil), rfl⟩

theorem first?_eq_some_iff {name : String} {field : Header} : first? name headers = some field ↔
    ∃ before after, headers = before ++ field :: after ∧ (∀ h ∈ before, h.name ≠ name) ∧
      field.name = name := by
  unfold first?
  rw [List.find?_eq_some_iff_append]
  simp only [decide_eq_true_eq, Bool.not_eq_true', decide_eq_false_iff_not]
  exact ⟨fun ⟨hname, before, after, heq, hbefore⟩ => ⟨before, after, heq, hbefore, hname⟩,
    fun ⟨before, after, heq, hbefore, hname⟩ => ⟨hname, before, after, heq, hbefore⟩⟩

theorem bearerToken?_eq_some_iff : bearerToken? headers = some token ↔ Bears headers token := by
  simp only [bearerToken?_eq, Option.bind_eq_some_iff, first?_eq_some_iff, tokenOf?_eq_some_iff]
  constructor
  · rintro ⟨text, ⟨field, ⟨before, after, heq, hbefore, hname⟩, htext⟩, hbears⟩
    exact ⟨before, field, after, text, heq, hbefore, hname, htext, hbears⟩
  · rintro ⟨before, field, after, text, heq, hbefore, hname, htext, hbears⟩
    exact ⟨text, ⟨field, ⟨before, after, heq, hbefore, hname⟩, htext⟩, hbears⟩

/-- A field that gives a token of visible characters bears it. -/
theorem bears_cons {scheme : String} (hscheme : scheme.toList.map Char.toLower = bearerScheme)
    (hprintable : ∀ c ∈ scheme.toList, 0x20 ≤ c.toNat ∧ c.toNat < 0x7f)
    (hvisible : ∀ c ∈ token.toList, 0x20 < c.toNat ∧ c.toNat < 0x7f) (hne : token ≠ "")
    (after : List Header) :
    Bears (⟨"authorization", Text.utf8 (scheme ++ token)⟩ :: after) token := by
  have hall : ∀ c ∈ (scheme ++ token).toList, 0x20 ≤ c.toNat ∧ c.toNat < 0x7f := by
    intro c hc
    rw [String.toList_append, List.mem_append] at hc
    rcases hc with hc | hc
    · exact hprintable c hc
    · exact (hvisible c hc).imp_left Nat.le_of_lt
  have htrim : Text.trimList token.toList = token.toList :=
    Text.trimList_of_forall fun c hc => Text.isBlank_eq_false_of_visible (hvisible c hc)
  exact ⟨[], _, after, scheme ++ token, rfl, nofun, rfl,
    text?_of_ascii (isSome_value?_of_printable hall)
      (fun c hc => Nat.lt_trans (hall c hc).2 (by decide)) _,
    scheme.toList, token.toList, String.toList_append, hscheme, htrim.symm, hne⟩

/-! ### Slices of bytes -/

/-- The token of a text, found by cutting its bytes behind the scheme. There is no result where a
cut falls behind the text or within a character. -/
def sliceText? (text : String) : Option (Option String) := do
  if Text.byteLength text < 7 then return none
  let (scheme, rest) ← Text.cutAt? 7 text.toList
  if scheme.map Char.toLower ≠ bearerScheme then return none
  let token := Text.trimList rest
  return if token = [] then none else some (String.ofList token)

/-- The token in the first field for authorization, found by cutting bytes. -/
def sliceToken? (headers : List Header) : Option (Option String) :=
  match (first? "authorization" headers).bind text? with
  | none => some none
  | some text => sliceText? text

/-- The bytes of a text of ASCII are cut between characters. -/
theorem sliceText?_eq (h : ∀ c ∈ text.toList, c.toNat < 0x80) :
    sliceText? text = some (tokenOf? text) := by
  unfold sliceText? tokenOf?
  rw [Text.byteLength_of_ascii h]
  by_cases hlength : text.toList.length < 7
  · -- A text that is shorter than the scheme is not cut, and does not begin with it either.
    have hshort : (text.toList.take 7).map Char.toLower ≠ bearerScheme := by
      intro hscheme
      have hlengths := congrArg List.length hscheme
      rw [List.length_map, List.take_of_length_le hlength.le] at hlengths
      exact absurd hlengths (Nat.ne_of_lt hlength)
    rw [if_pos hlength, guard, if_neg hshort]
    rfl
  · rw [if_neg hlength, Text.cutAt?_of_ascii h (Nat.le_of_not_lt hlength)]
    generalize text.toList.take 7 = scheme, text.toList.drop 7 = rest
    by_cases hscheme : scheme.map Char.toLower = bearerScheme
    · by_cases htoken : Text.trimList rest = []
      · simp [hscheme, htoken]
      · simp [hscheme, htoken]
    · simp [hscheme]

/-- No cut of a header's bytes fails, and what is cut out is the token. -/
theorem sliceToken?_eq (headers : List Header) :
    sliceToken? headers = some (bearerToken? headers) := by
  rw [bearerToken?_eq, sliceToken?]
  cases htext : (first? "authorization" headers).bind text? with
  | none => rfl
  | some text =>
    obtain ⟨field, -, htext⟩ := Option.bind_eq_some_iff.1 htext
    exact sliceText?_eq (ascii_of_text? htext).2

end Header

/-! ### What the bearer is told -/

/-- What a client is told about its session is read as it was written. -/
theorem SessionResponse.read_toJson {a : SessionResponse} (hfirst : -Nat.pow 2 63 ≤ a.expiresAt)
    (hlast : a.expiresAt < Nat.pow 2 63) : Json.read reader (Text.utf8 a.toJson) = .ok a := by
  have hfill : Json.Fill fields (fields.map fun _ => none)
      [("email", Json.quote a.email), ("tokenId", Json.quote a.tokenId),
        ("expiresAt", toString a.expiresAt)]
      [some (.text a.email), some (.text a.tokenId), some (.number a.expiresAt)] :=
    .field (f := .text "email") (i := 0) rfl rfl
      ((Json.isWritten_text a.email).map Json.Atom.text) <|
    .field (f := .text "tokenId") (i := 1) rfl rfl
      ((Json.isWritten_text a.tokenId).map Json.Atom.text) <|
    .field (f := .number "expiresAt") (i := 2) rfl rfl
      ((Json.isWritten_integer hfirst hlast).map Json.Atom.number) .nothing
  have hrecord := Json.record_object (by decide) hfill rfl []
  rw [List.append_nil] at hrecord
  exact Json.read_of_apply (Json.Reader.apply_bind_eq_ok.2 ⟨_, _, hrecord, rfl⟩)

namespace Site

open Operation (demand)

variable {s : Site} {fresh : Fresh} {now : Instant} {r : Request} {c : AccessToken.Claims}
  {f : Failure}

/-! ### The guard -/

/-- The guard before a handler for bearers, who are known by the claims of their tokens. -/
def guarded (s : Site) (now : Instant) (r : Request)
    (handler : AccessToken.Claims → Operation Response) : Operation Response := do
  handler (← demand (s.bearer now r))

/-- The handler that tells the bearer about the token. -/
def tell (c : AccessToken.Claims) : Operation Response :=
  return .json 200 (SessionResponse.toJson ⟨c.subject, c.id, c.expiresAt⟩)

/-- The request bears a token that the verifier lets through for the claims. -/
def Admits (s : Site) (now : Instant) (r : Request) (c : AccessToken.Claims) : Prop :=
  ∃ token, Header.Bears r.headers token ∧ s.verifier.verify now.seconds token = .ok c

theorem bearer_eq_ok_iff : s.bearer now r = .ok c ↔ s.Admits now r c := by
  unfold Admits bearer
  simp only [← Header.bearerToken?_eq_some_iff]
  cases Header.bearerToken? r.headers with
  | none => simp
  | some token => simp [mapError_eq_ok]

/-- What is wrong with a token is the client's fault. -/
theorem kind_ofTokenError {e : AccessToken.Error} (h : e.IsRefusal) :
    (Failure.ofTokenError e).kind = .unauthorized := by
  rcases h with rfl | rfl | rfl | ⟨_, rfl⟩ | ⟨_, rfl⟩ <;> rfl

/-- Whatever is wrong with what a request bears is the client's fault. -/
theorem kind_of_bearer (h : s.bearer now r = .error f) : f.kind = .unauthorized := by
  unfold bearer at h
  cases htoken : Header.bearerToken? r.headers with
  | none =>
    rw [htoken] at h
    cases h
    rfl
  | some token =>
    rw [htoken] at h
    dsimp only at h
    cases hverify : s.verifier.verify now.seconds token with
    | ok c =>
      rw [hverify] at h
      cases h
    | error e =>
      rw [hverify] at h
      cases h
      exact kind_ofTokenError (AccessToken.Verifier.isRefusal_of_verify hverify)

theorem guarded_of_error (h : s.bearer now r = .error f)
    (handler : AccessToken.Claims → Operation Response) : s.guarded now r handler = throw f := by
  unfold guarded
  rw [h]
  rfl

theorem guarded_of_ok (h : s.bearer now r = .ok c)
    (handler : AccessToken.Claims → Operation Response) : s.guarded now r handler = handler c := by
  unfold guarded
  rw [h]
  rfl

/-- A request to be told about the token is answered by what is behind the guard. -/
theorem answer_me (hmethod : r.method = "GET") (hpath : r.path = "/me") :
    s.answer fresh r = conclude (s.guarded fresh.now r tell) := by
  have hroute : Route.ofPath? r.path = some .me := by
    rw [hpath]
    rfl
  have hallowed : Route.me.methods.contains r.method = true := by
    rw [hmethod]
    rfl
  have hhead : r.method ≠ "HEAD" := by
    rw [hmethod]
    decide
  exact answer_eq hroute hallowed hhead

/-- What is told of a token that is let through can be read. -/
theorem read_of_admits (h : s.Admits now r c) :
    Json.read SessionResponse.reader
        (Text.utf8 (SessionResponse.toJson ⟨c.subject, c.id, c.expiresAt⟩)) =
      .ok ⟨c.subject, c.id, c.expiresAt⟩ := by
  obtain ⟨token, -, hverify⟩ := h
  obtain ⟨p, -, hchecks⟩ := AccessToken.Verifier.checks_of_verify hverify
  have hlive := hchecks.vouchesFor.expiresAt
  have hfirst := now.first_le
  have hpow : (Nat.pow 2 63 : Int) = 9223372036854775808 := by decide
  exact SessionResponse.read_toJson (by dsimp only; omega) hchecks.vouchesFor.expiresAt_lt

/-- A request to be told about the token is answered with what it says exactly if its first field
for authorization bears a token that the verifier lets through. Every other one is answered with one
status, and no handler behind the guard is run. -/
theorem me_exact (s : Site) (fresh : Fresh) (hmethod : r.method = "GET") (hpath : r.path = "/me") :
    Header.sliceToken? r.headers = some (Header.bearerToken? r.headers) ∧
    s.serve fresh r .me = s.guarded fresh.now r tell ∧
    ∃ response events,
      (∀ (σ : Type) (b : Backend σ) (isInside : Bool) (state : σ),
        (s.answer fresh r).run b isInside state =
          ⟨.finished response, state, isInside, events⟩) ∧
      (response.status = 200 ↔ ∃ c, s.Admits fresh.now r c) ∧
      (∀ c, s.Admits fresh.now r c → ∃ body, response = .json 200 body ∧
        Json.read SessionResponse.reader (Text.utf8 body) = .ok ⟨c.subject, c.id, c.expiresAt⟩) ∧
      (response.status ≠ 200 → response.status = 401 ∧ ∃ f : Failure,
        response = .ofProblem f.problem ∧
        ∀ handler, s.guarded fresh.now r handler = throw f) := by
  refine ⟨Header.sliceToken?_eq _, rfl, ?_⟩
  simp only [answer_me hmethod hpath, ← bearer_eq_ok_iff]
  cases hbearer : s.bearer fresh.now r with
  | ok c =>
    rw [guarded_of_ok hbearer]
    refine ⟨.json 200 (SessionResponse.toJson ⟨c.subject, c.id, c.expiresAt⟩), [],
      fun _ _ _ _ => rfl, ⟨fun _ => ⟨c, rfl⟩, fun _ => rfl⟩, ?_, fun h => absurd rfl h⟩
    rintro _ ⟨⟩
    exact ⟨_, rfl, read_of_admits (bearer_eq_ok_iff.1 hbearer)⟩
  | error f =>
    have hstatus : (Response.ofProblem f.problem).status = 401 :=
      congrArg Problem.Kind.status (kind_of_bearer hbearer)
    refine ⟨.ofProblem f.problem, [f.event], fun _ _ _ _ => ?_, ?_, nofun,
      fun _ => ⟨hstatus, f, rfl, guarded_of_error hbearer⟩⟩
    · rw [guarded_of_error hbearer]
      rfl
    · exact ⟨fun h => absurd h (Response.status_ofProblem_ne _), fun ⟨_, h⟩ => nomatch h⟩

/-- A request that gives the scheme in another case, and one with another scheme in a field before
it. -/
theorem me_exact_sample :
    let s : Site := ⟨.least, AccessToken.Sample.verifier, { name := "refresh_token" }⟩
    let field : Header := ⟨"authorization", Text.utf8 ("bEaReR " ++ AccessToken.Sample.signed)⟩
    let other : Header := ⟨"authorization", Text.utf8 "Basic YTpi"⟩
    ∃ fresh : Fresh,
      (∃ body events, Json.read SessionResponse.reader (Text.utf8 body) =
          .ok ⟨"test@email.com", "6f9619ff-8b86-4011-b42d-00c04fc964ff", 4102444800⟩ ∧
        ∀ (σ : Type) (b : Backend σ) (isInside : Bool) (state : σ),
          (s.answer fresh ⟨"GET", "/me?now", [field], []⟩).run b isInside state =
            ⟨.finished (.json 200 body), state, isInside, events⟩) ∧
      ∃ (response : Response) (events : List Event), response.status = 401 ∧
        ∀ (σ : Type) (b : Backend σ) (isInside : Bool) (state : σ),
          (s.answer fresh ⟨"GET", "/me?now", [other, field], []⟩).run b isInside state =
            ⟨.finished response, state, isInside, events⟩ := by
  intro s field other
  let now : Instant := ⟨1700000000, 0, by decide, by decide, by decide⟩
  let fresh : Fresh := { Fresh.numbered 1 with now }
  have hpath (headers : List Header) : (Request.mk "GET" "/me?now" headers []).path = "/me" := by
    unfold Request.path
    dsimp only
    decide +kernel
  have hne : AccessToken.Sample.signed ≠ "" := by
    intro hempty
    have hverify := AccessToken.Sample.verify_signed
    rw [hempty] at hverify
    cases hverify
  have hbears : Header.Bears [field] AccessToken.Sample.signed :=
    Header.bears_cons (by decide) (by simp) (AccessToken.Parts.visible_ofContents _ _ _) hne []
  have hadmits : s.Admits fresh.now ⟨"GET", "/me?now", [field], []⟩ AccessToken.Sample.claims :=
    ⟨_, hbears, AccessToken.Sample.verify_signed⟩
  have hrefused : ¬ ∃ c, s.Admits fresh.now ⟨"GET", "/me?now", [other, field], []⟩ c := by
    rintro ⟨c, token, htoken, -⟩
    have hscheme : (Header.text? ⟨"authorization", Text.utf8 "Basic YTpi"⟩).bind Header.tokenOf? =
        none := by decide +kernel
    have hsome := Header.bearerToken?_eq_some_iff.2 htoken
    rw [Header.bearerToken?_eq, Header.first?, List.find?_cons_of_pos (by decide),
      Option.bind_some] at hsome
    cases hscheme.symm.trans hsome
  refine ⟨fresh, ?_, ?_⟩
  · obtain ⟨-, -, response, events, hrun, -, htold, -⟩ := s.me_exact fresh
      (r := ⟨"GET", "/me?now", [field], []⟩) rfl (hpath _)
    obtain ⟨body, rfl, hread⟩ := htold _ hadmits
    exact ⟨body, events, hread, hrun⟩
  · obtain ⟨-, -, response, events, hrun, hiff, -, hother⟩ := s.me_exact fresh
      (r := ⟨"GET", "/me?now", [other, field], []⟩) rfl (hpath _)
    exact ⟨response, events, (hother fun h => hrefused (hiff.1 h)).1, hrun⟩

end Site

end Http

end SessionAuth
