import SessionAuth.Proofs.AccessToken.RoundTrip
import SessionAuth.Proofs.Config.Server
import SessionAuth.Proofs.Http.Availability
import SessionAuth.Proofs.RefreshToken.Lifetime

/-!
# Lifetimes, from the configuration to the client

The bounds that an accepted configuration keeps to rule out every place behind it where a lifetime
is cut, or an end is out of range (`Config.Server.lifetimes_exact`): tokens live for the seconds
that were configured, and the client is told so.
-/

namespace SessionAuth

/-! ### What clients are told -/

/-- The session that a command ends with has the token that was created, and its lifetime. -/
theorem Service.Ends.creation {s : Service} {fresh : Fresh} {command : Command}
    {history : List Exchange} {session : Session}
    (h : s.Ends fresh command history (.ok (.session session))) :
    session.tokenId = fresh.tokenId ∧ session.lifetime = s.policy.lifetime ∧
      ∃ owner f, .creation (s.policy.issue fresh.tokenId owner f fresh.now) ∈ history := by
  cases h with
  | committed hf h =>
    cases h with
    | opened =>
      exact ⟨rfl, rfl, _, _, List.mem_append_left _ (List.mem_cons_of_mem _
        (List.mem_append_right _ (List.mem_singleton_self _)))⟩
  | renewed => exact ⟨rfl, rfl, _, _, List.mem_append_right _ (List.mem_singleton_self _)⟩

theorem Http.Response.header?_setCookie (body : String) (value : Bytes) :
    ((Response.json 200 body).withHeader "set-cookie" value).header? "set-cookie" =
      Text.ofUtf8? value := by
  simp [Response.header?, Header.first?, Response.json, Response.withHeader]

namespace Http.Site

open Operation (follows_bind demand)

variable {s : Site} {fresh : Fresh} {r : Request} {response : Response} {history : List Exchange}

/-- If the response is a success, a token was created, and the cookie names it and tells its
lifetime. -/
def Announces (s : Site) (fresh : Fresh) (history : List Exchange) (response : Response) : Prop :=
  response.status = 200 → ∃ owner f,
    .creation (s.service.policy.issue fresh.tokenId owner f fresh.now) ∈ history ∧
    response.header? "set-cookie" =
      some (s.cookie.setText fresh.tokenId.text s.service.policy.lifetime.toNat)

theorem announces_of_status (h : response.status ≠ 200) : s.Announces fresh history response :=
  fun hok => absurd hok h

/-- What hands out a session tells the token and its lifetime. -/
theorem header?_handOut {session : Session} (h : s.handOut session = .ok response) :
    response.header? "set-cookie" =
      some (s.cookie.setText session.tokenId.text session.lifetime.toNat) := by
  unfold handOut Cookie.setValue? at h
  cases hvalue : Header.value?
      (s.cookie.setText session.tokenId.text session.lifetime.toNat) with
  | none =>
    rw [hvalue] at h
    cases h
  | some value =>
    have hsome := Header.value?_of_isSome (Option.isSome_of_mem hvalue)
    rw [hsome] at h
    cases h
    rw [Response.header?_setCookie, Text.ofUtf8?_utf8]

/-- A session that a command ends with is announced. -/
theorem handOut_follows {o : Operation Session} {command : Command}
    (h : o.run.Follows (s.service.Calls fresh command)
      (fun isInside history x => isInside = false ∧
        s.service.Ends fresh command history (x.map .session)) false []) :
    (o >>= fun session => demand (s.handOut session)).run.Follows
      (fun isInside history c => ∃ command, s.service.Calls fresh command isInside history c)
      (fun _ history x => s.Announces fresh history (.ofResult x)) false [] := by
  refine follows_bind (h.mono (fun _ _ _ h => ⟨command, h⟩) ?_)
  rintro isInside history (e | session) ⟨-, hends⟩
  · exact announces_of_status (Response.status_ofProblem_ne e.problem)
  · obtain ⟨hid, hlifetime, owner, f, hmem⟩ := hends.creation
    refine .done ?_
    cases hout : s.handOut session with
    | error e => exact announces_of_status (Response.status_ofProblem_ne e.problem)
    | ok response =>
      refine fun _ => ⟨owner, f, hmem, ?_⟩
      rw [← hid, ← hlifetime]
      exact header?_handOut hout

theorem serve_announces {route : Route} (hroute : route = .login ∨ route = .refresh) :
    (s.serve fresh r route).run.Follows
      (fun isInside history c => ∃ command, s.service.Calls fresh command isInside history c)
      (fun _ history x => s.Announces fresh history (.ofResult x)) false [] := by
  rcases hroute with rfl | rfl
  · refine withContent_follows (fun x => announces_of_status x.status_ne) fun form => ?_
    exact handOut_follows
      (s.service.login_follows fresh form.email form.password form.fingerprint)
  · refine withContent_follows (fun x => announces_of_status x.status_ne) fun form => ?_
    cases s.refreshToken r with
    | error e => exact .done (announces_of_status (Response.status_ofProblem_ne e.problem))
    | ok tokenId =>
      rw [Operation.demand_ok_bind]
      exact handOut_follows (s.service.refresh_follows fresh tokenId form.fingerprint)

/-- A login or a refresh announces the token that it creates. -/
theorem answer_announces (hpath : r.path = "/login" ∨ r.path = "/refresh") :
    (s.answer fresh r).Follows
      (fun isInside history c => ∃ command, s.service.Calls fresh command isInside history c)
      (fun _ history response => s.Announces fresh history response) false [] := by
  obtain ⟨route, hroute, hof⟩ :
      ∃ route, (route = .login ∨ route = .refresh) ∧ Route.ofPath? r.path = some route := by
    rcases hpath with hpath | hpath <;> rw [hpath]
    · exact ⟨.login, .inl rfl, by decide⟩
    · exact ⟨.refresh, .inr rfl, by decide⟩
  unfold answer
  rw [hof]
  dsimp only
  split
  case isTrue hmethod =>
    have hhead : r.method ≠ "HEAD" := by
      intro hhead
      rw [hhead] at hmethod
      obtain rfl := Route.eq_me_of_head hmethod
      exact absurd hroute (by decide)
    simp only [if_neg hhead]
    refine Program.Follows.bind (Program.Follows.bind ((serve_announces hroute).mono
      (fun _ _ _ h => h) ?_))
    rintro isInside history (e | response) hannounces
    · exact .log (.done (.done hannounces))
    · exact .done (.done hannounces)
  case isFalse =>
    have hme : route ≠ .me := by rcases hroute with rfl | rfl <;> decide
    have hstatus : (405 : Nat) ≠ 200 := by decide
    unfold refuse
    rw [if_neg hme]
    exact .done (announces_of_status hstatus)

end Http.Site

/-- A site that can sign and hand out cookies lets a user without tokens in. -/
theorem Http.Site.exists_first_login (s : Site) (hs : s.service.IsUsable)
    (hquota : 1 ≤ s.service.policy.quota) (hsend : s.cookie.IsSendable) :
    ∃ (r : Request) (st : Vault) (response : Response), r.path = "/login" ∧
      ((s.answer (.numbered 2) r).run Backend.memory false st).rest = .finished response ∧
      response.status = 200 := by
  let u := s.service.newUser (.numbered 1) ⟨"ada@b.cc"⟩ ⟨"correct horse"⟩
  obtain ⟨access, ha⟩ := s.service.accessFor_newUser hs Service.takes_ada.password
    (Fresh.length_salt_numbered 1) (.numbered 2) ⟨"ada@b.cc"⟩
  have hadd : (Store.ofUser u).addToken (s.service.newToken (.numbered 2) u.id ⟨"laptop"⟩) =
      .ok _ := Store.addToken_ofUser rfl
  have hlogin := Service.login_goes Service.takes_ada.device Service.takes_ada.email
    (Store.userByEmail?_ofUser u) ha (Store.length_tokensOf_ofUser u hquota) hadd
  have hserve : (s.login (.numbered 2) .loginOfAda).run.Goes ⟨.ofUser u, none⟩ false _ _ _ false :=
    login_goes Request.content_loginOfAda hlogin
  obtain ⟨events, hrun⟩ := (answer_login_goes rfl Request.path_loginOfAda hserve).run_eq
  rcases s.handOut_eq ⟨access, (Fresh.numbered 2).tokenId, s.service.policy.lifetime⟩ with
    ⟨-, response, hout, hstatus⟩ | ⟨hnot, -⟩
  · refine ⟨.loginOfAda, ⟨.ofUser u, none⟩, response, Request.path_loginOfAda, ?_, hstatus⟩
    have hresult := (pure_bind (m := Except Failure) _ s.handOut).trans hout
    rw [hrun]
    dsimp only
    exact congrArg (fun x => Program.Rest.finished (Response.ofResult x)) hresult
  · exact absurd hsend hnot

/-! ### Access tokens -/

namespace AccessToken

/-- No algorithm that can be configured has a shared secret. -/
theorem Algorithm.name_not_mem_sharedSecretNames (a : Algorithm) :
    a.name ∉ sharedSecretNames := by
  have hall : ∀ a ∈ all, a.name ∉ sharedSecretNames := by decide
  exact hall a (mem_all a)

/-- Ends within ten years are not moved. -/
theorem endOf_eq {lifetime : Nat} (h : lifetime ≤ Config.maxLifetime) (now : Instant) :
    endOf now.seconds lifetime = now.seconds + lifetime := by
  have hlast := now.le_last
  have hmax : Config.maxLifetime = 315360000 := rfl
  rw [Signer.endOf_eq_min]
  omega

theorem Signer.eq_of_ofPem {issuer : String} {algorithm : Algorithm} {lifetime : Nat}
    {pem : Bytes} {s : Signer} (h : ofPem issuer algorithm lifetime pem = .ok s) :
    s = ⟨issuer, algorithm, lifetime, s.key⟩ := by
  unfold ofPem at h
  cases hkey : Key.Private.ofPem algorithm pem with
  | error e =>
    rw [hkey] at h
    exact nomatch h
  | ok key =>
    rw [hkey] at h
    rw [← Except.ok.inj h]

/-- The token says, and is read to say, that it lives for a number of seconds from an instant on. -/
structure Signed.LivesFor (signed : Signed) (algorithm : Algorithm) (now : Instant)
    (seconds : Nat) (claims : Claims) (signature : Bytes) : Prop where
  token : signed.token = signedText algorithm claims ++ "." ++ encodePart signature
  read : claimsOf? signed.token = some claims
  issuedAt : claims.issuedAt = now.seconds
  expiresAt : claims.expiresAt = claims.issuedAt + seconds
  lt : claims.issuedAt < claims.expiresAt
  told : signed.expiresAt = claims.expiresAt

end AccessToken

/-! ### What was configured -/

namespace Config

open Server

/-- With a configuration, the lifetimes of tokens that are issued at an instant are exact, and
clients are told the one of the refresh token in the cookie that carries it. -/
structure Session.IsExact (c : Session) (now : Instant) : Prop where
  asymmetric : c.algorithm.name ∉ AccessToken.Algorithm.sharedSecretNames
  one_le_quota : 1 ≤ c.quota
  refreshToken : ∀ id owner f,
    (c.refreshPolicy.issue id owner f now).LivesFor now c.refreshLifetime
  accessToken : ∀ pem signer,
    AccessToken.Signer.ofPem c.issuer c.algorithm c.accessLifetime pem = .ok signer →
    ∀ id subject signed, signer.sign id subject now = .ok signed → ∃ claims signature,
      signed.LivesFor c.algorithm now c.accessLifetime claims signature
  cookie : ∀ s : Http.Site, s.cookie = c.cookie → s.service.policy = c.refreshPolicy →
    ∀ (fresh : Fresh) (r : Http.Request), fresh.now = now →
    r.path = "/login" ∨ r.path = "/refresh" →
    ∀ {σ : Type} (b : Backend σ) (st : σ) (response : Http.Response),
      ((s.answer fresh r).run b false st).rest = .finished response → response.status = 200 →
      ∃ t : RefreshToken, .creation t ∈ (s.answer fresh r).record b false st ∧
        t.id = fresh.tokenId ∧ t.LivesFor now c.refreshLifetime ∧
        response.header? "set-cookie" = some (c.cookieName ++ "=" ++ t.id.text ++ "; HttpOnly" ++
          (if c.isCookieSecure then "; Secure" else "") ++ "; SameSite=" ++ c.sameSite.name ++
          "; Path=" ++ c.cookiePath ++ "; Max-Age=" ++ toString c.refreshLifetime)

variable {env : Environment} {server : Server} {now : Instant}

theorem Session.IsReadFrom.isExact {c : Session} (h : c.IsReadFrom env)
    (hnow : (now.plusSeconds? maxLifetime).isSome) : c.IsExact now := by
  obtain ⟨haccess, haccessMax⟩ := isLifetime_iff.1 h.isLifetime_access
  obtain ⟨-, hrefreshMax⟩ := isLifetime_iff.1 h.isLifetime_refresh
  have hissue := RefreshToken.livesFor_issue hnow hrefreshMax
  refine ⟨c.algorithm.name_not_mem_sharedSecretNames, h.one_le_quota, hissue, ?_, ?_⟩
  · intro pem signer hpem id subject signed hsigned
    have hread := AccessToken.Signer.claimsOf?_sign hsigned
    obtain ⟨signature, -, rfl⟩ := AccessToken.Signer.sign_eq_ok hsigned
    have hend := AccessToken.endOf_eq haccessMax now
    have hlater : now.seconds < AccessToken.endOf now.seconds c.accessLifetime := by omega
    rw [AccessToken.Signer.eq_of_ofPem hpem] at hread ⊢
    exact ⟨_, signature, rfl, hread, rfl, hend, hlater, rfl⟩
  · rintro s hcookie hpolicy fresh r rfl hpath σ b st response hresponse hstatus
    obtain ⟨j, hannounces⟩ := (Http.Site.answer_announces hpath).ends_of_record hresponse
    obtain ⟨owner, f, hmem, hheader⟩ := hannounces hstatus
    rw [hpolicy] at hmem hheader
    have hlives := hissue fresh.tokenId owner f
    have hlifetime : c.refreshPolicy.lifetime.toNat = c.refreshLifetime :=
      congrArg Int.toNat hlives.lifetime
    rw [hcookie, hlifetime] at hheader
    exact ⟨_, hmem, rfl, hlives, hheader⟩

/-- An accepted configuration has an algorithm with a pair of keys, a quota of at least one, and
lifetimes that are exact: nothing is cut, nothing ends out of range, and no token is without an
end. -/
theorem Server.lifetimes_exact (hread : read env = .ok server)
    (hnow : (now.plusSeconds? maxLifetime).isSome) :
    server.session.algorithm.name = ((lookup env .algorithm).map Text.trim).getD "EdDSA" ∧
      readOr env .accessLifetime 600 readNumber = .ok server.session.accessLifetime ∧
      readOr env .refreshLifetime 2592000 readNumber = .ok server.session.refreshLifetime ∧
      server.session.IsExact now := by
  have h := isReadFrom_of_read hread
  exact ⟨name_of_readAlgorithm h.algorithm, h.accessLifetime, h.refreshLifetime, h.isExact hnow⟩

/-- The shortest and the longest lifetime. -/
def Environment.extreme : Environment
  | .privateKeyFile => some "private.pem"
  | .publicKeyFile => some "public.pem"
  | .algorithm => some " ES256 "
  | .quota => some "1"
  | .accessLifetime => some "+1"
  | .refreshLifetime => some " 315360000 "
  | _ => none

/-- The first login under the configuration with the longest lifetime is told it. -/
theorem Server.lifetimes_exact_extreme : ∃ (server : Server) (s : Http.Site) (r : Http.Request)
    (st : Vault) (response : Http.Response) (t : RefreshToken),
    read Environment.extreme = .ok server ∧ server.session.algorithm.name = "ES256" ∧
    s.cookie = server.session.cookie ∧ r.path = "/login" ∧
    ((s.answer (.numbered 2) r).run Backend.memory false st).rest = .finished response ∧
    .creation t ∈ (s.answer (.numbered 2) r).record Backend.memory false st ∧
    t.expiresAt?.map (·.seconds) = some 315360000 ∧
    response.header? "set-cookie" =
      some ("refresh_token=00000000-0000-0000-0000-000000000002; HttpOnly; SameSite=Strict; " ++
        "Path=/api/auth; Max-Age=315360000") := by
  obtain ⟨server, hread, hname, hlifetime, hcookie⟩ : ∃ server,
      read Environment.extreme = .ok server ∧ server.session.algorithm.name = "ES256" ∧
      server.session.refreshLifetime = 315360000 ∧
      server.session.cookie = { isSecure := false } := ⟨_, rfl, rfl, rfl, rfl⟩
  have hnow : (Instant.epoch.plusSeconds? maxLifetime).isSome := by decide
  obtain ⟨-, -, -, hexact⟩ := lifetimes_exact hread hnow
  let s : Http.Site := ⟨{ Service.least with policy := server.session.refreshPolicy },
    ⟨"issuer", .edwards, .unusable⟩, server.session.cookie⟩
  have hs : s.service.IsUsable := ⟨Service.isUsable_least.hasher, Service.isUsable_least.signer⟩
  have hsend : s.cookie.IsSendable := by
    show Http.Cookie.IsSendable server.session.cookie
    rw [hcookie]
    exact ⟨rfl, rfl⟩
  obtain ⟨r, st, response, hpath, hresponse, hstatus⟩ :=
    s.exists_first_login hs hexact.one_le_quota hsend
  obtain ⟨t, hmem, hid, hlives, hheader⟩ := hexact.cookie s rfl rfl (.numbered 2) r rfl (.inl hpath)
    Backend.memory st response hresponse hstatus
  obtain ⟨e, hend, hseconds, -⟩ := hlives.expiresAt
  obtain ⟨hcookieName, hsecure, hsameSite, hcookiePath⟩ := Http.Cookie.mk.inj hcookie
  rw [hlifetime] at hseconds
  rw [hcookieName, hsecure, hsameSite, hcookiePath, hid, hlifetime] at hheader
  refine ⟨server, s, r, st, response, t, hread, hname, rfl, hpath, hresponse, hmem, ?_, ?_⟩
  · rw [hend]
    exact congrArg some hseconds
  · rw [hheader]
    decide +kernel

end Config

end SessionAuth
