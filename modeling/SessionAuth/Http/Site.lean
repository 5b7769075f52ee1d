import SessionAuth.AccessToken.Verifier
import SessionAuth.Bytes.ConstantTime
import SessionAuth.Config.Session
import SessionAuth.Http.Exchange
import SessionAuth.Http.Message
import SessionAuth.Service.Session

/-!
# The site

Five routes: one creates an account, three open, continue and end a session, and one tells the
bearer of an access token about it. A refresh token travels in a cookie only, an access token in the
body. Every failure is told as a problem and logged.
-/

namespace SessionAuth.Http

/-- The routes. -/
inductive Route where
  | signUp
  | login
  | refresh
  | logout
  | me
deriving DecidableEq, Repr

namespace Route

/-- All routes. -/
def all : List Route := [signUp, login, refresh, logout, me]

/-- The path of a route. -/
def path : Route → String
  | signUp => "/signup"
  | login => "/login"
  | refresh => "/refresh"
  | logout => "/logout"
  | me => "/me"

/-- The route with a path. -/
def ofPath? (path : String) : Option Route := all.find? (·.path = path)

/-- The methods of a route. -/
def methods : Route → List String
  | me => ["GET", "HEAD"]
  | _ => ["POST"]

end Route

/-- What requests are answered with. -/
structure Site where
  service : Service
  verifier : AccessToken.Verifier
  cookie : Cookie

namespace Site

open Operation (demand log)

/-- Goes on with what the body of a request holds, unless it is turned away. -/
def withContent {α : Type} (r : Request) (reader : Json.Reader α) (next : α → Operation Response) :
    Operation Response :=
  match r.content reader with
  | .ok content => next content
  | .error rejection => return .bare rejection.status

/-- The refresh token that a request carries. -/
def refreshToken (s : Site) (r : Request) : Except Failure String :=
  (Cookie.find? s.cookie.name r.headers).elim (.error .missingRefreshToken) .ok

/-- The claims of the access token that a request bears. -/
def bearer (s : Site) (now : Instant) (r : Request) : Except Failure AccessToken.Claims :=
  match Header.bearerToken? r.headers with
  | some token => (s.verifier.verify now.seconds token).mapError Failure.ofTokenError
  | none => .error .missingBearerToken

/-- The field that sets or drops the cookie, if it may be one. -/
def cookieField (value : Option Bytes) : Except Failure Header :=
  value.elim (.error (.internal Cookie.headerError)) fun v => .ok ⟨"set-cookie", v⟩

/-- The response that hands out a session. -/
def handOut (s : Site) (session : Session) : Except Failure Response := do
  let field ← cookieField (s.cookie.setValue? session.tokenId.text session.lifetime.toNat)
  let body : AccessTokenResponse := ⟨session.access.token, session.access.expiresAt⟩
  return (Response.json 200 body.toJson).withHeader field.name field.value

/-! ### Routes -/

/-- Creates an account. The password has to be given twice. -/
def signUp (s : Site) (fresh : Fresh) (r : Request) : Operation Response :=
  withContent r SignUpRequest.reader fun form => do
    if !Bytes.equalInConstantTime (Text.utf8 form.password) (Text.utf8 form.confirmation) then
      throw (.passwordValidation "Passwords do not match")
    let user ← s.service.signUp fresh form.email form.password
    let body : SignUpResponse := ⟨user.id.text, user.email.text⟩
    return .json 200 body.toJson

/-- Opens a session. -/
def login (s : Site) (fresh : Fresh) (r : Request) : Operation Response :=
  withContent r LoginRequest.reader fun form => do
    let session ← s.service.login fresh form.email form.password form.fingerprint
    demand (s.handOut session)

/-- Continues a session. -/
def refresh (s : Site) (fresh : Fresh) (r : Request) : Operation Response :=
  withContent r RefreshRequest.reader fun form => do
    let tokenId ← demand (s.refreshToken r)
    let session ← s.service.refresh fresh tokenId form.fingerprint
    demand (s.handOut session)

/-- Ends a session and drops the cookie. -/
def logout (s : Site) (r : Request) : Operation Response := do
  let tokenId ← demand (s.refreshToken r)
  Service.logout tokenId
  let field ← demand (cookieField s.cookie.deleteValue?)
  return (Response.bare 204).withHeader field.name field.value

/-- Tells the bearer of an access token about it. -/
def me (s : Site) (now : Instant) (r : Request) : Operation Response := do
  let claims ← demand (s.bearer now r)
  let body : SessionResponse := ⟨claims.subject, claims.id, claims.expiresAt⟩
  return .json 200 body.toJson

/-- Answers a request for a route by one of its methods. -/
def serve (s : Site) (fresh : Fresh) (r : Request) : Route → Operation Response
  | .signUp => s.signUp fresh r
  | .login => s.login fresh r
  | .refresh => s.refresh fresh r
  | .logout => s.logout r
  | .me => s.me fresh.now r

/-- Answers a request for a route by another method. Access tokens are asked for first. -/
def refuse (s : Site) (fresh : Fresh) (r : Request) (route : Route) : Operation Response := do
  if route = .me then discard (demand (s.bearer fresh.now r))
  return .bare 405

/-- The outcome of an operation as a response. A failure is logged. -/
def conclude (o : Operation Response) : Program Response :=
  o.run.bind fun
    | .ok response => .done response
    | .error f => .log f.event (.done (.ofProblem f.problem))

/-- Answers a request. -/
def answer (s : Site) (fresh : Fresh) (r : Request) : Program Response :=
  match Route.ofPath? r.path with
  | none => .done (.bare 404)
  | some route =>
    if route.methods.contains r.method then
      (conclude (s.serve fresh r route)).bind fun response =>
        .done (if r.method = "HEAD" then { response with body := none } else response)
    else
      (conclude (s.refuse fresh r route)).bind fun response =>
        .done (response.withHeader "allow" (Text.utf8 (",".intercalate route.methods)))

end Site

end SessionAuth.Http
