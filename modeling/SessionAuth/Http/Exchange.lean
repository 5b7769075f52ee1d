import SessionAuth.Http.MediaType
import SessionAuth.Json.Reader
import SessionAuth.Net.Url
import SessionAuth.Problem

/-!
# Requests and responses

A request names a path and may carry a body in JSON. A body that is not what is asked for is turned
away with a status of its own before anything else is looked at.
-/

namespace SessionAuth.Http

/-- A request. The target is a path and perhaps a query, with or without a host in front. -/
structure Request where
  method : String
  target : String
  headers : List Header := []
  body : Bytes := []

/-- A response. A body is a text in JSON. -/
structure Response where
  status : Nat
  headers : List Header := []
  body : Option String := none
deriving DecidableEq

namespace Response

/-- A response without a body. -/
def bare (status : Nat) : Response := { status }

/-- A response with a body. -/
def json (status : Nat) (body : String) : Response :=
  ⟨status, [⟨"content-type", Text.utf8 "application/json"⟩], some body⟩

/-- The response that tells of a problem. -/
def ofProblem (p : Problem) : Response := json p.kind.status p.body

/-- Adds a header field. -/
def withHeader (r : Response) (name : String) (value : Bytes) : Response :=
  { r with headers := r.headers ++ [⟨name, value⟩] }

/-- The value of the first field with a name, as far as it is text. -/
def header? (r : Response) (name : String) : Option String :=
  (Header.first? name r.headers).bind fun h => Text.ofUtf8? h.value

end Response

/-! ### Bodies of requests -/

/-- Why a body is turned away. -/
inductive Rejection where
  | notJson
  | tooLarge
  | malformed
  | mismatch
deriving DecidableEq, Repr

/-- The status of the response to a body that is turned away. -/
def Rejection.status : Rejection → Nat
  | notJson => 415
  | tooLarge => 413
  | malformed => 400
  | mismatch => 422

/-- A text that ends early is as malformed as any other. -/
def Rejection.ofFault : Json.Fault → Rejection
  | .malformed | .truncated => malformed
  | .mismatch => mismatch

namespace Request

/-- The longest body, in bytes. -/
def bodyLimit : Nat := 2 * 1024 * 1024

/-- A target without the scheme and the host that it may begin with. -/
def localPart (target : List Char) : List Char :=
  match target.dropWhile Url.isSchemeChar with
  | ':' :: '/' :: '/' :: rest => rest.dropWhile fun c => c ≠ '/' && c ≠ '?' && c ≠ '#'
  | _ => target

/-- The path of the target. -/
def path (r : Request) : String :=
  String.ofList ((localPart r.target.toList).takeWhile fun c => c ≠ '?' && c ≠ '#')

/-- Whether the request declares its body to be JSON. -/
def isJson (r : Request) : Bool :=
  ((Header.first? "content-type" r.headers).bind Header.text?).any MediaType.isJson

/-- What the body holds. -/
def content {α : Type} (r : Request) (reader : Json.Reader α) : Except Rejection α :=
  if !r.isJson then .error .notJson
  else if bodyLimit < r.body.length then .error .tooLarge
  else (Json.read reader r.body).mapError Rejection.ofFault

end Request

end SessionAuth.Http
