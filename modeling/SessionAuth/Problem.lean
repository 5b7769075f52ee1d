import SessionAuth.Json.Record
import SessionAuth.Text.Quoted

/-!
# Problems

A problem is what a client is told about a failed request: a kind, which fixes the status, and a
message. What caused it is kept for the log and never told.
-/

namespace SessionAuth

/-- The kinds of problems. -/
inductive Problem.Kind where
  | badRequest
  | unauthorized
  | forbidden
  | notFound
  | conflict
  | internalServerError
  | serviceUnavailable
deriving DecidableEq, Repr

/-- A problem. -/
structure Problem where
  kind : Problem.Kind
  message : String
  cause : Option String := none
deriving DecidableEq, Repr

namespace Problem

namespace Kind

/-- All kinds. -/
def all : List Kind :=
  [badRequest, unauthorized, forbidden, notFound, conflict, internalServerError, serviceUnavailable]

/-- The status code of a response. -/
def status : Kind → Nat
  | badRequest => 400
  | unauthorized => 401
  | forbidden => 403
  | notFound => 404
  | conflict => 409
  | internalServerError => 500
  | serviceUnavailable => 503

/-- The words of a kind. -/
def words : Kind → List String
  | badRequest => ["Bad", "Request"]
  | unauthorized => ["Unauthorized"]
  | forbidden => ["Forbidden"]
  | notFound => ["Not", "Found"]
  | conflict => ["Conflict"]
  | internalServerError => ["Internal", "Server", "Error"]
  | serviceUnavailable => ["Service", "Unavailable"]

/-- The title for people. -/
def title (k : Kind) : String := " ".intercalate k.words

/-- The name for logs. -/
def name (k : Kind) : String := "".intercalate k.words

/-- The name for programs. -/
def code (k : Kind) : String := "_".intercalate (k.words.map String.toUpper)

/-- Whether the server is at fault. -/
def isServerError (k : Kind) : Bool := 500 ≤ k.status && k.status < 600

/-- Whether the client is at fault. -/
def isClientError (k : Kind) : Bool := 400 ≤ k.status && k.status < 500

end Kind

/-- Kind and message in one line. -/
def line (p : Problem) : String := "[" ++ p.kind.title ++ "] " ++ p.message

/-- All parts, for logs. -/
def describe (p : Problem) : String :=
  let cause := match p.cause with
    | some text => ", source: Custom \x7b kind: Other, error: " ++ Text.quote text ++ " \x7d"
    | none => ""
  "AppError \x7b kind: " ++ p.kind.name ++ ", message: " ++ Text.quote p.message ++ cause ++ " \x7d"

/-- The body of the response. -/
def body (p : Problem) : String :=
  Json.object [
    ("detail", Json.quote p.message),
    ("status", toString p.kind.status),
    ("title", Json.quote p.kind.title),
    ("type", Json.quote ("https://httpstatuses.io/" ++ toString p.kind.status))]

/-- The problem of a text that is not the JSON that was asked for. A text that ends too early counts
as a fault of the server. -/
def ofJsonFault : Json.Fault → Problem
  | .truncated => ⟨.internalServerError, "JSON serialization error", some "JSON ends early"⟩
  | .malformed => ⟨.badRequest, "JSON parse error", some "JSON is malformed"⟩
  | .mismatch => ⟨.badRequest, "JSON parse error", some "JSON has another shape"⟩

end Problem

end SessionAuth
