import SessionAuth.Http.Header
import SessionAuth.Text.Split

/-!
# The refresh cookie

A refresh token travels in a cookie that scripts never see. Its name, path and policy are a matter
of configuration.
-/

namespace SessionAuth.Http

/-- Whether a cookie is sent with requests from other sites. -/
inductive SameSite where
  | strict
  | lax
  | none
deriving DecidableEq, Repr

namespace SameSite

/-- All policies. -/
def all : List SameSite := [strict, lax, none]

/-- The name of a policy. -/
def name : SameSite → String
  | strict => "Strict"
  | lax => "Lax"
  | none => "None"

end SameSite

/-- A cookie without its value. -/
structure Cookie where
  name : String := "refresh_token"
  isSecure : Bool := true
  sameSite : SameSite := .strict
  path : String := "/api/auth"
deriving DecidableEq, Repr

namespace Cookie

/-- The text that sets a value for a number of seconds. -/
def setText (c : Cookie) (value : String) (maxAge : Nat) : String :=
  c.name ++ "=" ++ value ++ "; HttpOnly" ++ (if c.isSecure then "; Secure" else "") ++
    "; SameSite=" ++ c.sameSite.name ++ "; Path=" ++ c.path ++ "; Max-Age=" ++ toString maxAge

/-- The text that makes a client drop the cookie. -/
def deleteText (c : Cookie) : String := c.setText "" 0

/-- The value of the header field that sets the cookie, if it may be one. -/
def setValue? (c : Cookie) (value : String) (maxAge : Nat) : Option Bytes :=
  Header.value? (c.setText value maxAge)

/-- The value of the header field that drops the cookie, if it may be one. -/
def deleteValue? (c : Cookie) : Option Bytes := Header.value? c.deleteText

/-- The words for a text that cannot be the value of a header field. -/
def headerError : String := "failed to parse header value"

/-- The value that one pair gives to a name. Blanks do not matter, and an empty value is none. -/
def valueOf? (name : String) (pair : List Char) : Option String := do
  let (key, value) ← Text.splitFirst? '=' (Text.trimList pair)
  let value := Text.trimList value
  guard (String.ofList (Text.trimList key) = name ∧ value ≠ [])
  return String.ofList value

/-- The first value that the cookies of a request give to a name. Fields that cannot be read as
text are passed over. -/
def find? (name : String) (headers : List Header) : Option String :=
  let texts := (Header.named "cookie" headers).filterMap Header.text?
  (texts.flatMap fun s => Text.split ';' s.toList).findSome? (valueOf? name)

end Cookie

end SessionAuth.Http
