import SessionAuth.Json.Record

/-!
# Bodies of requests and responses

What clients send and are sent, as records in JSON.
-/

namespace SessionAuth.Http

open Json (Atom Reader)

/-- A request for a new account. -/
structure SignUpRequest where
  email : String
  password : String
  confirmation : String
deriving DecidableEq, Repr

namespace SignUpRequest

/-- The fields of the record. -/
def fields : List (Json.Field Atom) := [.text "email", .text "password", .text "confirmPassword"]

/-- Takes the record. -/
def reader : Reader SignUpRequest := do
  match ← Json.record fields with
  | [.text email, .text password, .text confirmation] => return ⟨email, password, confirmation⟩
  | _ => throw .mismatch

end SignUpRequest

/-- A request for a new session. -/
structure LoginRequest where
  email : String
  password : String
  fingerprint : String
deriving DecidableEq, Repr

namespace LoginRequest

/-- The fields of the record. -/
def fields : List (Json.Field Atom) := [.text "email", .text "password", .text "fingerprint"]

/-- Takes the record. -/
def reader : Reader LoginRequest := do
  match ← Json.record fields with
  | [.text email, .text password, .text fingerprint] => return ⟨email, password, fingerprint⟩
  | _ => throw .mismatch

end LoginRequest

/-- A request to continue a session. -/
structure RefreshRequest where
  fingerprint : String
deriving DecidableEq, Repr

namespace RefreshRequest

/-- The fields of the record. -/
def fields : List (Json.Field Atom) := [.text "fingerprint"]

/-- Takes the record. -/
def reader : Reader RefreshRequest := do
  match ← Json.record fields with
  | [.text fingerprint] => return ⟨fingerprint⟩
  | _ => throw .mismatch

end RefreshRequest

/-- The answer to a request for an account. -/
structure SignUpResponse where
  id : String
  email : String
deriving DecidableEq, Repr

namespace SignUpResponse

/-- The fields of the record. -/
def fields : List (Json.Field Atom) := [.text "id", .text "email"]

/-- Takes the record. -/
def reader : Reader SignUpResponse := do
  match ← Json.record fields with
  | [.text id, .text email] => return ⟨id, email⟩
  | _ => throw .mismatch

/-- Writes the record. -/
def toJson (r : SignUpResponse) : String :=
  Json.object [("id", Json.quote r.id), ("email", Json.quote r.email)]

end SignUpResponse

/-- The answer to a request that gives a session. -/
structure AccessTokenResponse where
  accessToken : String
  expiresAt : Int
deriving DecidableEq, Repr

namespace AccessTokenResponse

/-- The fields of the record. -/
def fields : List (Json.Field Atom) := [.text "accessToken", .number "expiresAt"]

/-- Takes the record. -/
def reader : Reader AccessTokenResponse := do
  match ← Json.record fields with
  | [.text accessToken, .number expiresAt] => return ⟨accessToken, expiresAt⟩
  | _ => throw .mismatch

/-- Writes the record. -/
def toJson (r : AccessTokenResponse) : String :=
  Json.object [("accessToken", Json.quote r.accessToken), ("expiresAt", toString r.expiresAt)]

end AccessTokenResponse

/-- What a client is told about its session. -/
structure SessionResponse where
  email : String
  tokenId : String
  expiresAt : Int
deriving DecidableEq, Repr

namespace SessionResponse

/-- The fields of the record. -/
def fields : List (Json.Field Atom) := [.text "email", .text "tokenId", .number "expiresAt"]

/-- Takes the record. -/
def reader : Reader SessionResponse := do
  match ← Json.record fields with
  | [.text email, .text tokenId, .number expiresAt] => return ⟨email, tokenId, expiresAt⟩
  | _ => throw .mismatch

/-- Writes the record. -/
def toJson (r : SessionResponse) : String :=
  Json.object [("email", Json.quote r.email), ("tokenId", Json.quote r.tokenId),
    ("expiresAt", toString r.expiresAt)]

end SessionResponse

end SessionAuth.Http
