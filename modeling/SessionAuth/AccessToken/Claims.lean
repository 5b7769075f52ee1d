import SessionAuth.Json.Record

/-!
# Claims

What an access token says: its own identifier, who issued it, for whom, when, and until when. The
claims are a record in JSON.
-/

namespace SessionAuth.AccessToken

/-- The claims of a token. -/
structure Claims where
  id : String
  issuer : String
  subject : String
  issuedAt : Int
  expiresAt : Int
deriving DecidableEq, Repr

namespace Claims

/-- Writes the claims. -/
def toJson (c : Claims) : String :=
  Json.object [("jti", Json.quote c.id), ("iss", Json.quote c.issuer),
    ("sub", Json.quote c.subject), ("iat", toString c.issuedAt), ("exp", toString c.expiresAt)]

/-- The fields of the record. -/
def fields : List (Json.Field Json.Atom) :=
  [.text "jti", .text "iss", .text "sub", .number "iat", .number "exp"]

/-- Takes claims. -/
def reader : Json.Reader Claims := do
  match ← Json.record fields with
  | [.text id, .text issuer, .text subject, .number issuedAt, .number expiresAt] =>
    return ⟨id, issuer, subject, issuedAt, expiresAt⟩
  | _ => throw .mismatch

/-- Reads claims. -/
def ofJson (bytes : Bytes) : Except Json.Fault Claims := Json.read reader bytes

end Claims

/-! ### Conditions on claims -/

/-- A claim as validation sees it: absent, of a form that does not count, or understood. -/
inductive Seen (α : Type) where
  | absent
  | ignored
  | understood (a : α)

/-- The claims that decide whether a token is valid. -/
structure Conditions where
  expiresAt : Seen Nat
  subject : Seen Unit
  issuer : Seen (List String)
  audience : Seen Unit

namespace Conditions

/-- Gives a value that could not be read as ignored. -/
def lenient {α : Type} (r : Json.Reader (Seen α)) : Json.Reader (Seen α) := do
  match ← r.attempt with
  | .ok seen => return seen
  | .error _ => return .ignored

/-- Takes a natural number. Of a list or an object only the brackets are taken. -/
def natural : Json.Reader (Seen Nat) := lenient do
  match ← Json.peek with
  | none => throw .truncated
  | some first =>
    if first = Json.code '[' then
      Json.advance
      Json.Reader.closedBy (throw .mismatch) Json.closeList
    else if first = Json.code '\x7b' then
      Json.advance
      Json.Reader.closedBy (throw .mismatch) Json.closeObject
    else
      match ← Json.scalar first with
      | .number (.integer n) => if 0 ≤ n then return .understood n.toNat else throw .mismatch
      | _ => throw .mismatch

/-- The texts of a text or of a list of texts. -/
def texts? : Json.Value → Option (List String)
  | .text s => some [s]
  | .list values => values.mapM fun
    | .text s => some s
    | _ => none
  | _ => none

/-- Takes a text or a list of texts. -/
def names : Json.Reader (Seen (List String)) := lenient do
  match ← Json.nullable (Json.value (Json.depthLimit - 1)) with
  | none => return .absent
  | some value =>
    match texts? value with
    | some texts => return .understood texts
    | none => return .ignored

/-- A field of the record. -/
inductive Datum where
  | natural (n : Seen Nat)
  | names (s : Seen (List String))

/-- The fields of the record. -/
def fields : List (Json.Field Datum) :=
  [⟨"exp", Datum.natural <$> natural, some (.natural .absent)⟩,
    ⟨"nbf", Datum.natural <$> natural, some (.natural .absent)⟩,
    ⟨"sub", Datum.names <$> names, some (.names .absent)⟩,
    ⟨"iss", Datum.names <$> names, some (.names .absent)⟩,
    ⟨"aud", Datum.names <$> names, some (.names .absent)⟩]

/-- Forgets what a claim says. -/
def Seen.forget {α : Type} : Seen α → Seen Unit
  | .absent => .absent
  | .ignored => .ignored
  | .understood _ => .understood ()

/-- Takes the conditions out of the claims. -/
def reader : Json.Reader Conditions := do
  match ← Json.record fields with
  | [.natural expiresAt, .natural _, .names subject, .names issuer, .names audience] =>
    return ⟨expiresAt, Seen.forget subject, issuer, Seen.forget audience⟩
  | _ => throw .mismatch

/-- Reads the conditions. -/
def ofJson (bytes : Bytes) : Except Json.Fault Conditions := Json.read reader bytes

end Conditions

end SessionAuth.AccessToken
