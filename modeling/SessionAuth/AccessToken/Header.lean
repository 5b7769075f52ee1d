import SessionAuth.AccessToken.Algorithm
import SessionAuth.Json.Record

/-!
# Headers

The header of a token names the algorithm of its signature, and may hold more that is only checked
for its form.
-/

namespace SessionAuth.AccessToken

/-- A header, of which only the algorithm counts: none stands for one with a shared secret. -/
structure Header where
  algorithm : Option Algorithm
deriving DecidableEq

namespace Header

/-- Writes the header for an algorithm. -/
def toJson (algorithm : Algorithm) : String :=
  Json.object [("typ", Json.quote "JWT"), ("alg", Json.quote algorithm.name)]

/-! ### Keys in headers -/

/-- The values of the members with a name. -/
def valuesOf (name : String) (members : List (String × Json.Value)) : List Json.Value :=
  (members.filter (·.1 = name)).map (·.2)

/-- A text that satisfies a condition. -/
def isText (condition : String → Bool) : Json.Value → Bool
  | .text s => condition s
  | _ => false

/-- A name that satisfies a condition: a text, or the only member of an object, with a value that
says nothing. -/
def isName (saysNothing : Json.Value → Bool) (condition : String → Bool) : Json.Value → Bool
  | .text s => condition s
  | .object [(name, value)] => condition name && saysNothing value
  | _ => false

/-- Null alone says nothing. -/
def isNull : Json.Value → Bool
  | .null => true
  | _ => false

/-- Null and an empty object say nothing. -/
def isVoid : Json.Value → Bool
  | .null | .object [] => true
  | _ => false

/-- There is one member with the name, and it satisfies the condition. -/
def hasOne (members : List (String × Json.Value)) (name : String)
    (condition : Json.Value → Bool) : Bool :=
  match valuesOf name members with
  | [value] => condition value
  | _ => false

/-- There is at most one member with the name, and it satisfies the condition or is null. -/
def mayHave (members : List (String × Json.Value)) (name : String)
    (condition : Json.Value → Bool) : Bool :=
  match valuesOf name members with
  | [] => true
  | [.null] => true
  | [value] => condition value
  | _ => false

/-- A list of texts. -/
def isTextList : Json.Value → Bool
  | .list values => values.all (isText fun _ => true)
  | _ => false

/-- The curves of keys. -/
def curves : List String := ["P-256", "P-384", "P-521", "Ed25519"]

/-- The algorithms of keys. -/
def keyAlgorithms : List String :=
  Algorithm.all.map Algorithm.name ++ Algorithm.sharedSecretNames ++
    ["RSA1_5", "RSA-OAEP", "RSA-OAEP-256"]

/-- The members of an object describe a key. -/
def isKey (members : List (String × Json.Value)) : Bool :=
  let has := fun name => hasOne members name (isText fun _ => true)
  let kind := fun s => hasOne members "kty" (isName isNull (· == s))
  let curve := hasOne members "crv" (isName isNull (curves.contains ·))
  (kind "EC" && curve && has "x" && has "y" || kind "RSA" && has "n" && has "e" ||
      kind "oct" && has "k" || kind "OKP" && curve && has "x") &&
    (["use", "kid", "x5u", "x5t", "x5t#S256"].all fun name =>
      mayHave members name (isText fun _ => true)) &&
    mayHave members "alg" (isName isVoid (keyAlgorithms.contains ·)) &&
    mayHave members "key_ops" isTextList && mayHave members "x5c" isTextList

/-! ### Reading -/

/-- A field of the record. -/
inductive Datum where
  | algorithm (a : Option Algorithm)
  | other

/-- A field that only has to have the right form. -/
def checked {α : Type} (name : String) (r : Json.Reader α) : Json.Field Datum :=
  ⟨name, (fun _ => Datum.other) <$> Json.nullable r, some .other⟩

/-- The algorithm with a name, if the name is known. -/
def known (name : String) : Json.Reader (Option Algorithm) :=
  match Algorithm.ofName? name with
  | some a => return some a
  | none => if name ∈ Algorithm.sharedSecretNames then return none else throw .mismatch

/-- Takes the name of an algorithm: a text, or an object in which it has the value null. -/
def algorithmReader : Json.Reader (Option Algorithm) := do
  match ← Json.peek with
  | none => throw .truncated
  | some first =>
    if first = Json.code '"' then known (← Json.text)
    else if first = Json.code '\x7b' then
      Json.advance
      let a ← known (← Json.text)
      Json.expect (Json.code ':')
      match ← Json.value 0 with
      | .null =>
        Json.closeObject
        return a
      | _ => throw .mismatch
    else throw .malformed

/-- Takes an object that describes a key. -/
def keyReader : Json.Reader Unit := do
  match ← Json.value (Json.depthLimit - 1) with
  | .object members => if isKey members then return () else throw .mismatch
  | _ => throw .mismatch

/-- The fields of the record. -/
def fields : List (Json.Field Datum) :=
  [checked "typ" Json.text, .required "alg" (Datum.algorithm <$> algorithmReader),
    checked "cty" Json.text, checked "jku" Json.text, checked "jwk" keyReader,
    checked "kid" Json.text, checked "x5u" Json.text, checked "x5c" (Json.list Json.text),
    checked "x5t" Json.text, checked "x5t#S256" Json.text]

/-- Takes a header. -/
def reader : Json.Reader Header := do
  match ← Json.record fields with
  | _ :: .algorithm a :: _ => return ⟨a⟩
  | _ => throw .mismatch

/-- Reads a header. -/
def ofJson (bytes : Bytes) : Except Json.Fault Header := Json.read reader bytes

end Header

end SessionAuth.AccessToken
