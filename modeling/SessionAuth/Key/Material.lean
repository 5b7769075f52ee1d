import SessionAuth.AccessToken.Algorithm
import SessionAuth.Key.Der
import SessionAuth.Key.Pem
import SessionAuth.Key.Tree
import SessionAuth.Signature.Ed25519

/-!
# Keys

Private keys sign and public keys verify. A key is loaded from PEM when its outline fits the
algorithm. Whether it can really be used shows only when it is: a private key then fails to sign,
and a public key refuses every signature.
-/

namespace SessionAuth.Key

open AccessToken (Algorithm Error KeyFault)

/-! ### Outlines -/

/-- What a key is for. -/
inductive Family where
  | elliptic
  | rsa
  | edwards
deriving DecidableEq

/-- The family that an identifier names. -/
def Family.ofIdentifier? (arcs : List Nat) : Option Family :=
  if arcs = [1, 2, 840, 10045, 2, 1] then some .elliptic
  else if arcs = [1, 2, 840, 113549, 1, 1, 1] then some .rsa
  else if arcs = [1, 3, 101, 112] then some .edwards
  else none

/-- How the content of a key is arranged: an RSA key alone, or a key of a named family within a
frame that may be for private keys. -/
inductive Arrangement where
  | plainRsa
  | framed (family : Family) (isPrivate : Bool)
deriving DecidableEq

/-- A key whose outline is known. -/
structure Material where
  arrangement : Arrangement
  content : Bytes
  outline : List Element

namespace Material

/-- The words for a key of the wrong form. -/
def wrongForm : Error := .invalidKey "InvalidKeyFormat"

/-- The arrangement that a label announces and an outline confirms. -/
def arrangement? (label : String) (outline : List Element) : Option Arrangement :=
  let framed := fun isPrivate =>
    (Element.firstMeaning? Family.ofIdentifier? outline).map (.framed · isPrivate)
  match label with
  | "RSA PRIVATE KEY" | "RSA PUBLIC KEY" => some .plainRsa
  | "PRIVATE KEY" => framed true
  | "PUBLIC KEY" | "CERTIFICATE" => framed false
  | _ => none

/-- Reads the outline of a key. -/
def ofPem (pem : Bytes) : Except Error Material := do
  let some pem := Pem.parse? pem | throw wrongForm
  let outline ← (Element.ofBytes pem.content).mapError fun
    | .malformed => wrongForm
    | .aborted => .aborted
  let some arrangement := arrangement? pem.label outline | throw wrongForm
  return ⟨arrangement, pem.content, outline⟩

/-- The words for a key that lacks what makes it one. -/
def lacksContent : Error := .invalidKey "InvalidEcdsaKey"

/-- The first string of bits or bytes. -/
def firstString (m : Material) : Except Error Bytes :=
  match Element.firstString? m.outline with
  | some content => .ok content
  | none => .error lacksContent

/-- The content of an RSA key, private or public. -/
def rsaContent (m : Material) : Except Error Bytes :=
  match m.arrangement with
  | .plainRsa => .ok m.content
  | .framed .rsa _ => m.firstString
  | .framed _ _ => .error wrongForm

/-- The content of a framed key of a family. -/
def framedContent (m : Material) (family : Family) (isPrivate : Bool) : Except Error Bytes :=
  if m.arrangement = .framed family isPrivate then
    if isPrivate then .ok m.content else m.firstString
  else .error wrongForm

end Material

/-! ### Strict reading -/

/-- The identifier of keys for Ed25519. -/
def edwardsIdentifier : Bytes := [0x06, 0x03, 0x2b, 0x65, 0x70]

/-- The identifier of keys on an elliptic curve. -/
def ellipticIdentifier : Bytes := [0x06, 0x07, 0x2a, 0x86, 0x48, 0xce, 0x3d, 0x02, 0x01]

/-- The identifier of the curve of 256 bits. -/
def curve256Identifier : Bytes := [0x06, 0x08, 0x2a, 0x86, 0x48, 0xce, 0x3d, 0x03, 0x01, 0x07]

/-- The identifier of the curve of 384 bits. -/
def curve384Identifier : Bytes := [0x06, 0x05, 0x2b, 0x81, 0x04, 0x00, 0x22]

/-- Takes an optional element out of the way. -/
def skipOptional (tag : Der.Tag) (bytes : Bytes) : Option Bytes :=
  if bytes.head? = some tag.code then (Der.take? tag bytes).map (·.2) else some bytes

/-- The public key at the end of a frame: the content of an element, or of one within it. -/
def attachedKey? (bytes : Bytes) : Option Bytes := do
  if bytes.head? = some Der.Tag.context1.code then
    Der.allBits? (← Der.whole? .bitString (← Der.whole? .context1 bytes))
  else Der.allBits? (← Der.whole? .contextContent1 bytes)

/-- The private key within a frame for keys of the given kind, and the public key that a frame of
the second version holds too. -/
def unframe? (identifier : Bytes) (mayHoldPublicKey : Bool) (bytes : Bytes) :
    Option (Bytes × Option Bytes) := do
  let frame ← Der.whole? .sequence bytes
  let (version, rest) ← Der.number? frame
  let (actual, rest) ← Der.take? .sequence rest
  guard (actual = identifier)
  guard (version = 0 ∨ version = 1 ∧ mayHoldPublicKey)
  let (content, rest) ← Der.take? .octetString rest
  let rest ← skipOptional .context0 rest
  if version = 0 then
    guard rest.isEmpty
    return (content, none)
  else return (content, some (← attachedKey? rest))

/-- The seed within a framed key for Ed25519. -/
def edwardsSeed? (bytes : Bytes) : Option Bytes := do
  let (content, publicKey) ← unframe? edwardsIdentifier true bytes
  let seed ← Der.whole? .octetString content
  guard (seed.length = 32)
  guard (publicKey.all (· = Signature.Ed25519.publicKey seed))
  return seed

/-- The secret number within a framed key on a curve. The public key beside it has to belong to
it. -/
def curveSecret? (curve : Signature.Ecdsa.Curve) (identifier : Bytes) (bytes : Bytes) :
    Option Nat := do
  let (content, _) ← unframe? (ellipticIdentifier ++ identifier) false bytes
  let (version, rest) ← Der.number? (← Der.whole? .sequence content)
  guard (version = 1)
  let (secretBytes, rest) ← Der.take? .octetString rest
  guard (rest.head? ≠ some Der.Tag.context0.code ∨
    (Der.take? .context0 rest).map (·.1) = some identifier)
  let rest ← skipOptional .context0 rest
  let publicKey ← Der.allBits? (← Der.whole? .bitString (← Der.whole? .context1 rest))
  let secret := Signature.Modular.ofBytes secretBytes
  guard (secretBytes.length = curve.size ∧ 0 < secret ∧ secret < curve.order)
  guard (curve.pointBytes (curve.mul secret curve.base) = some publicKey)
  return secret

/-- The parts of a private RSA key that can be used. -/
def rsaPrivateKey? (bytes : Bytes) : Option Signature.Rsa.PrivateKey := do
  let (numbers, rest) ← Der.numbers? 9 (← Der.whole? .sequence bytes)
  guard rest.isEmpty
  match numbers with
  | [0, n, e, d, p, q, dp, dq, c] =>
    let key : Signature.Rsa.PrivateKey := ⟨n, e, d, p, q, dp, dq, c⟩
    if key.isUsable then some key else none
  | _ => none

/-- The parts of a public RSA key. -/
def rsaPublicKey? (bytes : Bytes) : Option Signature.Rsa.PublicKey := do
  let (numbers, rest) ← Der.numbers? 2 (← Der.whole? .sequence bytes)
  guard rest.isEmpty
  match numbers with
  | [n, e] => some ⟨n, e⟩
  | _ => none

/-! ### Private keys -/

/-- A key that signs, or fails to. -/
inductive Private where
  | edwards (seed : Bytes)
  | elliptic (curve : Signature.Ecdsa.Curve) (secret : Nat)
  | rsa (scheme : Signature.Rsa.Scheme) (hash : Signature.Rsa.Hash)
    (key : Signature.Rsa.PrivateKey)
  | unusable (fault : KeyFault)

namespace Private

/-- Loads the private key for an algorithm. -/
def ofPem (algorithm : Algorithm) (pem : Bytes) : Except Error Private := do
  let m ← Material.ofPem pem
  let elliptic := fun curve identifier => do
    let content ← m.framedContent .elliptic true
    return ((curveSecret? curve identifier content).map (elliptic curve)).getD (unusable .curve)
  match algorithm with
  | .edwards =>
    let content ← m.framedContent .edwards true
    return ((edwardsSeed? content).map edwards).getD (unusable .curve)
  | .curve256 => elliptic Signature.Ecdsa.p256 curve256Identifier
  | .curve384 => elliptic Signature.Ecdsa.p384 curve384Identifier
  | .rsa scheme strength =>
    let content ← m.rsaContent
    return ((rsaPrivateKey? content).map (rsa scheme (Algorithm.hash strength))).getD
      (unusable .rsa)

/-- Signs a message. -/
def sign (key : Private) (message : Bytes) : Except KeyFault Bytes :=
  match key with
  | edwards seed => .ok (Signature.Ed25519.sign seed message)
  | elliptic curve secret => .ok (curve.sign secret message)
  | rsa scheme hash key =>
    match Signature.Rsa.sign? scheme hash key message with
    | some signature => .ok signature
    | none => .error .failedRsa
  | unusable fault => .error fault

end Private

/-! ### Public keys -/

/-- A key that verifies. -/
inductive Public where
  | edwards (key : Bytes)
  | elliptic (curve : Signature.Ecdsa.Curve) (key : Bytes)
  | rsa (scheme : Signature.Rsa.Scheme) (hash : Signature.Rsa.Hash) (key : Signature.Rsa.PublicKey)
  | unusable

namespace Public

/-- Loads the public key for an algorithm. -/
def ofPem (algorithm : Algorithm) (pem : Bytes) : Except Error Public := do
  let m ← Material.ofPem pem
  match algorithm with
  | .edwards => return edwards (← m.framedContent .edwards false)
  | .curve256 => return elliptic Signature.Ecdsa.p256 (← m.framedContent .elliptic false)
  | .curve384 => return elliptic Signature.Ecdsa.p384 (← m.framedContent .elliptic false)
  | .rsa scheme strength =>
    let content ← m.rsaContent
    return ((rsaPublicKey? content).map (rsa scheme (Algorithm.hash strength))).getD unusable

/-- Whether a signature of a message is valid. -/
def accepts (key : Public) (message signature : Bytes) : Bool :=
  match key with
  | edwards key => Signature.Ed25519.verify key message signature
  | elliptic curve key => curve.verify key message signature
  | rsa scheme hash key => Signature.Rsa.verify scheme hash key message signature
  | unusable => false

end Public

end SessionAuth.Key
