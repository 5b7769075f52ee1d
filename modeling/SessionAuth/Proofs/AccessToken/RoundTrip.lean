import SessionAuth.Proofs.AccessToken.Soundness
import SessionAuth.Proofs.Json.Object
import SessionAuth.Proofs.Uuid

/-!
# Access tokens, signed and verified

What stands in a token are the claims that it was signed with (`Signer.claimsOf?_sign`). It is let
through from when it was signed until it ends, and then gives these claims (`Signer.verify_sign`).
-/

namespace SessionAuth.AccessToken

open Json

variable {c : Claims} {now : Int}

/-! ### Claims, written and read -/

/-- The times are integers of 64 bits. -/
structure Claims.IsTimely (c : Claims) : Prop where
  issuedAt : -Nat.pow 2 63 ≤ c.issuedAt ∧ c.issuedAt < Nat.pow 2 63
  expiresAt : -Nat.pow 2 63 ≤ c.expiresAt ∧ c.expiresAt < Nat.pow 2 63

namespace Claims

/-- The claims as they are written. -/
def members (c : Claims) : List (String × String) :=
  [("jti", quote c.id), ("iss", quote c.issuer), ("sub", quote c.subject),
    ("iat", toString c.issuedAt), ("exp", toString c.expiresAt)]

theorem fill_fields (h : c.IsTimely) : Fill fields (fields.map fun _ => none) c.members
    [some (.text c.id), some (.text c.issuer), some (.text c.subject), some (.number c.issuedAt),
      some (.number c.expiresAt)] :=
  .field (f := .text "jti") (i := 0) rfl rfl ((isWritten_text c.id).map Atom.text) <|
  .field (f := .text "iss") (i := 1) rfl rfl ((isWritten_text c.issuer).map Atom.text) <|
  .field (f := .text "sub") (i := 2) rfl rfl ((isWritten_text c.subject).map Atom.text) <|
  .field (f := .number "iat") (i := 3) rfl rfl
    ((isWritten_integer h.issuedAt.1 h.issuedAt.2).map Atom.number) <|
  .field (f := .number "exp") (i := 4) rfl rfl
    ((isWritten_integer h.expiresAt.1 h.expiresAt.2).map Atom.number) .nothing

/-- Claims are read as they were written. -/
theorem ofJson_toJson (h : c.IsTimely) : ofJson (Text.utf8 c.toJson) = .ok c := by
  have hrecord := record_object (by decide) (fill_fields h) rfl []
  rw [List.append_nil] at hrecord
  exact read_of_apply (Reader.apply_bind_eq_ok.2 ⟨_, _, hrecord, rfl⟩)

end Claims

namespace Conditions

/-- What the conditions are of claims. -/
def ofClaims (c : Claims) : Conditions :=
  ⟨if 0 ≤ c.expiresAt then .understood c.expiresAt.toNat else .ignored, .understood (),
    .understood [c.issuer], .absent⟩

theorem isWritten_skip_text (s : String) : IsWritten skip (quote s) () :=
  fun rest hrest => skip_of_text (isWritten_text s rest hrest)

theorem fill_fields (h : c.IsTimely) : Fill fields (fields.map fun _ => none) c.members
    [some (.natural (if 0 ≤ c.expiresAt then .understood c.expiresAt.toNat else .ignored)), none,
      some (.names (.understood [c.subject])), some (.names (.understood [c.issuer])), none] := by
  have hid : IsWritten skip (quote c.id) () := isWritten_skip_text c.id
  have hissuedAt : IsWritten skip (toString c.issuedAt) () := fun rest hrest =>
    skip_of_integer (isWritten_integer h.issuedAt.1 h.issuedAt.2 rest hrest)
  have hnames (s : String) : IsWritten names (quote s) (.understood [s]) := fun rest hrest =>
    names_of_text (isWritten_text s rest hrest)
  have hexpiresAt : IsWritten natural (toString c.expiresAt)
      (if 0 ≤ c.expiresAt then .understood c.expiresAt.toNat else .ignored) := fun rest hrest =>
    natural_of_integer (isWritten_integer h.expiresAt.1 h.expiresAt.2 rest hrest)
  exact .other (by decide) hid <|
    .field (f := ⟨"iss", Datum.names <$> names, some (.names .absent)⟩) (i := 3) rfl rfl
      ((hnames c.issuer).map Datum.names) <|
    .field (f := ⟨"sub", Datum.names <$> names, some (.names .absent)⟩) (i := 2) rfl rfl
      ((hnames c.subject).map Datum.names) <|
    .other (by decide) hissuedAt <|
    .field (f := ⟨"exp", Datum.natural <$> natural, some (.natural .absent)⟩) (i := 0) rfl rfl
      (hexpiresAt.map Datum.natural) .nothing

theorem ofJson_toJson (h : c.IsTimely) :
    ofJson (Text.utf8 c.toJson) = .ok (ofClaims c) := by
  have hrecord := record_object (by decide) (fill_fields h) rfl []
  rw [List.append_nil] at hrecord
  exact read_of_apply (Reader.apply_bind_eq_ok.2 ⟨_, _, hrecord, rfl⟩)

end Conditions

theorem Algorithm.mem_all (algorithm : Algorithm) : algorithm ∈ all := by
  cases algorithm with
  | edwards | curve256 | curve384 => decide
  | rsa scheme strength =>
    revert strength
    cases scheme <;> decide

theorem Header.ofJson_toJson (algorithm : Algorithm) :
    ofJson (Text.utf8 (toJson algorithm)) = .ok ⟨some algorithm⟩ := by
  have hall : ∀ a ∈ Algorithm.all, (ofJson (Text.utf8 (toJson a))).toOption = some ⟨some a⟩ := by
    decide +kernel
  exact ok_of_toOption (hall algorithm algorithm.mem_all)

/-! ### Tokens -/

/-- The claims that stand in a token, whoever signed it. -/
def claimsOf? (token : String) : Option Claims := do
  let p ← Parts.ofText? token
  let bytes ← (decodePart p.payload).toOption
  (Claims.ofJson bytes).toOption

theorem claimsOf?_encodeParts (h : c.IsTimely) (header signature : Bytes) :
    claimsOf? (encodePart header ++ "." ++ encodePart (Text.utf8 c.toJson) ++ "." ++
      encodePart signature) = some c := by
  have hsplits := Parts.splits_ofContents header (Text.utf8 c.toJson) signature
  obtain ⟨-, hpayload, -⟩ := Parts.decodePart_ofContents header (Text.utf8 c.toJson) signature
  rw [claimsOf?, Parts.ofText?_eq_some_iff.2 hsplits, Option.bind_eq_bind, Option.bind_some,
    hpayload, Except.toOption, Option.bind_eq_bind, Option.bind_some, Claims.ofJson_toJson h]
  rfl

theorem Parts.utf8_encodeParts (header payload signature : Bytes) :
    Text.utf8 (encodePart header ++ "." ++ encodePart payload) =
      (ofContents header payload signature).message := by
  have htext : encodePart header ++ "." ++ encodePart payload =
      String.ofList (Base64.urlSafe.encodeList header ++
        '.' :: Base64.urlSafe.encodeList payload) := by
    apply String.toList_inj.1
    simp [encodePart, Base64.Form.encode]
  rw [htext, message, ofContents]

namespace Signer

variable {s : Signer} {v : Verifier} {bits : BitVec 128} {subject : String} {issuedAt : Instant}

/-- What the key signs for a token. -/
def message (s : Signer) (c : Claims) : Bytes := Text.utf8 (signedText s.algorithm c)

/-- A signature of a message is made by the one key and accepted by the other. -/
def IsTrusted (s : Signer) (v : Verifier) (message : Bytes) : Prop :=
  ∃ signature, s.key.sign message = .ok signature ∧ v.key.accepts message signature

instance (s : Signer) (v : Verifier) (message : Bytes) : Decidable (s.IsTrusted v message) :=
  decidable_of_iff ((s.key.sign message).toOption.any (v.key.accepts message)) <| by
    rw [Option.any_eq_true, IsTrusted]
    cases s.key.sign message <;> simp [Except.toOption]

/-- What is signed are the claims of the signer. -/
theorem sign_eq_ok {id : Uuid} {signed : Signed} (h : s.sign id subject issuedAt = .ok signed) :
    ∃ signature, s.key.sign (s.message (s.claims id subject issuedAt)) = .ok signature ∧
      signed = ⟨signedText s.algorithm (s.claims id subject issuedAt) ++ "." ++
        encodePart signature, (s.claims id subject issuedAt).expiresAt⟩ := by
  unfold sign at h
  dsimp only at h
  split at h
  next signature hsigned => exact ⟨signature, hsigned, (Except.ok.inj h).symm⟩
  next => exact nomatch h

/-- A lifetime and an end are cut at 64 bits. -/
theorem endOf_eq_min (issuedAt : Int) (lifetime : Nat) : endOf issuedAt lifetime =
    min (issuedAt + min (lifetime : Int) 9223372036854775807) 9223372036854775807 := by
  have hlast : lastSecond = 9223372036854775807 := by decide
  rw [endOf, hlast]

/-- No token ends before it is issued. -/
theorem le_endOf (issuedAt : Instant) (lifetime : Nat) :
    issuedAt.seconds ≤ endOf issuedAt.seconds lifetime := by
  have hlast := issuedAt.le_last
  rw [endOf_eq_min]
  omega

theorem isTimely_claims (s : Signer) (id : Uuid) (subject : String) (issuedAt : Instant) :
    (s.claims id subject issuedAt).IsTimely := by
  have hfirst := issuedAt.first_le
  have hlast := issuedAt.le_last
  have hle := le_endOf issuedAt s.lifetime
  have hend : endOf issuedAt.seconds s.lifetime ≤ 9223372036854775807 := Int.min_le_right _ _
  have hpow : (Nat.pow 2 63 : Int) = 9223372036854775808 := by decide
  constructor <;> simp only [claims, hpow] <;> omega

/-- A signed token is read as what it was signed for. -/
theorem claimsOf?_sign {id : Uuid} {signed : Signed} (h : s.sign id subject issuedAt = .ok signed) :
    claimsOf? signed.token = some (s.claims id subject issuedAt) := by
  obtain ⟨signature, -, rfl⟩ := sign_eq_ok h
  exact claimsOf?_encodeParts (s.isTimely_claims id subject issuedAt) _ signature

theorem message_eq (s : Signer) (c : Claims) (signature : Bytes) : s.message c =
    (Parts.ofContents (Text.utf8 (Header.toJson s.algorithm)) (Text.utf8 c.toJson)
      signature).message := by
  rw [message, signedText, Parts.utf8_encodeParts]

theorem check_claims (hissuer : c.issuer = v.issuer) (hnow : 0 ≤ now) (hlive : now ≤ c.expiresAt) :
    v.check now (.ofClaims c) = .ok () := by
  have hend : 0 ≤ c.expiresAt := Int.le_trans hnow hlive
  have hnat : ((c.expiresAt.toNat : Int)) = c.expiresAt := Int.toNat_of_nonneg hend
  simp only [Verifier.check, Conditions.ofClaims, hend, if_true, hnat, hissuer]
  rw [if_neg (by omega), if_neg (by simp)]

/-- A token that is signed is let through until it ends, and then for the claims that it was signed
with. -/
theorem verify_iff {signature : Bytes} (hissuer : v.issuer = s.issuer)
    (halgorithm : v.algorithm = s.algorithm) (hc : c.IsTimely) (hci : c.issuer = s.issuer)
    (haccepts : v.key.accepts (s.message c) signature) (hnow : 0 ≤ now) (c' : Claims) :
    v.verify now (signedText s.algorithm c ++ "." ++ encodePart signature) = .ok c' ↔
      now ≤ c.expiresAt ∧ c' = c := by
  have hpayloadRead := Claims.ofJson_toJson hc
  have hconditions := Conditions.ofJson_toJson hc
  have hheaderRead := Header.ofJson_toJson s.algorithm
  rw [message_eq s c signature] at haccepts
  rw [signedText]
  generalize Text.utf8 c.toJson = payload at *
  generalize Text.utf8 (Header.toJson s.algorithm) = header at *
  have hsplits := Parts.splits_ofContents header payload signature
  obtain ⟨hheader, hpayload, hsignature⟩ := Parts.decodePart_ofContents header payload signature
  constructor
  · intro hverify
    obtain ⟨p, hp, hchecks⟩ := Verifier.checks_of_verify hverify
    obtain rfl := hp.unique hsplits
    have hlive := hchecks.vouchesFor.expiresAt
    obtain ⟨bytes, k, hbytes, hclaims, -⟩ := hchecks.payload
    obtain rfl := Except.ok.inj (hbytes.symm.trans hpayload)
    obtain rfl := Except.ok.inj (hclaims.symm.trans hpayloadRead)
    exact ⟨hlive, rfl⟩
  · rintro ⟨hlive, rfl⟩
    rw [← halgorithm] at hheaderRead
    exact Verifier.verify_of_checks hsplits ⟨⟨header, hheader, hheaderRead⟩,
      ⟨signature, hsignature, haccepts⟩, payload, .ofClaims c', hpayload, hpayloadRead, hconditions,
      check_claims (hci.trans hissuer.symm) hnow hlive⟩

/-- Signing and verifying. A token ends its lifetime after it was issued, or with the last second,
and never before it was issued. It is let through at every second up to its end and at none behind
it, for the very claims that it was signed for, and its identifier is one of version 4. -/
theorem verify_sign (hissuer : v.issuer = s.issuer) (halgorithm : v.algorithm = s.algorithm)
    (hkey : s.IsTrusted v (s.message (s.claims (.ofRandom bits) subject issuedAt))) :
    ∃ signed, s.sign (.ofRandom bits) subject issuedAt = .ok signed ∧
      signed.expiresAt =
        min (issuedAt.seconds + min (s.lifetime : Int) 9223372036854775807) 9223372036854775807 ∧
      issuedAt.seconds ≤ signed.expiresAt ∧
      ∃ jti id, Uuid.parse? jti = some id ∧ id.version = 4 ∧
        ∀ now, 0 ≤ now → ∀ c, v.verify now signed.token = .ok c ↔
          now ≤ signed.expiresAt ∧
            c = ⟨jti, s.issuer, subject, issuedAt.seconds, signed.expiresAt⟩ := by
  obtain ⟨signature, hsigned, haccepts⟩ := hkey
  let id := Uuid.ofRandom bits
  let c := s.claims id subject issuedAt
  refine ⟨⟨signedText s.algorithm c ++ "." ++ encodePart signature, c.expiresAt⟩, ?_,
    endOf_eq_min _ _, le_endOf issuedAt s.lifetime, id.text, id, id.parse?_text, Uuid.version_ofRandom bits,
    fun now hnow c' => ?_⟩
  · unfold sign
    unfold message at hsigned
    dsimp only
    rw [hsigned]
  · exact verify_iff hissuer halgorithm (s.isTimely_claims id subject issuedAt) rfl haccepts hnow c'

end Signer

/-! ### A token for a subject with characters that JSON escapes -/

namespace Sample

/-- The seed of the private key to `key`. -/
def seed : Bytes :=
  [0xdc, 0xc2, 0x28, 0x92, 0x6a, 0xed, 0x95, 0x37, 0x4c, 0x55, 0xa9, 0x8f, 0xa8, 0x2d, 0xcc, 0xdb,
    0xb3, 0xfb, 0xf1, 0x85, 0x41, 0x17, 0x81, 0x04, 0xcc, 0xe2, 0x50, 0x94, 0x8b, 0x46, 0xbc, 0x90]

def signer : Signer := ⟨"test-issuer", .edwards, 900, .edwards seed⟩

def subject : String := "a\"b\\c\u0001\né"

def bits : BitVec 128 := 0x6f9619ff8b86d011b42d00c04fc964ff

theorem isTrusted_signer : signer.IsTrusted verifier
    (signer.message (signer.claims (.ofRandom bits) subject .epoch)) := by
  rw [Signer.message_eq _ _ [], Parts.message_ofContents]
  decide +kernel

end Sample

/-- A token of fifteen minutes at its last second, and one second later. -/
theorem Signer.verify_sign_sample :
    Sample.signer.IsTrusted Sample.verifier (Sample.signer.message
        (Sample.signer.claims (.ofRandom Sample.bits) Sample.subject .epoch)) ∧
      ∃ signed jti, Sample.signer.sign (.ofRandom Sample.bits) Sample.subject .epoch = .ok signed ∧
        Sample.verifier.verify 900 signed.token =
          .ok ⟨jti, "test-issuer", Sample.subject, 0, 900⟩ ∧
        ∀ c, Sample.verifier.verify 901 signed.token ≠ .ok c := by
  obtain ⟨signed, hsign, hend, -, jti, _, -, -, hverify⟩ :=
    verify_sign (s := Sample.signer) (v := Sample.verifier) rfl rfl Sample.isTrusted_signer
  have hend : signed.expiresAt = 900 := hend.trans (by decide)
  rw [hend] at hverify
  refine ⟨Sample.isTrusted_signer, signed, jti, hsign, ?_, fun c hc => ?_⟩
  · exact (hverify 900 (by decide) _).2 ⟨by decide, rfl⟩
  · exact absurd ((hverify 901 (by decide) c).1 hc).1 (by decide)

end SessionAuth.AccessToken
