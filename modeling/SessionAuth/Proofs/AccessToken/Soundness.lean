import SessionAuth.AccessToken.Verifier
import SessionAuth.Proofs.AccessToken.Claims
import SessionAuth.Proofs.Bytes.Base64
import SessionAuth.Proofs.Result
import SessionAuth.Proofs.Text.Split

/-!
# Soundness of access tokens

A verifier lets a token through only for what it says and who signed it. Main statement:
`Verifier.verify_sound`.
-/

namespace SessionAuth.AccessToken

open Json

variable {p : Parts} {v : Verifier} {now : Int} {token : String} {c : Claims}

/-! ### The parts of a token -/

namespace Parts

/-- The parts stand around the last two points of a token. -/
structure Splits (p : Parts) (token : String) : Prop where
  text : token.toList = p.header ++ '.' :: p.payload ++ '.' :: p.signature
  payload : '.' ∉ p.payload
  signature : '.' ∉ p.signature

/-- The first part is a header. -/
def HasHeader (p : Parts) (h : Header) : Prop :=
  ∃ bytes, decodePart p.header = .ok bytes ∧ Header.ofJson bytes = .ok h

theorem ofText?_eq_some_iff : ofText? token = some p ↔ p.Splits token := by
  unfold ofText?
  constructor
  · intro h
    obtain ⟨⟨message, signature⟩, houter, h⟩ := Option.bind_eq_some_iff.1 h
    obtain ⟨⟨header, payload⟩, hinner, h⟩ := Option.bind_eq_some_iff.1 h
    cases h
    obtain ⟨htoken, hsignature⟩ := Text.splitLast?_eq_some_iff.1 houter
    obtain ⟨hmessage, hpayload⟩ := Text.splitLast?_eq_some_iff.1 hinner
    exact ⟨hmessage ▸ htoken, hpayload, hsignature⟩
  · rintro ⟨htext, hpayload, hsignature⟩
    refine Option.bind_eq_some_iff.2 ⟨(p.header ++ '.' :: p.payload, p.signature),
      Text.splitLast?_eq_some_iff.2 ⟨htext, hsignature⟩, Option.bind_eq_some_iff.2
        ⟨(p.header, p.payload), Text.splitLast?_eq_some_iff.2 ⟨rfl, hpayload⟩, rfl⟩⟩

theorem Splits.unique {q : Parts} (h : p.Splits token) (h' : q.Splits token) : p = q :=
  Option.some.inj ((ofText?_eq_some_iff.2 h).symm.trans (ofText?_eq_some_iff.2 h'))

end Parts

/-! ### Tokens put together -/

theorem decodePart_encodeList (bytes : Bytes) :
    decodePart (Base64.urlSafe.encodeList bytes) = .ok bytes := by
  rw [decodePart, Base64.Form.decodeList?_encodeList Base64.Form.isLawful_urlSafe]

theorem point_not_mem_encodeList (bytes : Bytes) : '.' ∉ Base64.urlSafe.encodeList bytes :=
  Base64.Form.not_mem_encodeList (by decide) (by decide) bytes

namespace Parts

/-- The parts of a token with the given contents. -/
def ofContents (header payload signature : Bytes) : Parts :=
  ⟨Base64.urlSafe.encodeList header, Base64.urlSafe.encodeList payload,
    Base64.urlSafe.encodeList signature⟩

theorem splits_ofContents (header payload signature : Bytes) :
    (ofContents header payload signature).Splits
      (encodePart header ++ "." ++ encodePart payload ++ "." ++ encodePart signature) := by
  refine ⟨?_, point_not_mem_encodeList _, point_not_mem_encodeList _⟩
  simp [ofContents, encodePart, Base64.Form.encode]

theorem decodePart_ofContents (header payload signature : Bytes) :
    let p := ofContents header payload signature
    decodePart p.header = .ok header ∧ decodePart p.payload = .ok payload ∧
      decodePart p.signature = .ok signature :=
  ⟨decodePart_encodeList _, decodePart_encodeList _, decodePart_encodeList _⟩

/-- A token is put together of visible characters. -/
theorem visible_ofContents (header payload signature : Bytes) :
    ∀ c ∈ (encodePart header ++ "." ++ encodePart payload ++ "." ++ encodePart signature).toList,
      0x20 < c.toNat ∧ c.toNat < 0x7f := by
  have hpart (bytes : Bytes) : ∀ c ∈ Base64.urlSafe.encodeList bytes,
      0x20 < c.toNat ∧ c.toNat < 0x7f :=
    Base64.Form.forall_mem_encodeList (by decide) (by decide) bytes
  intro c hc
  rw [(splits_ofContents header payload signature).text] at hc
  simp only [List.mem_append, List.mem_cons] at hc
  rcases hc with (hc | rfl | hc) | rfl | hc
  · exact hpart header c hc
  · decide
  · exact hpart payload c hc
  · decide
  · exact hpart signature c hc

theorem message_ofContents (header payload signature : Bytes) :
    (ofContents header payload signature).message =
      (Base64.urlSafe.encodeList header ++ '.' :: Base64.urlSafe.encodeList payload).flatMap
        String.utf8EncodeChar := by
  rw [message, Text.utf8, String.toList_ofList]
  rfl

end Parts

/-! ### What verification checks -/

theorem ok_of_toOption {ε α : Type} {r : Except ε α} {a : α} (h : r.toOption = some a) :
    r = .ok a := by
  cases r with
  | error => cases h
  | ok => exact congrArg _ (Option.some.inj h)

theorem orMalformed_eq_ok {α : Type} {r : Except Fault α} {a : α} :
    orMalformed r = .ok a ↔ r = .ok a := by
  cases r <;> simp [orMalformed]

/-- What a verifier has checked of a token that it lets through: each part, in its order. -/
structure Verifier.Checks (v : Verifier) (now : Int) (p : Parts) (c : Claims) : Prop where
  header : p.HasHeader ⟨some v.algorithm⟩
  signature : ∃ bytes, decodePart p.signature = .ok bytes ∧ v.key.accepts p.message bytes
  payload : ∃ bytes k, decodePart p.payload = .ok bytes ∧ Claims.ofJson bytes = .ok c ∧
    Conditions.ofJson bytes = .ok k ∧ v.check now k = .ok ()

theorem Verifier.checks_of_verify (h : v.verify now token = .ok c) :
    ∃ p : Parts, p.Splits token ∧ v.Checks now p c := by
  unfold verify at h
  cases hp : Parts.ofText? token with
  | none =>
    rw [hp] at h
    cases h
  | some p =>
    rw [hp] at h
    obtain ⟨headerBytes, hbytes, h⟩ := bind_eq_ok.1 h
    obtain ⟨header, hheader, h⟩ := bind_eq_ok.1 h
    dsimp only at h
    split at h
    · cases h
    next halgorithm =>
      obtain ⟨signature, hsignature, h⟩ := bind_eq_ok.1 h
      split at h
      · cases h
      next haccepts =>
        obtain ⟨payload, hpayload, h⟩ := bind_eq_ok.1 h
        obtain ⟨claims, hclaims, h⟩ := bind_eq_ok.1 h
        obtain ⟨conditions, hconditions, h⟩ := bind_eq_ok.1 h
        obtain ⟨_, hcheck, hreturn⟩ := bind_eq_ok.1 h
        cases hreturn
        refine ⟨p, Parts.ofText?_eq_some_iff.1 hp, ⟨headerBytes, hbytes, ?_⟩,
          ⟨signature, hsignature, by simpa using haccepts⟩,
          ⟨payload, conditions, hpayload, orMalformed_eq_ok.1 hclaims,
            orMalformed_eq_ok.1 hconditions, hcheck⟩⟩
        rw [orMalformed_eq_ok.1 hheader, ← Decidable.not_not.1 halgorithm]

theorem Verifier.verify_of_checks (hp : p.Splits token) (h : v.Checks now p c) :
    v.verify now token = .ok c := by
  obtain ⟨⟨headerBytes, hbytes, hheader⟩, ⟨signature, hsignature, haccepts⟩,
    ⟨payload, conditions, hpayload, hclaims, hconditions, hcheck⟩⟩ := h
  simp only [verify, Parts.ofText?_eq_some_iff.2 hp]
  refine bind_eq_ok.2 ⟨_, hbytes, bind_eq_ok.2 ⟨_, orMalformed_eq_ok.2 hheader, ?_⟩⟩
  simp only [ne_eq, not_true_eq_false, if_false]
  refine bind_eq_ok.2 ⟨_, hsignature, ?_⟩
  simp only [haccepts, Bool.not_true, Bool.false_eq_true, if_false]
  exact bind_eq_ok.2 ⟨_, hpayload, bind_eq_ok.2 ⟨_, orMalformed_eq_ok.2 hclaims,
    bind_eq_ok.2 ⟨_, orMalformed_eq_ok.2 hconditions, bind_eq_ok.2 ⟨_, hcheck, rfl⟩⟩⟩⟩

/-- A header that names another algorithm is answered for that, whatever else is in the token. -/
theorem Verifier.verify_of_header {h : Header} (hp : p.Splits token) (hheader : p.HasHeader h)
    (halgorithm : h.algorithm ≠ some v.algorithm) :
    v.verify now token = .error .algorithmMismatch := by
  obtain ⟨bytes, hbytes, hheader⟩ := hheader
  simp only [verify, Parts.ofText?_eq_some_iff.2 hp, hbytes]
  change (orMalformed (Header.ofJson bytes) >>= _) = _
  rw [orMalformed_eq_ok.2 hheader]
  change (if h.algorithm ≠ some v.algorithm then _ else _) = _
  rw [if_pos halgorithm]
  rfl

/-! ### What is wrong with a token -/

/-- The error tells of the token and of nothing else. -/
def Error.IsRefusal (e : Error) : Prop :=
  e = .expired ∨ e = .algorithmMismatch ∨ e = .invalidSignature ∨
    (∃ fault, e = .invalidClaims fault) ∨ ∃ fault, e = .malformed fault

theorem Error.isRefusal_malformed (fault : FormFault) : (malformed fault).IsRefusal :=
  .inr (.inr (.inr (.inr ⟨fault, rfl⟩)))

theorem Error.isRefusal_invalidClaims (fault : ClaimsFault) : (invalidClaims fault).IsRefusal :=
  .inr (.inr (.inr (.inl ⟨fault, rfl⟩)))

theorem isRefusal_of_decodePart {cs : List Char} {e : Error} (h : decodePart cs = .error e) :
    e.IsRefusal := by
  unfold decodePart at h
  split at h <;> cases h
  exact Error.isRefusal_malformed _

theorem isRefusal_of_orMalformed {α : Type} {r : Except Fault α} {e : Error}
    (h : orMalformed r = .error e) : e.IsRefusal := by
  cases r <;> cases h
  exact Error.isRefusal_malformed _

theorem Verifier.isRefusal_of_check {k : Conditions} {e : Error} (h : v.check now k = .error e) :
    e.IsRefusal := by
  unfold check at h
  split at h
  next =>
    split_ifs at h
    · cases h
      exact .inl rfl
    · cases h
      exact Error.isRefusal_invalidClaims _
    · split at h <;> cases h
      exact Error.isRefusal_malformed _
  all_goals
    cases h
    exact Error.isRefusal_invalidClaims _

/-- Whatever the text of a token is, a verifier that does not let it through says what is wrong with
the token. -/
theorem Verifier.isRefusal_of_verify {e : Error} (h : v.verify now token = .error e) :
    e.IsRefusal := by
  unfold verify at h
  cases hp : Parts.ofText? token with
  | none =>
    rw [hp] at h
    cases h
    exact Error.isRefusal_malformed _
  | some p =>
    rw [hp] at h
    rcases bind_eq_error.1 h with h | ⟨headerBytes, -, h⟩
    · exact isRefusal_of_decodePart h
    rcases bind_eq_error.1 h with h | ⟨header, -, h⟩
    · exact isRefusal_of_orMalformed h
    dsimp only at h
    split at h
    · cases h
      exact .inr (.inl rfl)
    rcases bind_eq_error.1 h with h | ⟨signature, -, h⟩
    · exact isRefusal_of_decodePart h
    split at h
    · cases h
      exact .inr (.inr (.inl rfl))
    rcases bind_eq_error.1 h with h | ⟨payload, -, h⟩
    · exact isRefusal_of_decodePart h
    rcases bind_eq_error.1 h with h | ⟨claims, -, h⟩
    · exact isRefusal_of_orMalformed h
    rcases bind_eq_error.1 h with h | ⟨conditions, -, h⟩
    · exact isRefusal_of_orMalformed h
    rcases bind_eq_error.1 h with h | ⟨_, -, h⟩
    · exact isRefusal_of_check h
    · cases h

/-! ### What the conditions decide -/

/-- Conditions that hold know the end, which is not past, the issuer, and no audience. -/
theorem Verifier.of_check {k : Conditions} (h : v.check now k = .ok ()) :
    ∃ n : Nat, k.expiresAt = .understood n ∧ now ≤ n ∧ k.issuer = .understood [v.issuer] ∧
      k.audience ≠ .understood () := by
  unfold check at h
  split at h
  next n issuers hexpires _ hissuer =>
    split at h
    · cases h
    next hlive =>
      split at h
      · cases h
      next hissuers =>
        split at h
        · cases h
        next haudience =>
          rw [Decidable.not_not] at hissuers
          subst hissuers
          exact ⟨n, hexpires, Int.not_lt.1 hlive, hissuer, haudience⟩
  all_goals cases h

/-! ### Soundness -/

/-- What a verifier vouches for: the header names its algorithm, the last part signs the exact text
before it, and the payload is an object in which the five claims stand once each in their types,
with the verifier's issuer and an end that is not past, and in which no audience is named. -/
structure Verifier.VouchesFor (v : Verifier) (now : Int) (p : Parts) (c : Claims) : Prop where
  header : p.HasHeader ⟨some v.algorithm⟩
  signature : ∃ bytes, decodePart p.signature = .ok bytes ∧ v.key.accepts p.message bytes
  payload : ∃ bytes members, decodePart p.payload = .ok bytes ∧ Claims.ofJson bytes = .ok c ∧
    IsObject bytes members ∧ c.AreIn members ∧ ¬NamesAudience members
  issuer : c.issuer = v.issuer
  expiresAt : now ≤ c.expiresAt

theorem Verifier.eq_of_ofPem {issuer : String} {algorithm : Algorithm} {pem : Bytes}
    (hv : Verifier.ofPem issuer algorithm pem = .ok v) :
    v.issuer = issuer ∧ v.algorithm = algorithm ∧ Key.Public.ofPem algorithm pem = .ok v.key := by
  unfold ofPem at hv
  cases hkey : Key.Public.ofPem algorithm pem with
  | error e =>
    rw [hkey] at hv
    cases hv
  | ok key =>
    rw [hkey] at hv
    cases hv
    exact ⟨rfl, rfl, rfl⟩

theorem Verifier.Checks.vouchesFor (h : v.Checks now p c) : v.VouchesFor now p c := by
  obtain ⟨bytes, k, hbytes, hclaims, hconditions, hcheck⟩ := h.payload
  obtain ⟨n, hn, hlive, hissuer, haudience⟩ := of_check hcheck
  obtain ⟨z, hbrace⟩ : ∃ z, bytes.dropWhile isBlank = code '\x7b' :: z := by
    obtain ⟨y, hrecord, _⟩ := Claims.record_of_ofJson hclaims
    cases readsRecord_of_record hrecord with
    | object hbrace => exact ⟨_, hbrace⟩
    | list hlist =>
      rw [Conditions.ignored_of_list hclaims hconditions hlist] at hn
      cases hn
  obtain ⟨members, hobject⟩ := Claims.exists_isObject hclaims hbrace
  have hin := Claims.areIn_of_ofJson hclaims hobject
  have hagree := Conditions.agree_of_ofJson hconditions hobject hin
  refine ⟨h.header, h.signature, ⟨bytes, members, hbytes, hclaims, hobject, hin, ?_⟩, ?_, ?_⟩
  · exact fun hnames => haudience (hagree.audience hnames)
  · have heq := hagree.issuer.symm.trans hissuer
    injection heq with heq
    injection heq
  · have heq := hagree.expiresAt.symm.trans hn
    split at heq
    · injection heq with heq
      omega
    · cases heq

/-- The end of a token that is let through is an integer of 64 bits. -/
theorem Verifier.VouchesFor.expiresAt_lt (h : v.VouchesFor now p c) :
    c.expiresAt < Nat.pow 2 63 := by
  obtain ⟨bytes, members, -, -, -, hin, -⟩ := h.payload
  obtain ⟨x, -, hx⟩ := hin.expiresAt
  exact lt_of_integer (Prod.ext hx rfl)

/-- An access token is let through only if its header names the configured algorithm, what is behind
its last point signs the exact text before it under the configured key, and its payload holds the
claims that are given, with the configured issuer, an end that is not past, and no audience. Where
the header names another algorithm, that alone is answered. -/
theorem Verifier.verify_sound {issuer : String} {algorithm : Algorithm} {pem : Bytes}
    (hv : Verifier.ofPem issuer algorithm pem = .ok v) :
    (v.issuer = issuer ∧ v.algorithm = algorithm ∧ Key.Public.ofPem algorithm pem = .ok v.key) ∧
      (∀ now token c, v.verify now token = .ok c →
        ∃ p : Parts, p.Splits token ∧ v.VouchesFor now p c) ∧
      ∀ now token (p : Parts) h, p.Splits token → p.HasHeader h → h.algorithm ≠ some algorithm →
        v.verify now token = .error .algorithmMismatch := by
  obtain ⟨rfl, rfl, hkey⟩ := eq_of_ofPem hv
  refine ⟨⟨rfl, rfl, hkey⟩, fun now token c h => ?_,
    fun now token p h hp hheader halgorithm => verify_of_header hp hheader halgorithm⟩
  obtain ⟨p, hp, hchecks⟩ := checks_of_verify h
  exact ⟨p, hp, hchecks.vouchesFor⟩

/-! ### A token with an audience that cannot be read -/

namespace Sample

/-- A public key. -/
def key : Bytes :=
  [0x1f, 0x15, 0x0a, 0x8e, 0x64, 0x7c, 0x3b, 0x45, 0x31, 0x21, 0x51, 0xea, 0xc7, 0xea, 0x28, 0x43,
    0x4c, 0xdf, 0x04, 0x4a, 0x7c, 0x56, 0x83, 0x64, 0x33, 0xc3, 0x18, 0x82, 0xf5, 0x30, 0xd6, 0x91]

/-- The key as it is configured. -/
def pem : Bytes :=
  Text.utf8 "-----BEGIN PUBLIC KEY-----
MCowBQYDK2VwAyEAHxUKjmR8O0UxIVHqx+ooQ0zfBEp8VoNkM8MYgvUw1pE=
-----END PUBLIC KEY-----
"

def verifier : Verifier := ⟨"test-issuer", .edwards, .edwards key⟩

def claims : Claims :=
  ⟨"6f9619ff-8b86-4011-b42d-00c04fc964ff", "test-issuer", "test@email.com", 1700000000, 4102444800⟩

/-- The claims, and an audience that is neither a text nor a list of texts. -/
def payload : Bytes :=
  Text.utf8 (Json.object [("jti", Json.quote claims.id), ("iss", Json.quote claims.issuer),
    ("sub", Json.quote claims.subject), ("iat", toString claims.issuedAt),
    ("exp", toString claims.expiresAt), ("aud", Json.object [])])

def signature : Bytes :=
  [0x0d, 0x4a, 0xa4, 0x68, 0x81, 0x2b, 0x5e, 0x32, 0x35, 0x66, 0xbd, 0x76, 0x6f, 0x24, 0x52, 0x99,
    0x9e, 0x6a, 0x22, 0x8b, 0x12, 0x18, 0xfe, 0xba, 0xf5, 0x32, 0x65, 0x77, 0x2b, 0x6a, 0xd5, 0xc8,
    0x96, 0x15, 0x62, 0xfd, 0x3a, 0xe1, 0x29, 0xa1, 0xf2, 0xd8, 0x5f, 0xf6, 0x53, 0x30, 0xb6, 0x11,
    0x02, 0x05, 0xe0, 0xd5, 0x65, 0x71, 0xf8, 0x3a, 0x4f, 0x0f, 0xc5, 0x4f, 0x20, 0xc2, 0x1b, 0x0a]

def header : Bytes := Text.utf8 (Header.toJson .edwards)

def signed : String := encodePart header ++ "." ++ encodePart payload ++ "." ++ encodePart signature

/-- A header that names an algorithm with a shared secret. -/
def foreignHeader : Bytes := Text.utf8 (Json.object [("alg", Json.quote "HS256")])

theorem ofPem_pem : Verifier.ofPem "test-issuer" .edwards pem = .ok verifier := by
  have hkey : (match Key.Public.ofPem .edwards pem with
      | .ok (.edwards k) => k == key
      | _ => false) = true := by decide +kernel
  split at hkey
  next k hk =>
    rw [beq_iff_eq] at hkey
    rw [Verifier.ofPem, hk, hkey]
    rfl
  · cases hkey

theorem ofJson_header : Header.ofJson header = .ok ⟨some .edwards⟩ :=
  ok_of_toOption (by decide +kernel)

theorem ofJson_foreignHeader : Header.ofJson foreignHeader = .ok ⟨none⟩ :=
  ok_of_toOption (by decide +kernel)

theorem ofJson_payload : Claims.ofJson payload = .ok claims := ok_of_toOption (by decide +kernel)

theorem check_payload :
    ∃ k, Conditions.ofJson payload = .ok k ∧ verifier.check 1700000000 k = .ok () := by
  have hcheck : (Conditions.ofJson payload).toOption.any
      (fun k => (verifier.check 1700000000 k).toOption.isSome) = true := by decide +kernel
  obtain ⟨k, hk, hany⟩ := (Option.any_eq_true _ _).1 hcheck
  obtain ⟨_, hunit⟩ := Option.isSome_iff_exists.1 hany
  exact ⟨k, ok_of_toOption hk, ok_of_toOption hunit⟩

theorem accepts_signature :
    verifier.key.accepts (Parts.ofContents header payload signature).message signature := by
  rw [Parts.message_ofContents]
  decide +kernel

theorem verify_signed : verifier.verify 1700000000 signed = .ok claims := by
  obtain ⟨k, hk, hcheck⟩ := check_payload
  obtain ⟨hheader, hpayload, hsignature⟩ := Parts.decodePart_ofContents header payload signature
  exact Verifier.verify_of_checks (Parts.splits_ofContents header payload signature)
    ⟨⟨header, hheader, ofJson_header⟩, ⟨signature, hsignature, accepts_signature⟩,
      ⟨payload, k, hpayload, ofJson_payload, hk, hcheck⟩⟩

end Sample

/-- A token that is let through, and one with another algorithm and nothing else in it. -/
theorem Verifier.verify_sound_sample :
    Verifier.ofPem "test-issuer" .edwards Sample.pem = .ok Sample.verifier ∧
      Sample.verifier.verify 1700000000 Sample.signed = .ok Sample.claims ∧
      (∃ p : Parts, p.Splits Sample.signed ∧
        Sample.verifier.VouchesFor 1700000000 p Sample.claims) ∧
      Sample.verifier.verify 1700000000
        (encodePart Sample.foreignHeader ++ "." ++ encodePart [] ++ "." ++ encodePart []) =
          .error .algorithmMismatch := by
  obtain ⟨-, hsound, hmismatch⟩ := verify_sound Sample.ofPem_pem
  refine ⟨Sample.ofPem_pem, Sample.verify_signed, hsound _ _ _ Sample.verify_signed, ?_⟩
  exact hmismatch _ _ _ _ (Parts.splits_ofContents Sample.foreignHeader [] [])
    ⟨_, (Parts.decodePart_ofContents _ _ _).1, Sample.ofJson_foreignHeader⟩ nofun

/-- An audience that is neither a text nor a list of texts is let through. -/
theorem Verifier.verify_unread_audience :
    ∃ p bytes members value,
      Verifier.ofPem "test-issuer" .edwards Sample.pem = .ok Sample.verifier ∧
      Sample.verifier.verify 1700000000 Sample.signed = .ok Sample.claims ∧
      Parts.Splits p Sample.signed ∧ decodePart p.payload = .ok bytes ∧ IsObject bytes members ∧
      ("aud", value) ∈ members := by
  obtain ⟨p, hp, hchecks⟩ := checks_of_verify Sample.verify_signed
  have hparts : p = Parts.ofContents Sample.header Sample.payload Sample.signature :=
    hp.unique (Parts.splits_ofContents _ _ _)
  obtain ⟨bytes, members, hbytes, _, hobject, _⟩ := hchecks.vouchesFor.payload
  have hpayload : bytes = Sample.payload := by
    rw [hparts, (Parts.decodePart_ofContents _ _ _).2.1] at hbytes
    exact (Except.ok.inj hbytes).symm
  have haudience : read (record [.required "aud" skip]) Sample.payload = .ok [()] :=
    ok_of_toOption (by decide +kernel)
  obtain ⟨y, hrecord, hy⟩ := ok_of_read haudience
  obtain ⟨value, hvalue⟩ := (hpayload ▸ hobject).exists_mem hrecord hy
  exact ⟨p, bytes, members, value, Sample.ofPem_pem, Sample.verify_signed, hp, hbytes, hobject,
    hvalue⟩

end SessionAuth.AccessToken
