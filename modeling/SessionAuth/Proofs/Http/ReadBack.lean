import Mathlib.Data.Option.Basic
import SessionAuth.Proofs.Config.Server
import SessionAuth.Proofs.Http.Cookie
import SessionAuth.Proofs.Text.Split

/-!
# Reading the refresh cookie back

What is read from the cookies of a request is the value of the first pair with the right name. Only
some names can stand there at all (`Cookie.IsReadable`), but every name that is not blank can be
configured. The cookie that is handed out is read back if its name is one of those, and never if it
is not (`Cookie.handed_out_read_back`).
-/

namespace SessionAuth

namespace Http

variable {name value s : String} {headers : List Header}

namespace Header

/-- A field that is read as text is of ASCII. -/
theorem ascii_of_text? {h : Header} (hs : h.text? = some s) :
    Text.utf8 s = h.value ∧ ∀ c ∈ s.toList, c.toNat < 0x80 := by
  unfold text? at hs
  split at hs
  case isTrue hbytes =>
    have hvalue := Text.utf8_of_ofUtf8? hs
    refine ⟨hvalue, fun c hc => ?_⟩
    by_contra hlarge
    obtain ⟨b, hb⟩ := List.exists_mem_of_length_pos
      ((String.length_utf8EncodeChar c).symm ▸ c.utf8Size_pos)
    have hmem : b ∈ h.value := hvalue ▸ List.mem_flatMap.2 ⟨c, hc, hb⟩
    have hsmall := List.all_eq_true.1 hbytes b hmem
    have hbyte := Text.le_of_mem_utf8EncodeChar (Nat.le_of_not_lt hlarge) hb
    simp only [isTextByte, Bool.and_eq_true, decide_eq_true_eq, UInt8.lt_iff_toNat_lt] at hsmall
    exact absurd hsmall.2 (Nat.not_lt.2 hbyte)
  case isFalse => cases hs

/-- A text of ASCII that may be a value is read as it is. -/
theorem text?_of_ascii (hs : (value? s).isSome) (hascii : ∀ c ∈ s.toList, c.toNat < 0x80)
    (name : String) : text? ⟨name, Text.utf8 s⟩ = some s := by
  have hbytes : (Text.utf8 s).all isTextByte = true := by
    rw [List.all_eq_true]
    intro b hb
    have hvalue := List.all_eq_true.1 (isSome_value?_iff.1 hs) b hb
    obtain ⟨c, hc, hb⟩ := List.mem_flatMap.1 hb
    have hsmall := hascii c hc
    rw [Text.utf8EncodeChar_eq_singleton hsmall, List.mem_singleton] at hb
    subst hb
    rw [isTextByte, hvalue, Bool.true_and, decide_eq_true_eq, UInt8.lt_iff_toNat_lt,
      UInt8.toNat_ofNat']
    exact Nat.lt_of_le_of_lt (Nat.mod_le _ _) hsmall
  unfold text?
  rw [if_pos hbytes]
  exact Text.ofUtf8?_utf8 s

end Header

namespace Cookie

/-! ### Pairs -/

/-- A pair is a name and a value with the first equals sign between them. -/
theorem valueOf?_eq_some_iff {pair : List Char} : valueOf? name pair = some value ↔
    ∃ k v, Text.trimList pair = k ++ '=' :: v ∧ '=' ∉ k ∧
      String.ofList (Text.trimList k) = name ∧ Text.trimList v ≠ [] ∧
      String.ofList (Text.trimList v) = value := by
  unfold valueOf?
  simp only [Option.bind_eq_bind, Option.bind_eq_some_iff, Prod.exists,
    Text.splitFirst?_eq_some_iff, Option.guard_eq_some', Option.pure_def, Option.some.injEq,
    exists_const, and_assoc]

/-- A name that can stand in the cookies of a request. -/
structure IsReadable (name : String) : Prop where
  ascii : ∀ c ∈ name.toList, c.toNat < 0x80
  trimmed : Text.trimList name.toList = name.toList
  equals : '=' ∉ name.toList
  semicolon : ';' ∉ name.toList

instance (name : String) : Decidable (IsReadable name) :=
  decidable_of_iff ((name.toList.all fun c => c.toNat < 0x80) = true ∧
    Text.trimList name.toList = name.toList ∧ '=' ∉ name.toList ∧ ';' ∉ name.toList)
    ⟨fun ⟨h₁, h₂, h₃, h₄⟩ => ⟨by simpa using h₁, h₂, h₃, h₄⟩,
      fun ⟨h₁, h₂, h₃, h₄⟩ => ⟨by simpa using h₁, h₂, h₃, h₄⟩⟩

/-- Whatever the headers are, no other name is ever found. -/
theorem isReadable_of_find? (h : find? name headers = some value) : IsReadable name := by
  obtain ⟨pair, hpair, hvalue⟩ := List.exists_of_findSome?_eq_some h
  obtain ⟨text, htext, hpair⟩ := List.mem_flatMap.1 hpair
  obtain ⟨field, -, hfield⟩ := List.mem_filterMap.1 htext
  obtain ⟨hsemicolon, hpart⟩ := Text.mem_of_mem_split hpair
  obtain ⟨k, v, hkv, hequals, rfl, -, -⟩ := valueOf?_eq_some_iff.1 hvalue
  -- The name is a part of the pair, and the pair one of the text.
  have hmem : ∀ c ∈ Text.trimList k, c ∈ k ∧ c ∈ pair := fun c hc => by
    have hk := Text.mem_of_mem_trimList hc
    exact ⟨hk, Text.mem_of_mem_trimList (hkv ▸ List.mem_append_left _ hk)⟩
  constructor <;> rw [String.toList_ofList]
  · exact fun c hc => (Header.ascii_of_text? hfield).2 c (hpart c (hmem c hc).2)
  · exact Text.trimList_trimList k
  · exact fun hc => hequals (hmem _ hc).1
  · exact fun hc => hsemicolon (hmem _ hc).2

/-! ### What is sent back -/

/-- What a client sends back of a cookie: all that stands before the first semicolon. -/
def sentBack (s : String) : String := String.ofList (s.toList.takeWhile (· ≠ ';'))

theorem sentBack_append (h : ';' ∉ s.toList) (rest : List Char) :
    sentBack (s ++ String.ofList (';' :: rest)) = s := by
  have hall : ∀ c ∈ s.toList, decide (c ≠ ';') = true := fun c hc =>
    decide_eq_true fun heq => h (heq ▸ hc)
  rw [sentBack, String.toList_append, String.toList_ofList, List.takeWhile_append_of_pos hall]
  simp

/-- What is sent back of a header value may be one. -/
theorem isSome_value?_sentBack (h : (Header.value? s).isSome) :
    (Header.value? (sentBack s)).isSome := by
  have hs : s = sentBack s ++ String.ofList (s.toList.dropWhile (· ≠ ';')) := by
    rw [sentBack, ← String.ofList_append, List.takeWhile_append_dropWhile, String.ofList_toList]
  rw [hs, Header.isSome_value?_append, Bool.and_eq_true] at h
  exact h.1

theorem sentBack_setText {c : Cookie} (hname : ';' ∉ c.name.toList) (hvalue : ';' ∉ value.toList)
    (maxAge : Nat) : sentBack (c.setText value maxAge) = c.name ++ "=" ++ value := by
  have htext : c.setText value maxAge = (c.name ++ "=" ++ value) ++ String.ofList (';' ::
      (" HttpOnly" ++ (if c.isSecure then "; Secure" else "") ++ "; SameSite=" ++ c.sameSite.name ++
        "; Path=" ++ c.path ++ "; Max-Age=" ++ toString maxAge).toList) := by
    apply String.toList_inj.1
    simp only [setText, String.toList_append, String.toList_ofList, List.append_assoc]
    rfl
  rw [htext, sentBack_append]
  simp [hname, hvalue]

/-- A pair with a readable name is read. -/
theorem valueOf?_pair (hname : IsReadable name) (hne : value ≠ "")
    (hvalue : ∀ c ∈ value.toList, Text.isBlank c = false) :
    valueOf? name (name ++ "=" ++ value).toList = some value := by
  have hvalueTrim := Text.trimList_of_forall hvalue
  have hpair : (name ++ "=" ++ value).toList = name.toList ++ '=' :: value.toList := by simp
  refine valueOf?_eq_some_iff.2 ⟨name.toList, value.toList, ?_, hname.equals, ?_, ?_, ?_⟩
  · rw [hpair, Text.trimList_append hname.trimmed hvalueTrim (by decide)]
  · rw [hname.trimmed, String.ofList_toList]
  · rw [hvalueTrim]
    exact fun hnil => hne (String.toList_inj.1 hnil)
  · rw [hvalueTrim, String.ofList_toList]

/-! ### The refresh cookie -/

theorem text_ne_empty (id : RefreshTokenId) : id.text ≠ "" := by
  intro hempty
  have hparse : Uuid.parse? id.text = some id.uuid := id.uuid.parse?_text
  rw [hempty] at hparse
  cases hparse

theorem semicolon_not_mem_text (id : RefreshTokenId) : ';' ∉ id.text.toList := fun hmem =>
  id.uuid.forall_mem_text (p := fun c => c ≠ ';') (by decide) (by decide) ';' hmem rfl

/-- A cookie with a readable name is found in the field that it is sent back in. -/
theorem find?_sentBack {c : Cookie} {id : RefreshTokenId} {maxAge : Nat}
    (hname : IsReadable c.name) (hset : (c.setValue? id.text maxAge).isSome)
    (hheaders : Header.named "cookie" headers =
      [⟨"cookie", Text.utf8 (sentBack (c.setText id.text maxAge))⟩]) :
    find? c.name headers = some id.text := by
  have hprintable := id.uuid.printable_text
  have hsemicolon := semicolon_not_mem_text id
  have hsent := isSome_value?_sentBack hset
  rw [sentBack_setText hname.semicolon hsemicolon] at hheaders hsent
  have hascii : ∀ ch ∈ (c.name ++ "=" ++ id.text).toList, ch.toNat < 0x80 := by
    intro ch hch
    simp only [String.toList_append, List.mem_append] at hch
    rcases hch with (hch | hch) | hch
    · exact hname.ascii ch hch
    · rw [List.mem_singleton.1 hch]
      decide
    · exact Nat.lt_trans (hprintable ch hch).2 (by decide)
  have hpart : ';' ∉ (c.name ++ "=" ++ id.text).toList := by
    simp [hname.semicolon, hsemicolon]
  have hpair := valueOf?_pair hname (text_ne_empty id) id.uuid.not_isBlank_text
  unfold find?
  rw [hheaders]
  simp only [List.filterMap_cons, Header.text?_of_ascii hsent hascii, List.filterMap_nil,
    List.flatMap_cons, List.flatMap_nil, List.append_nil, Text.split_of_not_mem hpart,
    List.findSome?_cons, hpair]

/-- A refresh token that is handed out under an accepted configuration. If the name of the cookie is
readable, it is read from what is sent back, and names the token; if not, nothing is ever read. -/
theorem handed_out_read_back {env : Config.Environment} {server : Config.Server}
    (hread : Config.Server.read env = .ok server) (id : RefreshTokenId) {maxAge : Nat}
    (hset : (server.session.cookie.setValue? id.text maxAge).isSome) :
    let name := server.session.cookieName
    let pair := sentBack (server.session.cookie.setText id.text maxAge)
    name = (Config.Server.lookup env .cookieName).getD "refresh_token" ∧
      Header.of? "cookie" pair = some ⟨"cookie", Text.utf8 pair⟩ ∧
      RefreshTokenId.parse? id.text = some id ∧
      (IsReadable name → ∀ headers,
        Header.named "cookie" headers = [⟨"cookie", Text.utf8 pair⟩] →
          find? name headers = some id.text) ∧
      (¬ IsReadable name → ∀ headers, find? name headers = none) := by
  have hsent := isSome_value?_sentBack hset
  have hparse : RefreshTokenId.parse? id.text = some id :=
    congrArg (Option.map RefreshTokenId.mk) id.uuid.parse?_text
  refine ⟨(Config.Server.isReadFrom_of_read hread).cookieName, ?_, hparse,
    fun hname headers hheaders => find?_sentBack hname hset hheaders, fun hname headers => ?_⟩
  · have hlower : "cookie".toLower = "cookie" := by decide +kernel
    rw [Header.of?, if_pos (by decide), Header.value?_of_isSome hsent, Option.map_some, hlower]
  · refine Option.eq_none_iff_forall_ne_some.2 fun value hfound => ?_
    exact hname (isReadable_of_find? hfound)

/-- The name that is configured ends with a blank: it is accepted, the cookie is set, and what is
sent back is not read. -/
theorem handed_out_read_back_blank : ∃ (server : Config.Server) (id : RefreshTokenId),
    Config.Server.read (.ofCookie "sid ") = .ok server ∧
      (server.session.cookie.setValue? id.text 60).isSome ∧
      sentBack (server.session.cookie.setText id.text 60) = "sid =" ++ id.text ∧
      ¬ IsReadable server.session.cookieName ∧
      ∀ headers, find? server.session.cookieName headers = none := by
  let id : RefreshTokenId := default
  have hblank : Text.isBlankText "sid " = false := by decide
  obtain ⟨server, hread, hname⟩ := Config.Server.exists_read_ofCookie hblank
  have hpath := (Config.Server.isReadFrom_of_read hread).cookiePath
  have hsendable : server.session.cookie.IsSendable := by
    simp only [IsSendable, Config.Session.cookie, hname, hpath]
    exact ⟨rfl, rfl⟩
  have hset : (server.session.cookie.setValue? id.text 60).isSome :=
    (isSome_setValue? _ id.uuid 60).2 hsendable
  have hunreadable : ¬ IsReadable server.session.cookieName := by
    rw [hname]
    decide
  obtain ⟨-, -, -, -, hnone⟩ := handed_out_read_back hread id hset
  have hsent : sentBack (server.session.cookie.setText id.text 60) = "sid =" ++ id.text := by
    have hsemicolon : ';' ∉ server.session.cookie.name.toList := by
      simp only [Config.Session.cookie, hname]
      decide
    rw [sentBack_setText hsemicolon (semicolon_not_mem_text id)]
    simp only [Config.Session.cookie, hname]
    rfl
  exact ⟨server, id, hread, hset, hsent, hunreadable, hnone hunreadable⟩

end Cookie

end Http

end SessionAuth
