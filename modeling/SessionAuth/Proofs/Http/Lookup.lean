import SessionAuth.Proofs.Http.ReadBack

/-!
# The refresh cookie among others

A request may carry any number of cookie fields, each with any number of segments, and whoever sends
it may write into them what they like. What is looked up is the first value that is not blank of a
segment with the very name. Other cookies neither hide nor forge it, and neither do segments that
are no pairs, fields that cannot be read, and other header fields
(`Http.Cookie.find?_among_others`).
-/

namespace SessionAuth.Http.Cookie

variable {name value : String} {segment : List Char}

/-! ### Segments -/

/-- A name of visible characters that can stand in a pair. -/
structure IsPlain (name : String) : Prop where
  visible : ∀ c ∈ name.toList, 0x20 < c.toNat ∧ c.toNat < 0x7f
  equals : '=' ∉ name.toList
  semicolon : ';' ∉ name.toList

instance (name : String) : Decidable (IsPlain name) :=
  decidable_of_iff ((name.toList.all fun c => 0x20 < c.toNat && c.toNat < 0x7f) = true ∧
    '=' ∉ name.toList ∧ ';' ∉ name.toList)
    ⟨fun ⟨h₁, h₂, h₃⟩ => ⟨by simpa using h₁, h₂, h₃⟩, fun ⟨h₁, h₂, h₃⟩ => ⟨by simpa using h₁, h₂, h₃⟩⟩

theorem IsPlain.isReadable (h : IsPlain name) : IsReadable name where
  ascii c hc := Nat.lt_trans (h.visible c hc).2 (by decide)
  trimmed := Text.trimList_of_forall fun c hc => Text.isBlank_eq_false_of_visible (h.visible c hc)
  equals := h.equals
  semicolon := h.semicolon

/-- What stands before the first equals sign of the segment is the name, with or without blanks
around it, and what stands behind it is the value. -/
def Gives (name : String) (segment value : List Char) : Prop :=
  ∃ key, segment = key ++ '=' :: value ∧ '=' ∉ key ∧ Text.trimList key = name.toList

/-- The segment gives the name nothing but blanks, or nothing at all. -/
def IsBlankFor (name : String) (segment : List Char) : Prop :=
  ∀ value, Gives name segment value → Text.trimList value = []

theorem valueOf?_trimList (name : String) (segment : List Char) :
    valueOf? name (Text.trimList segment) = valueOf? name segment := by
  unfold valueOf?
  rw [Text.trimList_trimList]

/-- The blanks around a whole segment do not matter: they are blanks around its name and its
value. -/
theorem valueOf?_eq_some_iff_gives : valueOf? name segment = some value ↔
    ∃ v, Gives name segment v ∧ Text.trimList v ≠ [] ∧ String.ofList (Text.trimList v) = value := by
  have htrim (key v : List Char) : Text.trimList (key ++ '=' :: v) =
      key.dropWhile Text.isBlank ++ '=' :: Text.trimEnd v :=
    Text.trimList_append_cons (by decide) key v
  rw [valueOf?_eq_some_iff]
  constructor
  · rintro ⟨k, v, hpair, hequals, hname, hne, hvalue⟩
    -- An equals sign is no blank, so the first one stays the first when the segment is trimmed.
    have hmem : '=' ∈ segment := Text.mem_of_mem_trimList (hpair ▸ by simp)
    obtain ⟨key, v', rfl, hkey⟩ := List.eq_append_cons_of_mem hmem
    have hstart : '=' ∉ key.dropWhile Text.isBlank := fun h =>
      hkey ((List.dropWhile_sublist _).subset h)
    have hfirst := Text.splitFirst?_eq_some_iff.2 ⟨hpair, hequals⟩
    rw [Text.splitFirst?_eq_some_iff.2 ⟨htrim key v', hstart⟩] at hfirst
    cases hfirst
    rw [Text.trimList_dropWhile] at hname
    rw [Text.trimList_trimEnd] at hne hvalue
    exact ⟨v', ⟨key, rfl, hkey, by rw [← hname, String.toList_ofList]⟩, hne, hvalue⟩
  · rintro ⟨v, ⟨key, rfl, hequals, hkey⟩, hne, hvalue⟩
    refine ⟨key.dropWhile Text.isBlank, Text.trimEnd v, htrim key v,
      fun hmem => hequals ((List.dropWhile_sublist _).subset hmem), ?_, ?_, ?_⟩
    · rw [Text.trimList_dropWhile, hkey, String.ofList_toList]
    · rwa [Text.trimList_trimEnd]
    · rwa [Text.trimList_trimEnd]

theorem valueOf?_eq_none_iff : valueOf? name segment = none ↔ IsBlankFor name segment := by
  rw [Option.eq_none_iff_forall_ne_some]
  simp only [ne_eq, valueOf?_eq_some_iff_gives, IsBlankFor]
  constructor
  · intro h v hgives
    by_contra hne
    exact h _ ⟨v, hgives, hne, rfl⟩
  · rintro h _ ⟨v, hgives, hne, -⟩
    exact hne (h v hgives)

instance : DecidablePred (IsBlankFor name) := fun _ => decidable_of_iff _ valueOf?_eq_none_iff

/-! ### Fields -/

/-- The segments of all cookie fields that can be read, in their order. -/
def segments (headers : List Header) : List (List Char) :=
  ((Header.named "cookie" headers).filterMap Header.text?).flatMap fun s =>
    Text.split ';' s.toList

theorem find?_eq (name : String) (headers : List Header) :
    find? name headers = (segments headers).findSome? (valueOf? name) := rfl

/-- A segment of a field that can be read is the name with the identifier, and no segment before it
gives the name anything but blanks. -/
def Carries (name : String) (id : RefreshTokenId) (headers : List Header) : Prop :=
  ∃ before field after text earlier segment later, headers = before ++ field :: after ∧
    field.name = "cookie" ∧ field.text? = some text ∧
    Text.split ';' text.toList = earlier ++ segment :: later ∧
    Text.trimList segment = (name ++ "=" ++ id.text).toList ∧
    ∀ part ∈ segments before ++ earlier, IsBlankFor name part

theorem segments_append_cons {before after : List Header} {field : Header} {text : String}
    (hname : field.name = "cookie") (htext : field.text? = some text) :
    segments (before ++ field :: after) =
      segments before ++ (Text.split ';' text.toList ++ segments after) := by
  simp [segments, Header.named, hname, htext]

/-- Whatever else is in the headers, the identifier is found if the name is given nothing else
before, and nothing is found if the name is given nothing at all. -/
theorem find?_among_others (hname : IsPlain name) (id : RefreshTokenId) (headers : List Header) :
    (Carries name id headers →
      find? name headers = some id.text ∧ RefreshTokenId.parse? id.text = some id) ∧
    ((∀ segment ∈ segments headers, IsBlankFor name segment) → find? name headers = none) := by
  refine ⟨?_, fun hblank => ?_⟩
  · rintro ⟨before, field, after, text, earlier, segment, later, rfl, hcookie, htext, hsplit, hpair,
      hblank⟩
    have hparse : RefreshTokenId.parse? id.text = some id :=
      congrArg (Option.map RefreshTokenId.mk) id.uuid.parse?_text
    refine ⟨?_, hparse⟩
    rw [find?_eq, segments_append_cons hcookie htext, hsplit, List.findSome?_eq_some_iff]
    have hvalue : valueOf? name segment = some id.text := by
      rw [← valueOf?_trimList, hpair]
      exact valueOf?_pair hname.isReadable (text_ne_empty id) id.uuid.not_isBlank_text
    exact ⟨segments before ++ earlier, segment, later ++ segments after, by simp, hvalue,
      fun part hpart => valueOf?_eq_none_iff.2 (hblank part hpart)⟩
  · rw [find?_eq, List.findSome?_eq_none_iff]
    exact fun part hpart => valueOf?_eq_none_iff.2 (hblank part hpart)

/-- Cookies with longer names, a segment without a value, blank values, and a field that cannot be
read come before the cookie, and another value comes behind it. -/
theorem find?_among_others_forged :
    let others : List Header := [⟨"cookie", [0xff]⟩, ⟨"accept", Text.utf8 "sid=a"⟩,
      ⟨"cookie", Text.utf8 "sid2=b; xsid=c; sid; sid= ; =d"⟩]
    let field : Header := ⟨"cookie", Text.utf8
      "e=f; sid\t=;  sid=00000000-0000-0000-0000-000000000007 ; sid=g"⟩
    find? "sid" (others ++ [field]) = some "00000000-0000-0000-0000-000000000007" ∧
      RefreshTokenId.parse? "00000000-0000-0000-0000-000000000007" = some ⟨⟨7⟩⟩ ∧
      find? "sid" others = none := by
  intro others field
  have hname : IsPlain "sid" := by decide
  have hblank : ∀ part ∈ segments others, IsBlankFor "sid" part := by decide +kernel
  have hearlier : ∀ part ∈ ["e=f".toList, " sid\t=".toList], IsBlankFor "sid" part := by
    decide +kernel
  have hcarries : Carries "sid" ⟨⟨7⟩⟩ (others ++ [field]) :=
    ⟨others, field, [], "e=f; sid\t=;  sid=00000000-0000-0000-0000-000000000007 ; sid=g",
      ["e=f".toList, " sid\t=".toList], "  sid=00000000-0000-0000-0000-000000000007 ".toList,
      [" sid=g".toList], rfl, rfl, by decide +kernel, by decide +kernel, by decide +kernel,
      List.forall_mem_append.2 ⟨hblank, hearlier⟩⟩
  have htext : RefreshTokenId.text ⟨⟨7⟩⟩ = "00000000-0000-0000-0000-000000000007" := by
    decide +kernel
  obtain ⟨hfound, hparse⟩ := (find?_among_others hname ⟨⟨7⟩⟩ (others ++ [field])).1 hcarries
  rw [htext] at hfound hparse
  exact ⟨hfound, hparse, (find?_among_others hname ⟨⟨7⟩⟩ others).2 hblank⟩

end SessionAuth.Http.Cookie
