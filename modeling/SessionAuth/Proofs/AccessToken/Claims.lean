import SessionAuth.AccessToken.Claims
import SessionAuth.Proofs.Json.Fields

/-!
# What claims and conditions read

Claims are read from a payload twice: strictly, for their values, and leniently, for what decides
whether a token is valid. Both readings find the same members, and agree on each value that the
strict one accepts.
-/

namespace SessionAuth.AccessToken

open Json

variable {α : Type} {b : Char} {x y z v : Bytes} {members : List (String × Bytes)} {c : Claims}

/-! ### The strict reading -/

namespace Claims

theorem skip_of_fields :
    ∀ f ∈ fields, ∀ a x y, f.read.apply x = (.ok a, y) → skip.apply x = (.ok (), y) := by
  intro f hf a x y h
  simp only [fields, List.mem_cons, List.not_mem_nil, or_false] at hf
  rcases hf with rfl | rfl | rfl | rfl | rfl
  all_goals obtain ⟨_, hread, _⟩ := Reader.apply_map_eq_ok.1 h
  · exact skip_of_text hread
  · exact skip_of_text hread
  · exact skip_of_text hread
  · exact skip_of_integer hread
  · exact skip_of_integer hread

/-- The members of an object are claims: each of the five stands there once, in its type. -/
structure AreIn (c : Claims) (members : List (String × Bytes)) : Prop where
  id : HoldsOne members "jti" Json.text c.id
  issuer : HoldsOne members "iss" Json.text c.issuer
  subject : HoldsOne members "sub" Json.text c.subject
  issuedAt : HoldsOne members "iat" Json.integer c.issuedAt
  expiresAt : HoldsOne members "exp" Json.integer c.expiresAt

theorem record_of_ofJson (h : ofJson x = .ok c) :
    ∃ y, (record fields).apply x = (.ok [.text c.id, .text c.issuer, .text c.subject,
      .number c.issuedAt, .number c.expiresAt], y) ∧ y.dropWhile isBlank = [] := by
  obtain ⟨y, hreader, hy⟩ := ok_of_read h
  obtain ⟨atoms, z, hrecord, hmatch⟩ := Reader.apply_bind_eq_ok.1 hreader
  split at hmatch <;> cases hmatch
  exact ⟨_, hrecord, hy⟩

theorem exists_isObject (h : ofJson x = .ok c) (hbrace : x.dropWhile isBlank = code '\x7b' :: z) :
    ∃ members, IsObject x members := by
  obtain ⟨y, hrecord, hy⟩ := record_of_ofJson h
  exact Json.exists_isObject skip_of_fields hrecord hy hbrace

theorem areIn_of_ofJson (h : ofJson x = .ok c) (hobject : IsObject x members) :
    c.AreIn members := by
  obtain ⟨y, hrecord, hy⟩ := record_of_ofJson h
  have hfinds {i : Nat} {f : Json.Field Atom} (hf : fields[i]? = some f) :=
    hobject.finds (by decide) (findsEnds_of_skip skip_of_fields) hrecord hy hf
  obtain ⟨_, ⟨⟩, hid⟩ := hfinds (i := 0) rfl
  obtain ⟨_, ⟨⟩, hissuer⟩ := hfinds (i := 1) rfl
  obtain ⟨_, ⟨⟩, hsubject⟩ := hfinds (i := 2) rfl
  obtain ⟨_, ⟨⟩, hissuedAt⟩ := hfinds (i := 3) rfl
  obtain ⟨_, ⟨⟩, hexpiresAt⟩ := hfinds (i := 4) rfl
  exact ⟨hid.of_text, hissuer.of_text, hsubject.of_text, hissuedAt.of_number, hexpiresAt.of_number⟩

end Claims

/-! ### The lenient reading -/

namespace Conditions

theorem apply_lenient (r : Reader (Seen α)) (x : Bytes) :
    (lenient r).apply x = (.ok (match (r.apply x).1 with
      | .ok seen => seen
      | .error _ => .ignored), (r.apply x).2) := by
  rw [lenient, Reader.attempt, Reader.apply_bind, Reader.apply_ofFunction]
  rcases r.apply x with ⟨_ | _, _⟩ <;> rfl

theorem staysWithin_lenient {r : Reader (Seen α)} (h : KeepsWithin r) :
    StaysWithin (lenient r) := by
  intro e x hx
  rw [apply_lenient]
  exact h.staysWithin e x hx

theorem staysWithin_natural : StaysWithin natural := by
  refine staysWithin_lenient (keepsWithin_of_peek fun e b x h => ?_)
  have hend := Nat.le_refl e
  split
  next hb =>
    have hopening := Walk.opening e e (.inl hb) x
    exact .bind_of_ok (apply_advance _) hopening
      (.closedBy closes_closeList (hopening.ends h) (.failing _ (Nat.le_refl _)))
  · split
    next hb =>
      have hopening := Walk.opening e e (.inr hb) x
      exact .bind_of_ok (apply_advance _) hopening
        (.closedBy closes_closeObject (hopening.ends h) (.failing _ (Nat.le_refl _)))
    · refine (keeps_scalar h).bind fun a y _ _ => ?_
      split
      · split
        · exact .returning _ hend
        · exact .failing _ hend
      · exact .failing _ hend

theorem staysWithin_names : StaysWithin names := by
  refine staysWithin_lenient fun e x hx => ?_
  refine ((keepsWithin_value _).nullable e x hx).bind fun a y _ _ => ?_
  have hend := Nat.le_refl e
  split
  · exact .returning _ hend
  · split <;> exact .returning _ hend

theorem resumable_of_fields : ∀ f ∈ fields, Resumable f := by
  intro f hf
  simp only [fields, List.mem_cons, List.not_mem_nil, or_false] at hf
  rcases hf with rfl | rfl | rfl | rfl | rfl
  · exact ⟨by decide +kernel, staysWithin_natural.map _⟩
  · exact ⟨by decide +kernel, staysWithin_natural.map _⟩
  · exact ⟨by decide +kernel, staysWithin_names.map _⟩
  · exact ⟨by decide +kernel, staysWithin_names.map _⟩
  · exact ⟨by decide +kernel, staysWithin_names.map _⟩

/-! ### Where both readings agree -/

theorem natural_of_integer {n : Int} (h : Json.integer.apply x = (.ok n, y)) :
    natural.apply x = (.ok (if 0 ≤ n then .understood n.toNat else .ignored), y) := by
  obtain ⟨b, z, hx, hb, hnumber⟩ := eq_of_integer h
  have hne {c : Char} (hc : isDigit (code c) = false) (hminus : code '-' ≠ code c) : b ≠ code c :=
    ne_code_of_number hb hc hminus
  have hscalar : (scalar b).apply (b :: z) = (.ok (.number (.integer n)), y) := by
    rw [scalar, if_neg (hne rfl (by decide)), if_neg (hne rfl (by decide)),
      if_neg (hne rfl (by decide)), if_neg (hne rfl (by decide)), if_pos hb]
    exact Reader.apply_bind_eq_ok.2 ⟨_, y, hnumber, rfl⟩
  simp only [natural, apply_lenient, Reader.apply_bind, apply_peek, hx, List.head?_cons,
    hne (c := '[') rfl (by decide), hne (c := '\x7b') rfl (by decide), if_false, hscalar]
  by_cases hn : 0 ≤ n
  · simp only [hn, if_true, Reader.apply_pure]
  · simp only [hn, if_false, Reader.apply_throw]

theorem apply_scalar_quote (z : Bytes) :
    (scalar (code '"')).apply (code '"' :: z) = (Value.text <$> stringBody).apply z := rfl

theorem natural_of_quote (hx : x.dropWhile isBlank = code '"' :: z) :
    (natural.apply x).1 = .ok .ignored := by
  simp only [natural, apply_lenient, Reader.apply_bind, apply_peek, hx, List.head?_cons]
  rw [if_neg (by decide), if_neg (by decide), Reader.apply_bind, apply_scalar_quote]
  rcases hstring : (Value.text <$> stringBody).apply z with ⟨_ | a, w⟩
  · rfl
  · obtain ⟨s, _, rfl⟩ := Reader.apply_map_eq_ok.1 hstring
    rfl

theorem apply_value_of_quote (depth : Nat) (hx : x.dropWhile isBlank = code '"' :: z) :
    (value depth).apply x = (Value.text <$> stringBody).apply z := by
  cases depth <;> simp only [value, Reader.apply_bind, apply_peek, hx, List.head?_cons] <;> rfl

theorem value_of_text {s : String} (depth : Nat) (h : Json.text.apply x = (.ok s, y)) :
    (value depth).apply x = (.ok (.text s), y) := by
  obtain ⟨z, hx, hstring⟩ := eq_of_text h
  rw [apply_value_of_quote depth hx]
  exact Reader.apply_map_eq_ok.2 ⟨s, hstring, rfl⟩

theorem texts?_list_map_text (texts : List String) :
    texts? (.list (texts.map .text)) = some texts := by
  simp only [texts?]
  induction texts with
  | nil => rfl
  | cons s texts ih =>
    rw [List.map_cons, List.mapM_cons, ih]
    rfl

theorem value_of_list {depth : Nat} {elements : List Value}
    (h : (listOf (value depth)).apply (code '[' :: z) = (.ok elements, y)) :
    (value (depth + 1)).apply (code '[' :: z) = (.ok (.list elements), y) := by
  unfold value
  exact Reader.apply_bind_eq_ok.2 ⟨_, _, apply_peek _, Reader.apply_bind_eq_ok.2 ⟨_, _, h, rfl⟩⟩

theorem names_of_value {a : Value} {texts : List String}
    (hx : x.dropWhile isBlank = code b :: z) (hb : code b ≠ code 'n')
    (h : (value (depthLimit - 1)).apply (code b :: z) = (.ok a, y)) (ha : texts? a = some texts) :
    names.apply x = (.ok (.understood texts), y) := by
  have hnullable : (nullable (value (depthLimit - 1))).apply x = (.ok (some a), y) := by
    refine Reader.apply_bind_eq_ok.2 ⟨_, _, apply_peek x, ?_⟩
    rw [hx, List.head?_cons, if_neg fun h => hb (Option.some.inj h)]
    exact Reader.apply_bind_eq_ok.2 ⟨a, y, h, rfl⟩
  rw [names, apply_lenient, Reader.apply_bind, hnullable]
  dsimp only
  rw [ha]
  rfl

theorem names_of_text {s : String} (h : Json.text.apply x = (.ok s, y)) :
    names.apply x = (.ok (.understood [s]), y) := by
  obtain ⟨z, hx, hstring⟩ := eq_of_text h
  have hvalue : (value (depthLimit - 1)).apply (code '"' :: z) = (.ok (.text s), y) := by
    rw [apply_value_of_quote _ rfl]
    exact Reader.apply_map_eq_ok.2 ⟨s, hstring, rfl⟩
  exact names_of_value hx (by decide) hvalue rfl

theorem names_of_texts {texts : List String} (h : (Json.list Json.text).apply x = (.ok texts, y)) :
    names.apply x = (.ok (.understood texts), y) := by
  obtain ⟨z, hx, hlist⟩ := eq_of_list h
  have hvalue := value_of_list (listOf_map (fun _ _ _ => value_of_text (depthLimit - 2)) hlist)
  exact names_of_value hx (by decide) hvalue (texts?_list_map_text texts)

/-! ### What decides -/

theorem record_of_ofJson {k : Conditions} (h : ofJson x = .ok k) :
    ∃ notBefore subject audience y, (record fields).apply x = (.ok [.natural k.expiresAt,
      .natural notBefore, .names subject, .names k.issuer, .names audience], y) ∧
      y.dropWhile isBlank = [] ∧ k.audience = Seen.forget audience := by
  obtain ⟨y, hreader, hy⟩ := ok_of_read h
  obtain ⟨data, z, hrecord, hmatch⟩ := Reader.apply_bind_eq_ok.1 hreader
  split at hmatch <;> cases hmatch
  exact ⟨_, _, _, _, hrecord, hy, rfl⟩

theorem natural_of_finds {d : Option Datum} {name : String} {n : Seen Nat}
    (h : Finds members ⟨name, Datum.natural <$> natural, d⟩ (.natural n))
    (hmem : (name, v) ∈ members) : (natural.apply v).1 = .ok n :=
  Reader.fst_apply_of_map (fun _ _ => Datum.natural.inj) (h.of_mem hmem)

theorem names_of_finds {d : Option Datum} {name : String} {s : Seen (List String)}
    (h : Finds members ⟨name, Datum.names <$> names, d⟩ (.names s))
    (hmem : (name, v) ∈ members) : (names.apply v).1 = .ok s :=
  Reader.fst_apply_of_map (fun _ _ => Datum.names.inj) (h.of_mem hmem)

end Conditions

/-- The members of an object name an audience: a text or a list of texts. -/
def NamesAudience (members : List (String × Bytes)) : Prop :=
  ∃ v, ("aud", v) ∈ members ∧
    ((∃ s y, Json.text.apply v = (.ok s, y)) ∨
      ∃ texts y, (Json.list Json.text).apply v = (.ok texts, y))

/-- The conditions say of the claims what the claims say, and know of an audience that is named. -/
structure Conditions.Agree (k : Conditions) (c : Claims)
    (members : List (String × Bytes)) : Prop where
  expiresAt : k.expiresAt = if 0 ≤ c.expiresAt then .understood c.expiresAt.toNat else .ignored
  issuer : k.issuer = .understood [c.issuer]
  audience : NamesAudience members → k.audience = .understood ()

theorem Conditions.agree_of_ofJson {k : Conditions} (h : ofJson x = .ok k)
    (hobject : IsObject x members) (hc : c.AreIn members) : k.Agree c members := by
  obtain ⟨notBefore, subject, audience, y, hrecord, hy, haudience⟩ := record_of_ofJson h
  have hfinds {i : Nat} {f : Json.Field Datum} (hf : fields[i]? = some f) :=
    hobject.finds (by decide) (findsEnds_of_resumable resumable_of_fields) hrecord hy hf
  obtain ⟨_, ⟨⟩, hexpires⟩ := hfinds (i := 0) rfl
  obtain ⟨_, ⟨⟩, hissuer⟩ := hfinds (i := 3) rfl
  obtain ⟨_, ⟨⟩, haudiences⟩ := hfinds (i := 4) rfl
  refine ⟨?_, ?_, ?_⟩
  · obtain ⟨v, hmem, hread⟩ := hc.expiresAt.exists_mem
    have heq := congrArg Prod.fst (natural_of_integer (Prod.ext hread rfl))
    rw [natural_of_finds hexpires hmem] at heq
    exact Except.ok.inj heq
  · obtain ⟨v, hmem, hread⟩ := hc.issuer.exists_mem
    have heq := congrArg Prod.fst (names_of_text (Prod.ext hread rfl))
    rw [names_of_finds hissuer hmem] at heq
    exact Except.ok.inj heq
  · rintro ⟨v, hmem, hnames⟩
    have hunderstood : ∃ texts, (names.apply v).1 = .ok (.understood texts) := by
      rcases hnames with ⟨s, z, hread⟩ | ⟨texts, z, hread⟩
      · exact ⟨_, congrArg Prod.fst (names_of_text hread)⟩
      · exact ⟨_, congrArg Prod.fst (names_of_texts hread)⟩
    obtain ⟨texts, htexts⟩ := hunderstood
    rw [names_of_finds haudiences hmem] at htexts
    rw [haudience, Except.ok.inj htexts]
    rfl

/-- Claims that are a list begin with a text, which is no end. -/
theorem Conditions.ignored_of_list {k : Conditions} (hc : Claims.ofJson x = .ok c)
    (hk : ofJson x = .ok k) (hlist : x.dropWhile isBlank = code '[' :: z) :
    k.expiresAt = .ignored := by
  obtain ⟨y, hclaims, _⟩ := Claims.record_of_ofJson hc
  obtain ⟨_, _, _, y', hconditions, _, _⟩ := record_of_ofJson hk
  cases readsRecord_of_record hclaims with
  | object hx =>
    rw [hx] at hlist
    cases hlist
  | list hx hstrict =>
    cases readsRecord_of_record hconditions with
    | object hx =>
      rw [hx] at hlist
      cases hlist
    | list hx' hlenient =>
      rw [hx] at hx'
      cases hx'
      obtain ⟨e, w, a, as, helement, htext, _⟩ := ok_of_takeElements hstrict
      obtain ⟨e', w', n, ns, helement', hnatural, hns⟩ := ok_of_takeElements hlenient
      rw [helement] at helement'
      cases helement'
      cases hns
      obtain ⟨s, hs, _⟩ := Reader.apply_map_eq_ok.1 htext
      obtain ⟨n, hn, hdatum⟩ := Reader.apply_map_eq_ok.1 hnatural
      cases hdatum
      obtain ⟨u, hu, _⟩ := eq_of_text hs
      have hignored := natural_of_quote hu
      rw [hn] at hignored
      exact Except.ok.inj hignored

end SessionAuth.AccessToken
