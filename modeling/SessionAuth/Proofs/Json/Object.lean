import SessionAuth.Proofs.Json.Number

/-!
# Objects, written and read

A record is read from the object that is written of its fields (`record_object`), among which other
members may stand.
-/

namespace SessionAuth.Json

variable {α β : Type} {r : Reader α} {text name : String} {a : α} {x y : Bytes} {isFirst : Bool}
  {fields : List (Field α)} {fuel : Nat} {taken values : List (Option α)} {as : List α}
  {members : List (String × String)}

/-! ### Values as written -/

/-- A text is read as a value, wherever it stands in an object. -/
def IsWritten (r : Reader α) (text : String) (a : α) : Prop :=
  ∀ rest, Follows rest → r.apply (Text.utf8 text ++ rest) = (.ok a, rest)

theorem isWritten_text (s : String) : IsWritten Json.text (quote s) s := by
  intro rest _
  obtain ⟨x, hx, hstring⟩ := stringBody_quote s rest
  rw [hx]
  exact hstring

theorem isWritten_integer {n : Int} (hle : -Nat.pow 2 63 ≤ n) (hlt : n < Nat.pow 2 63) :
    IsWritten integer (toString n) n := fun _ hrest => integer_toString hle hlt hrest

theorem IsWritten.map (h : IsWritten r text a) (g : α → β) : IsWritten (g <$> r) text (g a) :=
  fun rest hrest => Reader.apply_map_eq_ok.2 ⟨a, h rest hrest, rfl⟩

/-! ### Objects as written -/

/-- What is written of an object between its braces, and the closing one. -/
def memberBytes : (isFirst : Bool) → List (String × String) → Bytes
  | _, [] => [code '\x7d']
  | isFirst, (name, text) :: members =>
    (if isFirst then [] else [code ',']) ++ (Text.utf8 (quote name) ++
      (code ':' :: (Text.utf8 text ++ memberBytes false members)))

/-- Members with commas between them. -/
theorem utf8_intercalate (m : String × String) (members : List (String × String)) :
    Text.utf8 (",".intercalate ((m :: members).map fun m => quote m.1 ++ ":" ++ m.2) ++ "\x7d") =
      memberBytes true (m :: members) := by
  have hcomma : Text.utf8 "," = [code ','] := rfl
  have hcolon : Text.utf8 ":" = [code ':'] := rfl
  have hclose : Text.utf8 "\x7d" = [code '\x7d'] := rfl
  induction members generalizing m with
  | nil =>
    simp only [List.map_cons, List.map_nil, String.intercalate_singleton, Text.utf8_append, hcolon,
      hclose, memberBytes, if_true, List.append_assoc, List.nil_append, List.cons_append]
  | cons m' members ih =>
    have htail := ih m'
    simp only [List.map_cons, Text.utf8_append, hclose, memberBytes, if_true,
      List.nil_append] at htail
    simp only [List.map_cons, String.intercalate_cons_cons, Text.utf8_append, hcomma, hcolon,
      hclose, memberBytes, if_true, Bool.false_eq_true, if_false, List.append_assoc,
      List.nil_append, List.cons_append, htail]

theorem utf8_object (members : List (String × String)) :
    Text.utf8 (object members) = code '\x7b' :: memberBytes true members := by
  have hopen : Text.utf8 "\x7b" = [code '\x7b'] := rfl
  unfold object
  rw [String.append_assoc, Text.utf8_append, hopen, List.singleton_append]
  cases members with
  | nil => rfl
  | cons m members => rw [utf8_intercalate]

theorem follows_memberBytes (members : List (String × String)) (rest : Bytes) :
    Follows (memberBytes false members ++ rest) := by
  cases members with
  | nil => exact ⟨code '\x7d', rest, rfl, .inr rfl⟩
  | cons m members => exact ⟨code ',', _, rfl, .inl rfl⟩

theorem length_lt_memberBytes (isFirst : Bool) (members : List (String × String)) :
    members.length < (memberBytes isFirst members).length := by
  induction members generalizing isFirst with
  | nil => exact Nat.one_pos
  | cons m members ih =>
    have hlength := ih false
    simp only [memberBytes, List.length_append, List.length_cons]
    omega

theorem hasKey_memberBytes_nil (isFirst : Bool) (rest : Bytes) :
    (hasKey isFirst).apply (memberBytes isFirst [] ++ rest) =
      (.ok false, code '\x7d' :: rest) := rfl

/-- The key of a member is read where it stands. -/
theorem key_memberBytes (isFirst : Bool) (name text : String) (members : List (String × String))
    (rest : Bytes) : ∃ k,
      (hasKey isFirst).apply (memberBytes isFirst ((name, text) :: members) ++ rest) =
        (.ok true, k) ∧
      key.apply k = (.ok name, Text.utf8 text ++ (memberBytes false members ++ rest)) := by
  obtain ⟨x, hx, hstring⟩ := stringBody_quote name
    (code ':' :: (Text.utf8 text ++ (memberBytes false members ++ rest)))
  refine ⟨code '"' :: x, ?_, ?_⟩
  · have hbytes : memberBytes isFirst ((name, text) :: members) ++ rest =
        (if isFirst then [] else [code ',']) ++ code '"' :: x := by
      rw [← hx]
      simp only [memberBytes, List.append_assoc, List.cons_append]
    rw [hbytes]
    cases isFirst <;> rfl
  · unfold key
    rw [Reader.apply_bind, apply_advance]
    dsimp only
    rw [List.drop_one, List.tail_cons, Reader.apply_bind, hstring]
    rfl

/-! ### Records -/

/-- The members of an object fill the fields of a record: each belongs to a field that has not been
filled, and is written as its value, or can be passed over. -/
inductive Fill (fields : List (Field α)) :
    List (Option α) → List (String × String) → List (Option α) → Prop
  | nothing {taken : List (Option α)} : Fill fields taken [] taken
  | other {name text : String} {members : List (String × String)} {taken values : List (Option α)} :
    (∀ f ∈ fields, f.name ≠ name) → IsWritten skip text () → Fill fields taken members values →
    Fill fields taken ((name, text) :: members) values
  | field {f : Field α} {i : Nat} {text : String} {a : α} {members : List (String × String)}
    {taken values : List (Option α)} : fields[i]? = some f → (taken[i]?).bind id = none →
    IsWritten f.read text a → Fill fields (taken.set i (some a)) members values →
    Fill fields taken ((f.name, text) :: members) values

theorem exists_of_key {k v : Bytes} (h : key.apply k = (.ok name, v)) :
    ∃ k', stringBody.apply (k.drop 1) = (.ok name, k') ∧
      (expect (code ':')).apply k' = (.ok (), v) := by
  rw [key, Reader.apply_bind, apply_advance] at h
  obtain ⟨_, k', hstring, hrest⟩ := Reader.apply_bind_eq_ok.1 h
  obtain ⟨_, _, hcolon, hreturn⟩ := Reader.apply_bind_eq_ok.1 hrest
  cases hreturn
  exact ⟨k', hstring, hcolon⟩

theorem find?_of_forall_ne (h : ∀ f ∈ fields, f.name ≠ name) :
    fields.zipIdx.find? (·.1.name = name) = none := by
  refine List.find?_eq_none.2 fun p hp => ?_
  have hmem := List.mem_of_getElem? (List.mem_zipIdx_iff_getElem?.1 hp)
  simpa using h p.1 hmem

theorem find?_of_getElem? {f : Field α} {i : Nat} (hnames : (fields.map (·.name)).Nodup)
    (hf : fields[i]? = some f) : fields.zipIdx.find? (·.1.name = f.name) = some (f, i) := by
  cases hfind : fields.zipIdx.find? (·.1.name = f.name) with
  | none =>
    have hnone := List.find?_eq_none.1 hfind (f, i) (List.mem_zipIdx_iff_getElem?.2 hf)
    simp at hnone
  | some p =>
    have hname : p.1.name = f.name := by simpa using List.find?_some hfind
    have hp := List.mem_zipIdx_iff_getElem?.1 (List.mem_of_find?_eq_some hfind)
    have hlt : i < (fields.map (·.name)).length := by
      rw [List.length_map]
      exact (List.getElem?_eq_some_iff.1 hf).1
    have heq : i = p.2 := (List.getElem?_inj hlt hnames).1 (by simp [hf, hp, hname])
    subst heq
    exact congrArg some (Prod.ext (Option.some.inj (hp.symm.trans hf)) rfl)

theorem takeMembers_of_takes (hnames : (fields.map (·.name)).Nodup)
    (h : Takes fields fuel isFirst taken x values y) :
    (takeMembers fields (fuel + 1) isFirst taken).apply x = (.ok values, y) := by
  cases h with
  | done hkey hvalues =>
    subst hvalues
    exact Reader.apply_bind_eq_ok.2 ⟨false, _, hkey, rfl⟩
  | other hkey hname hother hskip hrest =>
    obtain ⟨k', hstring, hcolon⟩ := exists_of_key hname
    refine Reader.apply_bind_eq_ok.2 ⟨true, _, hkey, Reader.apply_bind_eq_ok.2 ⟨_, _,
      apply_advance _, Reader.apply_bind_eq_ok.2 ⟨_, _, hstring, ?_⟩⟩⟩
    rw [find?_of_forall_ne hother]
    exact Reader.apply_bind_eq_ok.2 ⟨_, _, hcolon, Reader.apply_bind_eq_ok.2 ⟨_, _, hskip, hrest⟩⟩
  | @field f a i _ _ _ hkey hname hf htaken hread hrest =>
    obtain ⟨k', hstring, hcolon⟩ := exists_of_key hname
    refine Reader.apply_bind_eq_ok.2 ⟨true, _, hkey, Reader.apply_bind_eq_ok.2 ⟨_, _,
      apply_advance _, Reader.apply_bind_eq_ok.2 ⟨_, _, hstring, ?_⟩⟩⟩
    rw [find?_of_getElem? hnames hf]
    dsimp only
    rw [htaken, if_neg (by simp)]
    exact Reader.apply_bind_eq_ok.2 ⟨_, _, hcolon,
      Reader.apply_bind_eq_ok.2 ⟨_, _, hread, hrest⟩⟩

/-- The members of an object are taken as they fill the fields. -/
theorem takeMembers_of_fill (hnames : (fields.map (·.name)).Nodup)
    (h : Fill fields taken members values) (hfuel : members.length < fuel) (isFirst : Bool)
    (rest : Bytes) : (takeMembers fields fuel isFirst taken).apply
      (memberBytes isFirst members ++ rest) = (.ok values, code '\x7d' :: rest) := by
  induction h generalizing fuel isFirst with
  | nothing =>
    cases fuel with
    | zero => cases hfuel
    | succ fuel =>
      exact takeMembers_of_takes hnames (.done (hasKey_memberBytes_nil isFirst rest) rfl)
  | @other name text members _ _ hother hwritten _ ih =>
    obtain ⟨k, hkey, hname⟩ := key_memberBytes isFirst name text members rest
    cases fuel with
    | zero => cases hfuel
    | succ fuel =>
      exact takeMembers_of_takes hnames (.other hkey hname hother
        (hwritten _ (follows_memberBytes members rest)) (ih (Nat.lt_of_succ_lt_succ hfuel) false))
  | @field f i text a members _ _ hf htaken hwritten _ ih =>
    obtain ⟨k, hkey, hname⟩ := key_memberBytes isFirst f.name text members rest
    cases fuel with
    | zero => cases hfuel
    | succ fuel =>
      exact takeMembers_of_takes hnames (.field hkey hname hf htaken
        (hwritten _ (follows_memberBytes members rest)) (ih (Nat.lt_of_succ_lt_succ hfuel) false))

/-- A record is read from the object that is written. -/
theorem record_object (hnames : (fields.map (·.name)).Nodup)
    (h : Fill fields (fields.map fun _ => none) members values)
    (hcomplete : (List.zipWith (fun (f : Field α) v => v.or f.default?) fields values).mapM id =
      some as) (rest : Bytes) :
    (record fields).apply (Text.utf8 (object members) ++ rest) = (.ok as, rest) := by
  have hfuel : members.length < (memberBytes true members ++ rest).length + 1 := by
    have hlength := length_lt_memberBytes true members
    rw [List.length_append]
    omega
  have htake := takeMembers_of_fill hnames h hfuel true rest
  have hvalues : (complete fields values).apply (code '\x7d' :: rest) =
      (.ok as, code '\x7d' :: rest) := by
    unfold complete
    rw [hcomplete]
    rfl
  rw [utf8_object, List.cons_append]
  refine Reader.apply_bind_eq_ok.2 ⟨_, _, apply_peek _, ?_⟩
  show (if code '\x7b' = code '\x7b' then _ else _ : Reader (List α)).apply
    (code '\x7b' :: (memberBytes true members ++ rest)) = _
  rw [if_pos rfl]
  refine Reader.apply_bind_eq_ok.2 ⟨_, _, apply_advance _, ?_⟩
  refine Reader.apply_closedBy_of_ok (z := code '\x7d' :: rest) ?_ rfl
  exact Reader.apply_bind_eq_ok.2 ⟨_, _, apply_remaining _,
    Reader.apply_bind_eq_ok.2 ⟨_, _, htake, hvalues⟩⟩

theorem read_of_apply {r : Reader α} {a : α} (h : r.apply x = (.ok a, [])) : read r x = .ok a := by
  have hread : (do let value ← r; endOfInput; return value : Reader α).apply x = (.ok a, []) :=
    Reader.apply_bind_eq_ok.2 ⟨_, _, h, rfl⟩
  exact congrArg Prod.fst hread

end SessionAuth.Json
