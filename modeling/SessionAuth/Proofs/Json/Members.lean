import SessionAuth.Proofs.Json.Skip

/-!
# The members of an object

An object is its members in their order, as passing over their values finds them. A reader of a
record takes them one by one.
-/

namespace SessionAuth.Json

variable {α : Type} {isFirst : Bool} {d e fuel : Nat} {name : String} {x y z k v w : Bytes}
  {members : List (String × Bytes)} {fields : List (Field α)} {taken values : List (Option α)}

/-- What stands between the braces of an object up to its end: the names of its members, each with
the text that begins with its value. -/
inductive Members : (isFirst : Bool) → Bytes → List (String × Bytes) → Bytes → Prop
  | done {isFirst : Bool} {x y : Bytes} : (hasKey isFirst).apply x = (.ok false, y) →
    Members isFirst x [] y
  | member {isFirst : Bool} {name : String} {x y k v w : Bytes} {members : List (String × Bytes)} :
    (hasKey isFirst).apply x = (.ok true, k) → key.apply k = (.ok name, v) →
    skip.apply v = (.ok (), w) → Members false w members y →
    Members isFirst x ((name, v) :: members) y

/-- A closing brace, and nothing behind it. -/
def IsEnd (x : Bytes) : Prop :=
  ∃ y, x.dropWhile isBlank = code '\x7d' :: y ∧ y.dropWhile isBlank = []

/-- A text is an object with these members. -/
def IsObject (x : Bytes) (members : List (String × Bytes)) : Prop :=
  ∃ y z, x.dropWhile isBlank = code '\x7b' :: y ∧ Members true y members z ∧ IsEnd z

/-! ### What may follow a value -/

/-- Blanks, and then a comma or a closing brace. -/
def Follows (x : Bytes) : Prop :=
  ∃ b y, x.dropWhile isBlank = b :: y ∧ (b = code ',' ∨ b = code '\x7d')

theorem Follows.hasPower (h : Follows x) : HasPower x := by
  obtain ⟨b, y, hx, rfl | rfl⟩ := h <;> exact hasPower_of_dropWhile hx rfl

theorem IsEnd.follows (h : IsEnd x) : Follows x := by
  obtain ⟨y, hx, _⟩ := h
  exact ⟨_, y, hx, .inr rfl⟩

theorem follows_of_hasKey {isKey : Bool} (h : (hasKey false).apply x = (.ok isKey, y)) :
    Follows x := by
  cases atKey_of_hasKey h with
  | close hx => exact ⟨_, _, hx, .inr rfl⟩
  | first hfirst => cases hfirst
  | next _ hx => exact ⟨_, _, hx, .inl rfl⟩

theorem Members.follows (h : Members false x members y) : Follows x := by
  cases h with
  | done hkey | member hkey => exact follows_of_hasKey hkey

/-- Blanks in front make no difference to whether a key follows. -/
theorem hasKey_congr (h : x.dropWhile isBlank = y.dropWhile isBlank) :
    (hasKey isFirst).apply x = (hasKey isFirst).apply y := by
  rw [hasKey, Reader.apply_bind, Reader.apply_bind, apply_peek, apply_peek, h]

theorem hasKey_of_isEnd (h : IsEnd x) :
    (hasKey isFirst).apply x = (.ok false, x.dropWhile isBlank) := by
  obtain ⟨y, hx, _⟩ := h
  rw [hasKey, Reader.apply_bind, apply_peek, hx]
  rfl

theorem isEnd_of_hasKey (h : (hasKey isFirst).apply x = (.ok false, y)) (hy : IsEnd y) :
    IsEnd x := by
  cases atKey_of_hasKey h with
  | close hx =>
    obtain ⟨z, hz, hblank⟩ := hy
    cases hz
    exact ⟨_, hx, hblank⟩

theorem IsEnd.dropWhile (h : IsEnd x) : IsEnd (x.dropWhile isBlank) := by
  obtain ⟨y, hx, hy⟩ := h
  exact ⟨y, by rw [hx]; rfl, hy⟩

/-! ### Walking over members -/

theorem walk_of_hasKey (h : (hasKey isFirst).apply x = (.ok true, k)) (hd : d < e) :
    Walk d (.outside e) x (.outside e) k := by
  cases atKey_of_hasKey h with
  | first _ hx => exact .blanks hx
  | next _ hx hz => exact (Walk.blanks hx).trans ((Walk.comma hd _).trans (.blanks hz))

theorem walk_of_key (h : key.apply (code '"' :: k) = (.ok name, v)) :
    Walk d (.outside e) (code '"' :: k) (.outside e) v := by
  rw [key, Reader.apply_bind, apply_advance] at h
  obtain ⟨_, _, hstring, hrest⟩ := Reader.apply_bind_eq_ok.1 h
  obtain ⟨_, _, hcolon, hreturn⟩ := Reader.apply_bind_eq_ok.1 hrest
  cases hreturn
  exact (Walk.quote d e k).trans ((walk_of_skipString (skipString_of_stringBody hstring)).trans
    (walk_of_colon hcolon))

theorem walk_of_hasKey_key (hkey : (hasKey isFirst).apply x = (.ok true, k))
    (hname : key.apply k = (.ok name, v)) (hd : d < e) :
    Walk d (.outside e) x (.outside e) v := by
  have hk := walk_of_hasKey (d := d) hkey hd
  obtain ⟨k, rfl⟩ := (atKey_of_hasKey hkey).exists_quote
  exact hk.trans (walk_of_key hname)

theorem Members.walk (h : Members isFirst x members y) :
    Walk 0 (.outside 1) x (.outside 1) y := by
  induction h with
  | done hkey =>
    cases atKey_of_hasKey hkey with
    | close hx => exact .blanks hx
  | member hkey hname hskip hmembers ih =>
    have hvalue := walk_of_skip (d := 1) hskip hmembers.follows.hasPower
    exact (walk_of_hasKey_key hkey hname Nat.one_pos).trans
      ((hvalue.weaken (Nat.zero_le 1)).trans ih)

theorem IsEnd.ends (h : IsEnd x) : Ends (.outside 1) x := by
  obtain ⟨y, hx, hy⟩ := h
  exact (Walk.blanks hx).trans ((Walk.closing (.inr rfl) (Nat.le_refl 0) y).trans (.blanks hy))

/-! ### Taking members -/

/-- How the members of an object are taken on: there is none, or the next one is unknown, or it
belongs to a field that was not there before. -/
inductive Takes (fields : List (Field α)) (fuel : Nat) (isFirst : Bool) (taken : List (Option α))
    (x : Bytes) (values : List (Option α)) (y : Bytes) : Prop
  | done : (hasKey isFirst).apply x = (.ok false, y) → values = taken →
    Takes fields fuel isFirst taken x values y
  | other {name : String} {k v w : Bytes} : (hasKey isFirst).apply x = (.ok true, k) →
    key.apply k = (.ok name, v) → (∀ f ∈ fields, f.name ≠ name) → skip.apply v = (.ok (), w) →
    (takeMembers fields fuel false taken).apply w = (.ok values, y) →
    Takes fields fuel isFirst taken x values y
  | field {f : Field α} {a : α} {i : Nat} {k v w : Bytes} :
    (hasKey isFirst).apply x = (.ok true, k) → key.apply k = (.ok f.name, v) →
    fields[i]? = some f → (taken[i]?).bind id = none → f.read.apply v = (.ok a, w) →
    (takeMembers fields fuel false (taken.set i (some a))).apply w = (.ok values, y) →
    Takes fields fuel isFirst taken x values y

theorem takes_of_takeMembers
    (h : (takeMembers fields (fuel + 1) isFirst taken).apply x = (.ok values, y)) :
    Takes fields fuel isFirst taken x values y := by
  obtain ⟨isKey, k, hkey, hrest⟩ := Reader.apply_bind_eq_ok.1 h
  cases isKey with
  | false =>
    cases hrest
    exact .done hkey rfl
  | true =>
    rw [if_pos rfl] at hrest
    obtain ⟨_, k', hadvance, hrest⟩ := Reader.apply_bind_eq_ok.1 hrest
    obtain ⟨name, k'', hstring, hrest⟩ := Reader.apply_bind_eq_ok.1 hrest
    have hname {v : Bytes} (hcolon : (expect (code ':')).apply k'' = (.ok (), v)) :
        key.apply k = (.ok name, v) :=
      Reader.apply_bind_eq_ok.2 ⟨_, _, hadvance, Reader.apply_bind_eq_ok.2 ⟨_, _, hstring,
        Reader.apply_bind_eq_ok.2 ⟨_, _, hcolon, rfl⟩⟩⟩
    split at hrest
    next hfind =>
      obtain ⟨_, v, hcolon, hrest⟩ := Reader.apply_bind_eq_ok.1 hrest
      obtain ⟨_, w, hskip, hrest⟩ := Reader.apply_bind_eq_ok.1 hrest
      refine .other hkey (hname hcolon) (fun f hf => ?_) hskip hrest
      obtain ⟨i, hi⟩ := List.getElem?_of_mem hf
      have hnone := List.find?_eq_none.1 hfind (f, i) (List.mem_zipIdx_iff_getElem?.2 hi)
      exact of_decide_eq_false (Bool.eq_false_iff.2 hnone)
    next f i hfind =>
      have hf : f.name = name := by simpa using List.find?_some hfind
      have hi := List.mem_zipIdx_iff_getElem?.1 (List.mem_of_find?_eq_some hfind)
      subst hf
      split at hrest
      · cases hrest
      next htaken =>
        obtain ⟨_, v, hcolon, hrest⟩ := Reader.apply_bind_eq_ok.1 hrest
        obtain ⟨a, w, hread, hrest⟩ := Reader.apply_bind_eq_ok.1 hrest
        exact .field hkey (hname hcolon) hi (by simpa using htaken) hread hrest

theorem follows_of_takeMembers
    (h : (takeMembers fields fuel false taken).apply x = (.ok values, y)) (hy : IsEnd y) :
    Follows x := by
  cases fuel with
  | zero =>
    cases h
    exact hy.follows
  | succ fuel =>
    cases takes_of_takeMembers h with
    | done hkey | other hkey | field hkey => exact follows_of_hasKey hkey

/-- Members that are taken are members, if each value that is taken can be passed over. -/
theorem exists_members
    (hskip : ∀ f ∈ fields, ∀ a x y, f.read.apply x = (.ok a, y) → skip.apply x = (.ok (), y))
    (h : (takeMembers fields fuel isFirst taken).apply x = (.ok values, y)) (hy : IsEnd y) :
    ∃ members z, Members isFirst x members z ∧ IsEnd z := by
  induction fuel generalizing isFirst taken x with
  | zero =>
    cases h
    exact ⟨[], _, .done (hasKey_of_isEnd hy), hy.dropWhile⟩
  | succ fuel ih =>
    cases takes_of_takeMembers h with
    | done hkey => exact ⟨_, _, .done hkey, hy⟩
    | other hkey hname _ hvalue hrest =>
      obtain ⟨members, z, hmembers, hz⟩ := ih hrest
      exact ⟨_, z, .member hkey hname hvalue hmembers, hz⟩
    | field hkey hname hi _ hread hrest =>
      obtain ⟨members, z, hmembers, hz⟩ := ih hrest
      exact ⟨_, z, .member hkey hname (hskip _ (List.mem_of_getElem? hi) _ _ _ hread) hmembers, hz⟩

/-! ### What fields read -/

/-- What a field has taken before and after members: at most one of them has its name, and that one
is read, unless it was taken already. -/
inductive Reads (f : Field α) : List (String × Bytes) → (before after : Option α) → Prop
  | nothing (o : Option α) : Reads f [] o o
  | other {name : String} {v : Bytes} {members : List (String × Bytes)} {o o' : Option α} :
    f.name ≠ name → Reads f members o o' → Reads f ((name, v) :: members) o o'
  | field {v : Bytes} {a : α} {members : List (String × Bytes)} {o : Option α} :
    (f.read.apply v).1 = .ok a → Reads f members (some a) o →
    Reads f ((f.name, v) :: members) none o

/-- There is one member with the name, and its value is read as `a`. -/
def HoldsOne (members : List (String × Bytes)) (name : String) (r : Reader α) (a : α) : Prop :=
  ∃ v, members.filter (·.1 = name) = [(name, v)] ∧ (r.apply v).1 = .ok a

variable {f : Field α}

theorem Reads.of_some {a : α} {o : Option α} (h : Reads f members (some a) o) :
    o = some a ∧ members.filter (·.1 = f.name) = [] := by
  generalize ho : some a = o' at h
  induction h with
  | nothing =>
    subst ho
    exact ⟨rfl, rfl⟩
  | other hne _ ih =>
    obtain ⟨ho, hnone⟩ := ih ho
    exact ⟨ho, by rw [List.filter_cons_of_neg (by simpa using Ne.symm hne)]; exact hnone⟩
  | field => cases ho

theorem Reads.of_none {o : Option α} (h : Reads f members none o) :
    (o = none ∧ ∀ m ∈ members, m.1 ≠ f.name) ∨
      ∃ a, o = some a ∧ HoldsOne members f.name f.read a := by
  generalize ho : none = o' at h
  induction h with
  | nothing =>
    subst ho
    exact .inl ⟨rfl, nofun⟩
  | other hne _ ih =>
    rcases ih ho with ⟨ho, hnone⟩ | ⟨a, ho, v, hone, hread⟩
    · exact .inl ⟨ho, List.forall_mem_cons.2 ⟨Ne.symm hne, hnone⟩⟩
    · refine .inr ⟨a, ho, v, ?_, hread⟩
      rw [List.filter_cons_of_neg (by simpa using Ne.symm hne)]
      exact hone
  | field hread hrest =>
    obtain ⟨ho, hnone⟩ := hrest.of_some
    refine .inr ⟨_, ho, _, ?_, hread⟩
    rw [List.filter_cons_of_pos (by simp), hnone]

end SessionAuth.Json
