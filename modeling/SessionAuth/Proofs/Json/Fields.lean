import SessionAuth.Json.Record
import SessionAuth.Proofs.Json.Resume

/-!
# Records read from objects

A record that is read from an object finds the one member for each of its fields, or takes the
field's default. Texts and integers end where passing over them ends, so that such records find all
members.
-/

namespace SessionAuth.Json

variable {α : Type} {b : UInt8} {x y z v : Bytes} {members : List (String × Bytes)}
  {fields : List (Field α)} {fuel : Nat} {isFirst : Bool} {taken values : List (Option α)}

/-! ### Typed values -/

theorem not_ok_of_mismatch {a : α} : (mismatch b).apply x ≠ (.ok a, y) := by
  intro h
  unfold mismatch at h
  split at h
  · obtain ⟨_, _, _, h⟩ := Reader.apply_bind_eq_ok.1 h
    cases h
  · cases h

theorem skip_of_skipScalar (hx : x.dropWhile isBlank = b :: z) (hlist : b ≠ code '[')
    (hobject : b ≠ code '\x7b') (h : (skipScalar b).apply (b :: z) = (.ok (), y)) :
    skip.apply x = (.ok (), y) := by
  rw [skip, Reader.apply_bind, apply_remaining]
  simp only [skipFrom, Reader.apply_bind, apply_peek, hx, List.head?_cons, hlist, hobject,
    if_false, h]
  rfl

theorem eq_of_text {s : String} (h : text.apply x = (.ok s, y)) :
    ∃ z, x.dropWhile isBlank = code '"' :: z ∧ stringBody.apply z = (.ok s, y) := by
  obtain ⟨b, z, hx, h⟩ := ok_of_peek h
  split at h
  next hb =>
    subst hb
    rw [Reader.apply_bind, apply_advance] at h
    exact ⟨z, hx, h⟩
  · exact absurd h not_ok_of_mismatch

theorem skip_of_text {s : String} (h : text.apply x = (.ok s, y)) : skip.apply x = (.ok (), y) := by
  obtain ⟨z, hx, hstring⟩ := eq_of_text h
  refine skip_of_skipScalar hx (by decide) (by decide) ?_
  rw [skipScalar, if_pos rfl, Reader.apply_bind, apply_advance]
  exact skipString_of_stringBody hstring

theorem eq_of_integer {n : Int} (h : integer.apply x = (.ok n, y)) :
    ∃ b z, x.dropWhile isBlank = b :: z ∧ (b = code '-' || isDigit b) = true ∧
      number.apply (b :: z) = (.ok (.integer n), y) := by
  obtain ⟨b, z, hx, h⟩ := ok_of_peek h
  split at h
  next hb =>
    obtain ⟨n', _, hnumber, h⟩ := Reader.apply_bind_eq_ok.1 h
    cases n' with
    | integer n' =>
      dsimp only at h
      split at h <;> cases h
      exact ⟨b, z, hx, hb, hnumber⟩
    | real => cases h
  · exact absurd h not_ok_of_mismatch

theorem lt_of_integer {n : Int} (h : integer.apply x = (.ok n, y)) : n < Nat.pow 2 63 := by
  obtain ⟨b, z, -, h⟩ := ok_of_peek h
  split at h
  · obtain ⟨n', _, -, h⟩ := Reader.apply_bind_eq_ok.1 h
    cases n' with
    | integer n' =>
      dsimp only at h
      split at h
      next hlt =>
        cases h
        exact hlt
      · cases h
    | real => cases h
  · exact absurd h not_ok_of_mismatch

theorem ne_code_of_number (hb : (b = code '-' || isDigit b) = true) {c : Char}
    (hc : isDigit (code c) = false) (hminus : code '-' ≠ code c) : b ≠ code c := by
  rcases Bool.or_eq_true_iff.1 hb with hb | hb
  · rw [of_decide_eq_true hb]
    exact hminus
  · exact ne_code_of_isDigit hb hc

theorem skip_of_integer {n : Int} (h : integer.apply x = (.ok n, y)) :
    skip.apply x = (.ok (), y) := by
  obtain ⟨b, z, hx, hb, hnumber⟩ := eq_of_integer h
  refine skip_of_skipScalar hx (ne_code_of_number hb rfl (by decide))
    (ne_code_of_number hb rfl (by decide)) ?_
  rw [skipScalar, if_neg (ne_code_of_number hb rfl (by decide)), if_pos hb]
  exact (skipNumber_of_number hnumber).1

theorem eq_of_list {element : Reader α} {as : List α} (h : (list element).apply x = (.ok as, y)) :
    ∃ z, x.dropWhile isBlank = code '[' :: z ∧
      (listOf element).apply (code '[' :: z) = (.ok as, y) := by
  obtain ⟨b, z, hx, h⟩ := ok_of_peek h
  split at h
  next hb =>
    subst hb
    exact ⟨z, hx, h⟩
  · exact absurd h not_ok_of_mismatch

section

variable {β : Type} {r : Reader α} {r' : Reader β} {g : α → β}
  (hr : ∀ x a y, r.apply x = (.ok a, y) → r'.apply x = (.ok (g a), y))

include hr

theorem elementsFrom_map {as : List α} (h : (elementsFrom r fuel isFirst).apply x = (.ok as, y)) :
    (elementsFrom r' fuel isFirst).apply x = (.ok (as.map g), y) := by
  induction fuel generalizing isFirst as x with
  | zero =>
    cases h
    rfl
  | succ fuel ih =>
    obtain ⟨another, z, hanother, hrest⟩ := Reader.apply_bind_eq_ok.1 h
    refine Reader.apply_bind_eq_ok.2 ⟨another, z, hanother, ?_⟩
    cases another with
    | false =>
      cases hrest
      rfl
    | true =>
      obtain ⟨a, w, hfirst, hrest⟩ := Reader.apply_bind_eq_ok.1 hrest
      obtain ⟨as', w', hothers, hreturn⟩ := Reader.apply_bind_eq_ok.1 hrest
      cases hreturn
      exact Reader.apply_bind_eq_ok.2 ⟨g a, w, hr _ _ _ hfirst,
        Reader.apply_bind_eq_ok.2 ⟨as'.map g, _, ih hothers, rfl⟩⟩

/-- A list can be read with every reader that reads more. -/
theorem listOf_map {as : List α} (h : (listOf r).apply x = (.ok as, y)) :
    (listOf r').apply x = (.ok (as.map g), y) := by
  obtain ⟨_, z, hadvance, hrest⟩ := Reader.apply_bind_eq_ok.1 h
  obtain ⟨n, z', hremaining, hclosed⟩ := Reader.apply_bind_eq_ok.1 hrest
  obtain ⟨w, helements, hclose⟩ := Reader.ok_of_closedBy hclosed
  exact Reader.apply_bind_eq_ok.2 ⟨_, z, hadvance, Reader.apply_bind_eq_ok.2 ⟨n, z', hremaining,
    Reader.apply_closedBy_of_ok (elementsFrom_map hr helements) hclose⟩⟩

end

/-! ### Values of a record -/

theorem length_of_takeMembers
    (h : (takeMembers fields fuel isFirst taken).apply x = (.ok values, y)) :
    values.length = taken.length := by
  induction fuel generalizing isFirst taken x with
  | zero =>
    cases h
    rfl
  | succ fuel ih =>
    cases takes_of_takeMembers h with
    | done _ hvalues => exact congrArg _ hvalues
    | other _ _ _ _ hrest => exact ih hrest
    | field _ _ _ _ _ hrest => exact (ih hrest).trans List.length_set

theorem eq_map_some_of_mapM {l : List (Option α)} {as : List α} (h : l.mapM id = some as) :
    l = as.map some := by
  induction l generalizing as with
  | nil =>
    cases h
    rfl
  | cons o l ih =>
    rw [List.mapM_cons] at h
    cases o with
    | none => cases h
    | some a =>
      cases hl : l.mapM id with
      | none => simp [hl] at h
      | some as' =>
        simp only [id_eq, Option.bind_eq_bind, Option.bind_some, hl, Option.pure_def,
          Option.some.injEq] at h
        rw [← h, ih hl]
        rfl

/-- What a record holds for a field: what the one member with its name is read as, or its default if
there is none. -/
def Finds (members : List (String × Bytes)) (f : Field α) (a : α) : Prop :=
  HoldsOne members f.name f.read a ∨ (∀ m ∈ members, m.1 ≠ f.name) ∧ f.default? = some a

theorem Finds.of_required {name : String} {r : Reader α} {a : α}
    (h : Finds members (.required name r) a) : HoldsOne members name r a := by
  rcases h with h | ⟨_, hnone⟩
  · exact h
  · cases hnone

theorem Finds.of_text {name s : String} (h : Finds members (.text name) (.text s)) :
    HoldsOne members name text s := by
  obtain ⟨v, hone, hread⟩ := Finds.of_required h
  exact ⟨v, hone, Reader.fst_apply_of_map (fun _ _ => Atom.text.inj) hread⟩

theorem Finds.of_number {name : String} {n : Int} (h : Finds members (.number name) (.number n)) :
    HoldsOne members name integer n := by
  obtain ⟨v, hone, hread⟩ := Finds.of_required h
  exact ⟨v, hone, Reader.fst_apply_of_map (fun _ _ => Atom.number.inj) hread⟩

theorem HoldsOne.exists_mem {name : String} {r : Reader α} {a : α}
    (h : HoldsOne members name r a) : ∃ v, (name, v) ∈ members ∧ (r.apply v).1 = .ok a := by
  obtain ⟨v, hone, hread⟩ := h
  have hmem : (name, v) ∈ members.filter (·.1 = name) := by
    rw [hone]
    exact List.mem_singleton_self _
  exact ⟨v, (List.mem_filter.1 hmem).1, hread⟩

/-- A field that is found in a member's place is what the member is read as. -/
theorem Finds.of_mem {f : Field α} {a : α} (h : Finds members f a) (hmem : (f.name, v) ∈ members) :
    (f.read.apply v).1 = .ok a := by
  rcases h with ⟨w, hone, hread⟩ | ⟨hmissing, _⟩
  · have hv : (f.name, v) ∈ members.filter (·.1 = f.name) :=
      List.mem_filter.2 ⟨hmem, decide_eq_true rfl⟩
    rw [hone, List.mem_singleton] at hv
    cases hv
    exact hread
  · exact absurd rfl (hmissing _ hmem)

theorem finds_of_complete {as : List α} (h : (complete fields values).apply x = (.ok as, y))
    (hlength : values.length = fields.length) {i : Nat} {f : Field α} (hf : fields[i]? = some f)
    (hreads : Reads f members none ((values[i]?).bind id)) :
    ∃ a, as[i]? = some a ∧ Finds members f a := by
  unfold complete at h
  split at h
  next as' has =>
    cases h
    have hmap := congrArg (·[i]?) (eq_map_some_of_mapM has)
    have hi : i < values.length := hlength ▸ (List.getElem?_eq_some_iff.1 hf).1
    simp only [List.getElem?_zipWith, hf, List.getElem?_eq_getElem hi, List.getElem?_map] at hmap
    obtain ⟨a, ha, heq⟩ := Option.map_eq_some_iff.1 hmap.symm
    refine ⟨a, ha, ?_⟩
    rw [List.getElem?_eq_getElem hi] at hreads
    rcases hreads.of_none with ⟨hnone, hmissing⟩ | ⟨b, hsome, hholds⟩
    · rw [Option.bind_some, id] at hnone
      rw [hnone, Option.none_or] at heq
      exact .inr ⟨hmissing, heq.symm⟩
    · rw [Option.bind_some, id] at hsome
      rw [hsome, Option.some_or] at heq
      cases heq
      exact .inl hholds
  · cases h

/-! ### Records -/

/-- A record is read from an object or from a list, whose bracket is closed behind it. -/
inductive ReadsRecord (fields : List (Field α)) (x : Bytes) (as : List α) (y : Bytes) : Prop
  | object {z w w' : Bytes} {fuel : Nat} {values : List (Option α)} :
    x.dropWhile isBlank = code '\x7b' :: z →
    (takeMembers fields fuel true (fields.map fun _ => none)).apply z = (.ok values, w) →
    (complete fields values).apply w = (.ok as, w') → closeObject.apply w' = (.ok (), y) →
    ReadsRecord fields x as y
  | list {z w : Bytes} : x.dropWhile isBlank = code '[' :: z →
    (takeElements true fields).apply z = (.ok as, w) → closeList.apply w = (.ok (), y) →
    ReadsRecord fields x as y

theorem readsRecord_of_record {as : List α} (h : (record fields).apply x = (.ok as, y)) :
    ReadsRecord fields x as y := by
  obtain ⟨b, z, hx, h⟩ := ok_of_peek h
  split at h
  next hb =>
    subst hb
    rw [Reader.apply_bind, apply_advance] at h
    obtain ⟨w, hbody, hclose⟩ := Reader.ok_of_closedBy h
    rw [Reader.apply_bind, apply_remaining] at hbody
    obtain ⟨values, w', htake, hcomplete⟩ := Reader.apply_bind_eq_ok.1 hbody
    exact .object hx htake hcomplete hclose
  · split at h
    next hb =>
      subst hb
      rw [Reader.apply_bind, apply_advance] at h
      obtain ⟨w, hbody, hclose⟩ := Reader.ok_of_closedBy h
      exact .list hx hbody hclose
    · exact absurd h not_ok_of_mismatch

theorem snd_of_complete {as : List α} (h : (complete fields values).apply x = (.ok as, y)) :
    y = x := by
  unfold complete at h
  split at h <;> cases h
  rfl

theorem isEnd_of_closeObject (h : closeObject.apply x = (.ok (), y))
    (hy : y.dropWhile isBlank = []) : IsEnd x :=
  ⟨y, eq_cons_of_expect h, hy⟩

/-- The members of an object from which a record of values that can be passed over is read. -/
theorem exists_isObject {as : List α}
    (hskip : ∀ f ∈ fields, ∀ a x y, f.read.apply x = (.ok a, y) → skip.apply x = (.ok (), y))
    (h : (record fields).apply x = (.ok as, y)) (hy : y.dropWhile isBlank = [])
    (hbrace : x.dropWhile isBlank = code '\x7b' :: z) : ∃ members, IsObject x members := by
  cases readsRecord_of_record h with
  | object hx htake hcomplete hclose =>
    rw [hx] at hbrace
    cases hbrace
    cases snd_of_complete hcomplete
    obtain ⟨members, w, hmembers, hw⟩ := exists_members hskip htake (isEnd_of_closeObject hclose hy)
    exact ⟨members, _, w, hx, hmembers, hw⟩
  | list hx =>
    rw [hx] at hbrace
    cases hbrace

/-- Each field of a record that is read from an object is found among its members. -/
theorem IsObject.finds {as : List α} (hobject : IsObject x members)
    (hnames : (fields.map (·.name)).Nodup) (hends : FindsEnds fields)
    (h : (record fields).apply x = (.ok as, y)) (hy : y.dropWhile isBlank = [])
    {i : Nat} {f : Field α} (hf : fields[i]? = some f) :
    ∃ a, as[i]? = some a ∧ Finds members f a := by
  obtain ⟨x', w, hbrace, hmembers, hw⟩ := hobject
  cases readsRecord_of_record h with
  | object hx htake hcomplete hclose =>
    rw [hx] at hbrace
    cases hbrace
    cases snd_of_complete hcomplete
    have hlength := length_of_takeMembers htake
    rw [List.length_map] at hlength
    have hreads := reads_of_takeMembers hnames hends hmembers hw rfl htake
      (isEnd_of_closeObject hclose hy) (List.length_map _) hf
    rw [List.getElem?_map, hf] at hreads
    exact finds_of_complete hcomplete hlength hf hreads
  | list hx =>
    rw [hx] at hbrace
    cases hbrace

/-- A record of one member, which is passed over, shows that an object has the member. -/
theorem IsObject.exists_mem {name : String} (hobject : IsObject x members)
    (h : (record [.required name skip]).apply x = (.ok [()], y)) (hy : y.dropWhile isBlank = []) :
    ∃ v, (name, v) ∈ members := by
  have hskip : ∀ f ∈ [Field.required name skip], ∀ a x y,
      f.read.apply x = (.ok a, y) → skip.apply x = (.ok (), y) := by
    intro f hf a x y hread
    cases List.mem_singleton.1 hf
    exact hread
  obtain ⟨a, _, hfinds⟩ := hobject.finds (by simp) (findsEnds_of_skip hskip) h hy
    (i := 0) rfl
  obtain ⟨v, hmem, _⟩ := (Finds.of_required hfinds).exists_mem
  exact ⟨v, hmem⟩

/-- What a list of fields that has been opened gives first. -/
theorem ok_of_takeElements {f : Field α} {as : List α}
    (h : (takeElements isFirst (f :: fields)).apply x = (.ok as, y)) :
    ∃ k w a as', (hasElement isFirst).apply x = (.ok true, k) ∧ f.read.apply k = (.ok a, w) ∧
      as = a :: as' := by
  obtain ⟨another, k, hanother, hrest⟩ := Reader.apply_bind_eq_ok.1 h
  cases another with
  | false => cases hrest
  | true =>
    obtain ⟨a, w, hread, hrest⟩ := Reader.apply_bind_eq_ok.1 hrest
    obtain ⟨as', w', _, hreturn⟩ := Reader.apply_bind_eq_ok.1 hrest
    cases hreturn
    exact ⟨k, w, a, as', hanother, hread, rfl⟩

/-- A whole text is read when nothing but blanks is left behind what was read. -/
theorem ok_of_read {r : Reader α} {a : α} (h : read r x = .ok a) :
    ∃ y, r.apply x = (.ok a, y) ∧ y.dropWhile isBlank = [] := by
  obtain ⟨b, y, hread, hrest⟩ := Reader.apply_bind_eq_ok.1 (Prod.ext h rfl)
  obtain ⟨_, z, hend, hreturn⟩ := Reader.apply_bind_eq_ok.1 hrest
  cases hreturn
  refine ⟨y, hread, ?_⟩
  rw [endOfInput, Reader.apply_bind, apply_peek] at hend
  cases hy : y.dropWhile isBlank with
  | nil => rfl
  | cons c w =>
    rw [hy] at hend
    cases hend

end SessionAuth.Json
