import SessionAuth.Proofs.Json.Keeps
import SessionAuth.Proofs.Json.Members
import SessionAuth.Proofs.Text.Utf8

/-!
# Taking members after giving up

A field whose reader gives up within its value leaves the next members to be looked for there. If
the object can nevertheless be closed, and nothing is behind it, then the reader had come to the end
of the value: a reader that stands deeper closes too few brackets, and one that takes strings for
what is between them never meets the name of a field, and ends within a string.
-/

namespace SessionAuth.Json

variable {α : Type} {isFirst : Bool} {d e fuel : Nat} {name : String} {s t p q : Spot} {b : UInt8}
  {x y z k v w : Bytes} {members : List (String × Bytes)} {fields : List (Field α)}
  {taken values : List (Option α)}

/-! ### Spots that cannot be closed -/

theorem Walk.blanks_inside (h : x.dropWhile isBlank = y) : Walk d (.inside e) x (.inside e) y := by
  have hblank : ∀ b ∈ x.takeWhile isBlank, b ≠ code '"' ∧ b ≠ code '\\' := by
    intro b hb
    have hb := List.all_eq_true.1 List.all_takeWhile b hb
    constructor <;> rintro rfl <;> exact absurd hb (by decide)
  have hwalk := Walk.units (d := d) (e := e) hblank y
  rwa [← h, List.takeWhile_append_dropWhile, h] at hwalk

/-- Behind a backslash there is an escape, not the end of a value. -/
theorem Follows.not_escaped (h : Follows x) : ¬Ends (.escaped e) x := by
  intro hends
  obtain ⟨b, y, hx, hb⟩ := h
  cases x with
  | nil => cases hx
  | cons c x =>
    have hc : unescape? c = none ∧ c ≠ code 'u' := by
      by_cases hc : isBlank c
      · simp only [isBlank, Bool.or_eq_true, beq_iff_eq] at hc
        rcases hc with ((rfl | rfl) | rfl) | rfl <;> decide
      · rw [List.dropWhile_cons_of_neg hc] at hx
        cases hx
        rcases hb with rfl | rfl <;> decide
    rcases hends.allows with hsome | ⟨hu, _⟩
    · rw [hc.1] at hsome
      cases hsome
    · exact hc.2 hu

theorem IsEnd.not_inside (h : IsEnd x) : ¬Ends (.inside e) x := by
  intro hends
  obtain ⟨y, hx, hy⟩ := h
  have hbrace := (Walk.blanks_inside (d := 0) hx).ends hends
  cases ((Walk.blanks_inside (d := 0) hy).ends hbrace.after).eq_of_nil

theorem IsEnd.eq_one (h : IsEnd x) (hends : Ends (.outside e) x) : e = 1 := by
  obtain ⟨y, hx, hy⟩ := h
  have hbrace := (Walk.blanks (d := 0) hx).ends hends
  have hdeep : 0 < e := hbrace.within (.inr (.inr rfl))
  have hzero := ((Walk.blanks (d := 0) hy).ends hbrace.after).eq_of_nil
  injection hzero with hzero
  omega

/-! ### Strings taken for what is between them -/

/-- One spot is in a string and the other is not. -/
inductive Opposed : Spot → Spot → Prop
  | outside (d e : Nat) : Opposed (.outside d) (.inside e)
  | inside (d e : Nat) : Opposed (.inside d) (.outside e)

theorem Opposed.after (h : Opposed s t) (hb : b ≠ code '\\') : Opposed (s.after b) (t.after b) := by
  cases h with
  | outside d e =>
    simp only [Spot.after, hb, if_false]
    split
    · exact .inside _ _
    · repeat' split
      all_goals exact .outside _ _
  | inside d e =>
    simp only [Spot.after, hb, if_false]
    split
    · exact .outside _ _
    · repeat' split
      all_goals exact .inside _ _

theorem Walk.opposed (h : Walk d p x q y) (hs : Opposed p s) (hx : Ends s x) :
    ∃ t, Opposed q t ∧ Ends t y := by
  induction h generalizing s with
  | stay => exact ⟨s, hs, hx⟩
  | @step p q b x y ha _ _ ih =>
    refine ih (hs.after ?_) hx.after
    rintro rfl
    cases hs with
    | outside => exact absurd ha.1 (by decide)
    | inside => exact absurd hx.allows.1 (by decide)

theorem isForeign_of_stringFrom {bytes read : Bytes} (hx : Ends (.outside e) x)
    (h : stringFrom .plain read x = (.ok bytes, y)) (hb : b ∈ bytes) :
    b ∈ read ∨ isForeign b = false := by
  induction x generalizing e read with
  | nil => cases h
  | cons c x ih =>
    unfold stringFrom at h
    split at h
    · cases h
      exact .inl (List.mem_reverse.1 hb)
    · have hforeign := hx.allows.1
      split at h
      next hback =>
        subst hback
        exact absurd hforeign (by decide)
      · split at h
        · cases h
        next hquote hback hcontrol =>
          have hafter : ∃ e', (Spot.outside e).after c = .outside e' := by
            simp only [Spot.after, hquote, if_false]
            split
            · exact ⟨_, rfl⟩
            · split <;> exact ⟨_, rfl⟩
          obtain ⟨e', he⟩ := hafter
          rcases ih (he ▸ hx.after) h with hmem | hfree
          · rcases List.mem_cons.1 hmem with rfl | hmem
            · exact .inr hforeign
            · exact .inl hmem
          · exact .inr hfree

/-- What stands between strings has no foreign bytes. -/
theorem isForeign_of_key (hx : Ends (.inside e) (code '"' :: k))
    (h : key.apply (code '"' :: k) = (.ok name, v)) :
    ∀ b ∈ Text.utf8 name, isForeign b = false := by
  intro b hb
  rw [key, Reader.apply_bind, apply_advance] at h
  obtain ⟨_, _, hstring, hrest⟩ := Reader.apply_bind_eq_ok.1 h
  obtain ⟨_, _, _, hreturn⟩ := Reader.apply_bind_eq_ok.1 hrest
  cases hreturn
  obtain ⟨bytes, _, hbytes, hreturn⟩ := Reader.apply_bind_eq_ok.1 hstring
  split at hreturn <;> cases hreturn
  next hname =>
    rw [Text.utf8_of_ofUtf8? hname] at hb
    exact (isForeign_of_stringFrom hx.after hbytes hb).resolve_left List.not_mem_nil

/-! ### Members that can be closed -/

theorem pos_of_hasKey {isKey : Bool} (h : (hasKey false).apply x = (.ok isKey, y))
    (hx : Ends (.outside e) x) : 0 < e := by
  obtain ⟨b, z, hdrop, hb⟩ := follows_of_hasKey h
  exact ((Walk.blanks (d := 0) hdrop).ends hx).within (hb.imp_right .inr)

/-- The names of the fields cannot be met between strings, and their readers stand within the values
wherever they give up. -/
structure Resumable (f : Field α) : Prop where
  name : ∃ b ∈ Text.utf8 f.name, isForeign b
  read : StaysWithin f.read

variable (hfields : ∀ f ∈ fields, Resumable f)

include hfields

theorem not_inside_of_takeMembers
    (h : (takeMembers fields fuel false taken).apply x = (.ok values, y)) (hy : IsEnd y) :
    ¬Ends (.inside e) x := by
  intro hx
  induction fuel generalizing e taken x with
  | zero =>
    cases h
    exact hy.not_inside hx
  | succ fuel ih =>
    cases takes_of_takeMembers h with
    | done hkey => exact (isEnd_of_hasKey hkey hy).not_inside hx
    | other hkey hname _ hskip hrest =>
      have hw := (follows_of_takeMembers hrest hy).hasPower
      have hwalk := (walk_of_hasKey_key (d := 0) hkey hname Nat.one_pos).trans
        ((walk_of_skip (d := 1) hskip hw).weaken (Nat.zero_le 1))
      obtain ⟨t, ht, hends⟩ := hwalk.opposed (.outside 1 e) hx
      cases ht with
      | outside _ e => exact ih hrest hends
    | field hkey hname hi _ _ _ =>
      obtain ⟨t, ht, hends⟩ := (walk_of_hasKey (d := 0) hkey Nat.one_pos).opposed (.outside 1 e) hx
      obtain ⟨k, rfl⟩ := (atKey_of_hasKey hkey).exists_quote
      cases ht with
      | outside _ e =>
        obtain ⟨b, hb, hforeign⟩ := (hfields _ (List.mem_of_getElem? hi)).name
        rw [isForeign_of_key hends hname b hb] at hforeign
        cases hforeign

/-- If an object can be closed, its members are taken at their own depth. -/
theorem eq_of_takeMembers
    (h : (takeMembers fields fuel false taken).apply x = (.ok values, y)) (hy : IsEnd y)
    (hx : Ends s x) : s = .outside 1 := by
  induction fuel generalizing s taken x with
  | zero =>
    cases h
    cases s with
    | escaped e => exact absurd hx hy.follows.not_escaped
    | inside e => exact absurd hx hy.not_inside
    | outside e => exact congrArg _ (hy.eq_one hx)
  | succ fuel ih =>
    cases s with
    | escaped e => exact absurd hx (follows_of_takeMembers h hy).not_escaped
    | inside e => exact absurd hx (not_inside_of_takeMembers hfields h hy)
    | outside e =>
      cases takes_of_takeMembers h with
      | done hkey => exact congrArg _ ((isEnd_of_hasKey hkey hy).eq_one hx)
      | other hkey hname _ hskip hrest =>
        have hvalue := walk_of_hasKey_key (d := 0) hkey hname (pos_of_hasKey hkey hx)
        have hw := (follows_of_takeMembers hrest hy).hasPower
        exact ih hrest ((walk_of_skip (d := e) hskip hw).ends (hvalue.ends hx))
      | field hkey hname hi _ hread hrest =>
        have hdeep := pos_of_hasKey hkey hx
        have hv := (walk_of_hasKey_key (d := 0) hkey hname hdeep).ends hx
        obtain ⟨t, hwalk⟩ := (hfields _ (List.mem_of_getElem? hi)).read e _ hv
        rw [hread] at hwalk
        cases ih hrest (hwalk.ends hv)
        exact congrArg _ (Nat.le_antisymm (hwalk.le_depth (Nat.le_refl e)) hdeep)

omit hfields

/-! ### Both ways to the end of a value -/

/-- A walk at the depth of a value that starts at its end gets no further than the blanks. -/
theorem Walk.dropWhile_eq (h : Walk d (.outside d) x t y) (hx : Follows x) :
    x.dropWhile isBlank = y.dropWhile isBlank := by
  generalize hs : Spot.outside d = s at h
  induction h with
  | stay => rfl
  | @step s t b x y _ hw _ ih =>
    subst hs
    obtain ⟨c, z, hdrop, hc⟩ := hx
    by_cases hb : isBlank b
    · obtain ⟨_, hneutral⟩ := isFree_of_isBlank hb
      rw [List.dropWhile_cons_of_pos hb] at hdrop ⊢
      exact ih ⟨c, z, hdrop, hc⟩ (after_of_isNeutral hneutral).symm
    · rw [List.dropWhile_cons_of_neg hb] at hdrop
      cases hdrop
      exact absurd (hw (hc.imp_right .inr)) (Nat.lt_irrefl d)

/-- Passing over a value and reading it end at the same byte, if the object can be closed behind
both. -/
theorem dropWhile_eq_of_takeMembers (hfields : ∀ f ∈ fields, Resumable f) {f : Field α}
    (hf : f ∈ fields) {a : α} (hv : Ends (.outside 1) v) (hskip : skip.apply v = (.ok (), w))
    (hw : Follows w) (hread : f.read.apply v = (.ok a, x))
    (h : (takeMembers fields fuel false taken).apply x = (.ok values, y)) (hy : IsEnd y) :
    x.dropWhile isBlank = w.dropWhile isBlank := by
  have hover := walk_of_skip (d := 1) hskip hw.hasPower
  obtain ⟨t, hwalk⟩ := (hfields f hf).read 1 v hv
  rw [hread] at hwalk
  cases eq_of_takeMembers hfields h hy (hwalk.ends hv)
  rcases hover.compare hwalk with hrest | hrest
  · exact hrest.dropWhile_eq (follows_of_takeMembers h hy)
  · exact (hrest.dropWhile_eq hw).symm

/-! ### What the fields of a record read -/

/-- A reader of these fields finds the ends of their values, if the object can be closed behind
them. -/
def FindsEnds (fields : List (Field α)) : Prop :=
  ∀ f ∈ fields, ∀ v w x a fuel taken values y, Ends (.outside 1) v → skip.apply v = (.ok (), w) →
    Follows w → f.read.apply v = (.ok a, x) →
    (takeMembers fields fuel false taken).apply x = (.ok values, y) → IsEnd y →
    x.dropWhile isBlank = w.dropWhile isBlank

theorem findsEnds_of_resumable (hfields : ∀ f ∈ fields, Resumable f) : FindsEnds fields :=
  fun _ hf _ _ _ _ _ _ _ _ hv hskip hw hread h hy =>
    dropWhile_eq_of_takeMembers hfields hf hv hskip hw hread h hy

theorem findsEnds_of_skip
    (hskip : ∀ f ∈ fields, ∀ a x y, f.read.apply x = (.ok a, y) → skip.apply x = (.ok (), y)) :
    FindsEnds fields := by
  intro f hf v w x a _ _ _ _ _ hv _ hread _ _
  rw [hskip f hf a v x hread] at hv
  cases hv
  rfl

/-- Each field reads the one member with its name, if there is one. -/
theorem reads_of_takeMembers (hnames : (fields.map (·.name)).Nodup) (hends : FindsEnds fields)
    (hmembers : Members isFirst x members z) (hz : IsEnd z)
    (hx : w.dropWhile isBlank = x.dropWhile isBlank)
    (h : (takeMembers fields fuel isFirst taken).apply w = (.ok values, y)) (hy : IsEnd y)
    (hlength : taken.length = fields.length) {i : Nat} {f : Field α} (hf : fields[i]? = some f) :
    Reads f members ((taken[i]?).bind id) ((values[i]?).bind id) := by
  induction hmembers generalizing fuel taken w with
  | done hkey =>
    cases fuel with
    | zero =>
      cases h
      exact .nothing _
    | succ fuel =>
      rw [← hasKey_congr hx] at hkey
      cases takes_of_takeMembers h with
      | done _ hvalues =>
        subst hvalues
        exact .nothing _
      | other hkey' | field hkey' =>
        rw [hkey] at hkey'
        cases hkey'
  | member hkey hname hskip hmembers ih =>
    have hv := (walk_of_hasKey_key (d := 0) hkey hname Nat.one_pos).ends
      ((Members.member hkey hname hskip hmembers).walk.trans hz.ends)
    rw [← hasKey_congr hx] at hkey
    cases fuel with
    | zero =>
      cases h
      rw [hasKey_of_isEnd hy] at hkey
      cases hkey
    | succ fuel =>
      cases takes_of_takeMembers h with
      | done hkey' =>
        rw [hkey] at hkey'
        cases hkey'
      | other hkey' hname' hother hskip' hrest =>
        rw [hkey] at hkey'
        cases hkey'
        rw [hname] at hname'
        cases hname'
        rw [hskip] at hskip'
        cases hskip'
        exact .other (hother f (List.mem_of_getElem? hf)) (ih hz rfl hrest hlength)
      | @field f' a j _ _ _ hkey' hname' hj hnone hread hrest =>
        rw [hkey] at hkey'
        cases hkey'
        rw [hname] at hname'
        cases hname'
        have hdrop := hends f' (List.mem_of_getElem? hj) _ _ _ _ _ _ _ _ hv hskip
          hmembers.follows hread hrest hy
        have hreads := ih hz hdrop hrest (by rw [List.length_set, hlength])
        by_cases hij : j = i
        · subst hij
          rw [hf] at hj
          cases hj
          have hlt : j < taken.length := by
            rw [hlength]
            exact (List.getElem?_eq_some_iff.1 hf).1
          rw [List.getElem?_set_self hlt] at hreads
          rw [hnone]
          exact .field (by rw [hread]) hreads
        · rw [List.getElem?_set_ne hij] at hreads
          refine .other (fun heq => hij ?_) hreads
          have hi' : (fields.map (·.name))[i]? = some f.name := by rw [List.getElem?_map, hf]; rfl
          have hj' : (fields.map (·.name))[j]? = some f.name := by
            rw [List.getElem?_map, hj, heq]; rfl
          have hlt := (List.getElem?_eq_some_iff.1 hj').1
          exact (List.getElem?_inj hlt hnames).1 (hj'.trans hi'.symm)

end SessionAuth.Json
