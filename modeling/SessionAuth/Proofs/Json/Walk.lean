import SessionAuth.Proofs.Json.Apply

/-!
# Walking through a JSON text

Without its grammar a JSON text still has an outline: which bytes are in strings, and how many
brackets are open. A walk goes through a text byte by byte and keeps that outline. It is used for
readers that give up within a value, where the grammar does not say what comes next.
-/

namespace SessionAuth.Json

/-! ### Spots -/

/-- Where a reader stands: outside strings, in a string, or behind a backslash in a string. The
number counts the open brackets. -/
inductive Spot where
  | outside (depth : Nat)
  | inside (depth : Nat)
  | escaped (depth : Nat)

/-- Bytes that stand in strings only. They are more than these; the letters are those that tell the
names of claims from numbers, literals and punctuation. -/
def isForeign (b : UInt8) : Bool :=
  b = code '\\' || b = code 'b' || b = code 'd' || b = code 'i' || b = code 'x'

/-- The bytes start with a digit. -/
def StartsDigits (x : Bytes) : Prop := ∃ b y, x = b :: y ∧ isDigit b

/-- The bytes start with a digit behind at most one sign. -/
def StartsPower (x : Bytes) : Prop :=
  StartsDigits x ∨ ∃ b y, x = b :: y ∧ (b = code '+' ∨ b = code '-') ∧ StartsDigits y

/-- An exponent that starts here has digits. -/
def HasPower (x : Bytes) : Prop := ∀ b y, x = b :: y → isExponentMark (some b) → StartsPower y

/-- The values that are words: the first letter and the others. -/
def literals : List (Char × List Char) :=
  [('n', ['u', 'l', 'l']), ('t', ['r', 'u', 'e']), ('f', ['a', 'l', 's', 'e'])]

/-- What a byte outside strings asks of those behind it: signs and exponents have digits, and words
go on to their ends. -/
structure GoesOn (b : UInt8) (x : Bytes) : Prop where
  minus : b = code '-' → StartsDigits x
  digit : isDigit b → HasPower x
  literal : ∀ l ∈ literals, b = code l.1 → ∃ y, (letters l.2).apply x = (.ok (), y)

/-- The bytes start with the four digits of a unit. -/
def StartsUnit (x : Bytes) : Prop := ∃ ds y, x = ds ++ y ∧ ds.length = 4 ∧ (unit? ds).isSome

namespace Spot

/-- The number of open brackets. -/
def depth : Spot → Nat
  | outside d | inside d | escaped d => d

/-- The spot behind a byte. -/
def after : Spot → UInt8 → Spot
  | outside d, b =>
    if b = code '"' then inside d
    else if b = code '[' ∨ b = code '\x7b' then outside (d + 1)
    else if b = code ']' ∨ b = code '\x7d' then outside (d - 1)
    else outside d
  | inside d, b => if b = code '"' then outside d else if b = code '\\' then escaped d else inside d
  | escaped d, _ => inside d

/-- A byte can stand at a spot, with the given bytes behind it. -/
def Allows : Spot → UInt8 → Bytes → Prop
  | outside _, b, x => isForeign b = false ∧ GoesOn b x
  | inside _, _, _ => True
  | escaped _, b, x => (unescape? b).isSome ∨ b = code 'u' ∧ StartsUnit x

/-- A byte that ends a value, or the list or object around it, stands deeper than `d`. -/
def Within (d : Nat) : Spot → UInt8 → Prop
  | outside e, b => b = code ',' ∨ b = code ']' ∨ b = code '\x7d' → d < e
  | inside _, _ | escaped _, _ => True

theorem le_depth_after {d : Nat} {s : Spot} {b : UInt8} (hw : s.Within d b) (hd : d ≤ s.depth) :
    d ≤ (s.after b).depth := by
  cases s with
  | outside e =>
    simp only [after]
    split
    · exact hd
    · split
      · exact Nat.le_succ_of_le hd
      · split
        next hb => exact Nat.le_sub_one_of_lt (hw (.inr hb))
        · exact hd
  | inside e | escaped e =>
    simp only [after]
    repeat' split
    all_goals exact hd

end Spot

/-! ### Walks -/

/-- From one spot and what is left of the text there to another, without ending a value or a
bracket at depth `d` or above. -/
inductive Walk (d : Nat) : Spot → Bytes → Spot → Bytes → Prop
  | stay (s : Spot) (x : Bytes) : Walk d s x s x
  | step {s t : Spot} {b : UInt8} {x y : Bytes} :
    s.Allows b x → s.Within d b → Walk d (s.after b) x t y → Walk d s (b :: x) t y

/-- What is left of a text is its end: all brackets are closed, and no string is open. -/
def Ends (s : Spot) (x : Bytes) : Prop := Walk 0 s x (.outside 0) []

variable {d e : Nat} {s t u : Spot} {b : UInt8} {x y z : Bytes}

namespace Walk

theorem one (ha : s.Allows b x) (hw : s.Within d b) : Walk d s (b :: x) (s.after b) x :=
  .step ha hw (.stay _ _)

theorem trans (hx : Walk d s x t y) (hy : Walk d t y u z) : Walk d s x u z := by
  induction hx with
  | stay => exact hy
  | step ha hw _ ih => exact .step ha hw (ih hy)

theorem weaken (h : Walk d s x t y) (he : e ≤ d) : Walk e s x t y := by
  induction h with
  | stay => exact .stay _ _
  | @step s t b x y ha hw _ ih =>
    refine .step ha ?_ ih
    cases s with
    | outside => exact fun hb => Nat.lt_of_le_of_lt he (hw hb)
    | inside | escaped => trivial

theorem le_depth (h : Walk d s x t y) (hd : d ≤ s.depth) : d ≤ t.depth := by
  induction h with
  | stay => exact hd
  | step _ hw _ ih => exact ih (Spot.le_depth_after hw hd)

/-- Of two walks from the same place, one is the start of the other. -/
theorem compare {t' : Spot} {y' : Bytes} (h : Walk d s x t y) (h' : Walk e s x t' y') :
    Walk d t' y' t y ∨ Walk e t y t' y' := by
  induction h with
  | stay => exact .inr h'
  | step ha hw hx ih =>
    cases h' with
    | stay => exact .inl (.step ha hw hx)
    | step _ _ h' => exact ih h'

theorem ends (h : Walk d s x t y) (hx : Ends s x) : Ends t y := by
  rcases h.compare hx with hy | hy
  · cases hy
    exact .stay _ _
  · exact hy

end Walk

namespace Ends

theorem allows (h : Ends s (b :: x)) : s.Allows b x := by
  cases h with
  | step ha => exact ha

theorem within (h : Ends s (b :: x)) : s.Within 0 b := by
  cases h with
  | step _ hw => exact hw

theorem after (h : Ends s (b :: x)) : Ends (s.after b) x := by
  cases h with
  | step _ _ hx => exact hx

theorem eq_of_nil (h : Ends s []) : s = .outside 0 := by
  cases h
  rfl

theorem walk_one (h : Ends s (b :: x)) (hw : s.Within d b) : Walk d s (b :: x) (s.after b) x :=
  .one h.allows hw

end Ends

/-! ### Bytes that leave the outline alone -/

/-- Outside strings these bytes neither begin nor end anything. -/
def isNeutral (b : UInt8) : Bool :=
  b ≠ code '"' && b ≠ code '[' && b ≠ code ']' && b ≠ code '\x7b' && b ≠ code '\x7d' &&
    b ≠ code ','

/-- Outside strings any bytes may be behind these. -/
def isFree (b : UInt8) : Bool :=
  !isForeign b && !isDigit b && b ≠ code '-' && literals.all (b ≠ code ·.1)

theorem after_of_isNeutral (hb : isNeutral b) : (Spot.outside e).after b = .outside e := by
  simp only [isNeutral, Bool.and_eq_true, decide_eq_true_eq] at hb
  simp only [Spot.after, hb, if_false, or_self]

theorem within_of_isNeutral (hb : isNeutral b) : (Spot.outside e).Within d b := by
  simp only [isNeutral, Bool.and_eq_true, decide_eq_true_eq] at hb
  simp only [Spot.Within, hb, or_self, false_implies]

theorem Ends.walk_neutral {u : Bytes} (h : Ends (.outside e) (u ++ y)) (hu : ∀ b ∈ u, isNeutral b) :
    Walk d (.outside e) (u ++ y) (.outside e) y := by
  induction u with
  | nil => exact .stay _ _
  | cons b u ih =>
    obtain ⟨hb, hu⟩ := List.forall_mem_cons.1 hu
    have hafter := h.after
    have ha := after_of_isNeutral (e := e) hb
    rw [ha] at hafter
    exact .step h.allows (within_of_isNeutral hb) (ha.symm ▸ ih hafter hu)

theorem allows_of_isFree (hb : isFree b) : (Spot.outside e).Allows b x := by
  simp only [isFree, Bool.and_eq_true, decide_eq_true_eq, Bool.not_eq_true', List.all_eq_true] at hb
  obtain ⟨⟨⟨hforeign, hdigit⟩, hminus⟩, hliteral⟩ := hb
  exact ⟨hforeign, fun h => absurd h hminus, fun h => by simp [hdigit] at h,
    fun l hl h => absurd h (hliteral l hl)⟩

theorem Walk.loose {u : Bytes} (hu : ∀ b ∈ u, isFree b ∧ isNeutral b) (y : Bytes) :
    Walk d (.outside e) (u ++ y) (.outside e) y := by
  induction u with
  | nil => exact .stay _ _
  | cons b u ih =>
    obtain ⟨⟨hfree, hneutral⟩, hu⟩ := List.forall_mem_cons.1 hu
    exact .step (allows_of_isFree hfree) (within_of_isNeutral hneutral)
      ((after_of_isNeutral (e := e) hneutral).symm ▸ ih hu)

theorem Walk.loose_one (hb : isFree b ∧ isNeutral b) (x : Bytes) :
    Walk d (.outside e) (b :: x) (.outside e) x :=
  .loose (u := [b]) (by simpa using hb) x

/-! ### Quotes, signs and words -/

theorem Walk.quote (d e : Nat) (x : Bytes) :
    Walk d (.outside e) (code '"' :: x) (.inside e) x :=
  .one (allows_of_isFree rfl) fun h => absurd h (by decide)

theorem Walk.minus (h : StartsDigits x) :
    Walk d (.outside e) (code '-' :: x) (.outside e) x :=
  have hletter : ∀ l ∈ literals, code '-' ≠ code l.1 := by decide
  .one ⟨rfl, fun _ => h, fun h => absurd h (by decide), fun l hl h => absurd h (hletter l hl)⟩
    (within_of_isNeutral rfl)

theorem Walk.sign (hb : b = code '+' ∨ b = code '-') (h : StartsDigits x) :
    Walk d (.outside e) (b :: x) (.outside e) x := by
  rcases hb with rfl | rfl
  · exact .loose_one (by decide) x
  · exact .minus h

theorem Walk.literal {l : Char × List Char} (hl : l ∈ literals)
    (h : (letters l.2).apply x = (.ok (), y)) :
    Walk d (.outside e) (code l.1 :: x) (.outside e) y := by
  have hfirst : ∀ l ∈ literals, isForeign (code l.1) = false ∧ isNeutral (code l.1) ∧
      code l.1 ≠ code '-' ∧ isDigit (code l.1) = false := by decide
  have hunique : ∀ l ∈ literals, ∀ l' ∈ literals, code l.1 = code l'.1 → l = l' := by decide
  have hloose : ∀ l ∈ literals, (l.2.map code).all (fun b => isFree b && isNeutral b) := by decide
  obtain ⟨hforeign, hneutral, hminus, hdigit⟩ := hfirst l hl
  refine .step ⟨hforeign, fun h => absurd h hminus, fun h => by simp [hdigit] at h, ?_⟩
    (within_of_isNeutral hneutral) ?_
  · intro l' hl' heq
    cases hunique l hl l' hl' heq
    exact ⟨y, h⟩
  · rw [after_of_isNeutral hneutral, eq_append_of_letters h]
    exact .loose (by simpa using hloose l hl) y

/-! ### Brackets and commas -/

theorem Walk.opening (d e : Nat) (hb : b = code '[' ∨ b = code '\x7b') (x : Bytes) :
    Walk d (.outside e) (b :: x) (.outside (e + 1)) x := by
  rcases hb with rfl | rfl <;> exact .one (allows_of_isFree rfl) fun h => absurd h (by decide)

theorem Walk.closing (hb : b = code ']' ∨ b = code '\x7d') (hd : d ≤ e) (x : Bytes) :
    Walk d (.outside (e + 1)) (b :: x) (.outside e) x := by
  rcases hb with rfl | rfl <;> exact .one (allows_of_isFree rfl) fun _ => Nat.lt_succ_of_le hd

theorem Walk.comma (hd : d < e) (x : Bytes) :
    Walk d (.outside e) (code ',' :: x) (.outside e) x :=
  .one (allows_of_isFree rfl) fun _ => hd

/-! ### Blanks -/

theorem isFree_of_isBlank (h : isBlank b) : isFree b ∧ isNeutral b := by
  simp only [isBlank, Bool.or_eq_true, beq_iff_eq] at h
  rcases h with ((rfl | rfl) | rfl) | rfl <;> decide

theorem Walk.blanks (h : x.dropWhile isBlank = y) : Walk d (.outside e) x (.outside e) y := by
  subst h
  have h := Walk.loose (d := d) (e := e) (u := x.takeWhile isBlank)
    (fun b hb => isFree_of_isBlank (List.all_eq_true.1 List.all_takeWhile b hb))
    (x.dropWhile isBlank)
  rwa [List.takeWhile_append_dropWhile] at h

/-! ### Digits -/

theorem ne_code_of_isDigit (h : isDigit b) {c : Char} (hc : isDigit (code c) = false) :
    b ≠ code c := by
  rintro rfl
  simp [hc] at h

theorem isNeutral_of_isDigit (h : isDigit b) : isNeutral b := by
  simp only [isNeutral, Bool.and_eq_true, decide_eq_true_eq]
  exact ⟨⟨⟨⟨⟨ne_code_of_isDigit h rfl, ne_code_of_isDigit h rfl⟩, ne_code_of_isDigit h rfl⟩,
    ne_code_of_isDigit h rfl⟩, ne_code_of_isDigit h rfl⟩, ne_code_of_isDigit h rfl⟩

theorem isForeign_of_isDigit (h : isDigit b) : isForeign b = false := by
  simp only [isForeign, Bool.or_eq_false_iff, decide_eq_false_iff_not]
  exact ⟨⟨⟨⟨ne_code_of_isDigit h rfl, ne_code_of_isDigit h rfl⟩, ne_code_of_isDigit h rfl⟩,
    ne_code_of_isDigit h rfl⟩, ne_code_of_isDigit h rfl⟩

theorem not_isExponentMark_of_isDigit (h : isDigit b) : isExponentMark (some b) = false := by
  simp only [isExponentMark, Bool.or_eq_false_iff, decide_eq_false_iff_not, Option.some.injEq]
  exact ⟨ne_code_of_isDigit h rfl, ne_code_of_isDigit h rfl⟩

theorem hasPower_cons (h : isExponentMark (some b) = false) : HasPower (b :: x) := by
  rintro _ _ ⟨⟩ hb
  simp [h] at hb

theorem Walk.digits {ds : Bytes} (hds : ∀ b ∈ ds, isDigit b) (hy : HasPower y) :
    Walk d (.outside e) (ds ++ y) (.outside e) y := by
  induction ds with
  | nil => exact .stay _ _
  | cons b ds ih =>
    obtain ⟨hb, hds⟩ := List.forall_mem_cons.1 hds
    have hpower : HasPower (ds ++ y) := by
      cases ds with
      | nil => exact hy
      | cons c ds =>
        exact hasPower_cons (not_isExponentMark_of_isDigit (hds c List.mem_cons_self))
    have hneutral := isNeutral_of_isDigit hb
    refine .step ⟨isForeign_of_isDigit hb, ?_⟩ (within_of_isNeutral hneutral)
      ((after_of_isNeutral (e := e) hneutral).symm ▸ ih hds)
    have hletter : ∀ l ∈ literals, isDigit (code l.1) = false := by decide
    exact ⟨fun h => absurd h (ne_code_of_isDigit hb rfl), fun _ => hpower,
      fun l hl h => absurd h (ne_code_of_isDigit hb (hletter l hl))⟩

/-- Behind digits an exponent has digits too. -/
theorem Ends.hasPower {ds : Bytes} (h : Ends (.outside e) (ds ++ y)) (hds : ∀ b ∈ ds, isDigit b)
    (hne : ds ≠ []) : HasPower y := by
  induction ds with
  | nil => exact absurd rfl hne
  | cons b ds ih =>
    obtain ⟨hb, hds⟩ := List.forall_mem_cons.1 hds
    cases ds with
    | nil => exact h.allows.2.digit hb
    | cons c ds =>
      have hafter := h.after
      rw [after_of_isNeutral (isNeutral_of_isDigit hb)] at hafter
      exact ih hafter hds (List.cons_ne_nil _ _)

end SessionAuth.Json
