import SessionAuth.Proofs.Json.Walk

/-!
# What is passed over

Passing over a value walks from its first byte to the byte behind it, outside strings and at the
same depth. Strings and integers that are read end where passing over them ends.
-/

namespace SessionAuth.Json

variable {d e : Nat} {b : UInt8} {x y z : Bytes}

/-! ### Units -/

theorem isSome_digitValue? {cs : List Char} {n : Nat}
    (h : (cs.foldlM (fun n c => (Text.Hexadecimal.digitValue? c).map (n * 16 + ·)) n).isSome) :
    ∀ c ∈ cs, (Text.Hexadecimal.digitValue? c).isSome := by
  induction cs generalizing n with
  | nil => exact fun _ hc => absurd hc List.not_mem_nil
  | cons c cs ih =>
    rw [List.foldlM_cons] at h
    cases hc : Text.Hexadecimal.digitValue? c with
    | none => simp [hc] at h
    | some m =>
      rw [hc] at h
      exact List.forall_mem_cons.2 ⟨by rw [hc]; rfl, ih h⟩

/-- The digits of a unit neither close a string nor begin an escape. -/
theorem ne_of_isSome_unit? {ds : Bytes} (h : (unit? ds).isSome) (hb : b ∈ ds) :
    b ≠ code '"' ∧ b ≠ code '\\' := by
  have hdigit := isSome_digitValue? h _ (List.mem_map_of_mem hb)
  constructor <;> rintro rfl <;> exact absurd hdigit (by decide)

theorem Walk.units {hs : Bytes} (h : ∀ b ∈ hs, b ≠ code '"' ∧ b ≠ code '\\') (y : Bytes) :
    Walk d (.inside e) (hs ++ y) (.inside e) y := by
  induction hs with
  | nil => exact .stay _ _
  | cons b hs ih =>
    obtain ⟨⟨hquote, hback⟩, hs⟩ := List.forall_mem_cons.1 h
    refine .step trivial trivial ?_
    simp only [Spot.after, hquote, hback, if_false]
    exact ih hs

/-! ### Strings -/

/-- A string goes on here up to `y`: `pending` digits of a unit have been taken. -/
inductive InString (d e : Nat) (y : Bytes) : (isEscape : Bool) → Option Bytes → Bytes → Prop
  | plain {x : Bytes} : Walk d (.inside e) x (.outside e) y → InString d e y false none x
  | backslash {x : Bytes} : Walk d (.escaped e) x (.outside e) y → InString d e y true none x
  | digits {isEscape : Bool} {ds hs x z : Bytes} : x = hs ++ z → (ds ++ hs).length = 4 →
    (unit? (ds ++ hs)).isSome → Walk d (.inside e) z (.outside e) y →
    InString d e y isEscape (some ds) x

theorem InString.walk_inside (h : InString d e y false none x) :
    Walk d (.inside e) x (.outside e) y := by
  cases h
  assumption

theorem inString_of_skipStringFrom {isEscape : Bool} {pending : Option Bytes}
    (hpending : ∀ ds ∈ pending, ds.length < 4)
    (h : skipStringFrom isEscape pending x = (.ok (), y)) : InString d e y isEscape pending x := by
  have hnone : ∀ ds ∈ (none : Option Bytes), ds.length < 4 := fun _ h => nomatch h
  fun_induction skipStringFrom isEscape pending x with
  | case1 | case4 | case7 | case10 => cases h
  | case2 isEscape ds b rest ds' hlen ih =>
    cases ih (fun _ hds => Option.some.inj hds ▸ hlen) h with
    | digits hx hlen hunit hwalk =>
      rw [List.append_assoc] at hlen hunit
      exact .digits (congrArg (b :: ·) hx) hlen hunit hwalk
  | case3 isEscape ds b rest ds' hlen hunit ih =>
    have hfour : ds'.length = 4 := by
      have hle := hpending ds rfl
      rw [List.length_append, List.length_singleton] at hlen ⊢
      omega
    exact .digits (show b :: rest = [b] ++ rest from rfl) hfour hunit (ih hnone h).walk_inside
  | case5 b rest hescape ih =>
    exact .backslash (.step (.inl hescape) trivial (ih hnone h).walk_inside)
  | case6 rest _ ih =>
    cases ih (fun _ hds => Option.some.inj hds ▸ Nat.succ_pos 3) h with
    | digits hx hlen hunit hwalk =>
      subst hx
      refine .backslash (.step (.inr ⟨rfl, _, _, rfl, hlen, hunit⟩) trivial ?_)
      exact (Walk.units (fun _ hb => ne_of_isSome_unit? hunit hb) _).trans hwalk
  | case8 rest =>
    cases h
    exact .plain (.one trivial trivial)
  | case9 rest _ ih =>
    cases ih hnone h with
    | backslash hwalk => exact .plain (.step trivial trivial hwalk)
  | case11 b rest hquote hback _ ih =>
    refine .plain (.step trivial trivial ?_)
    simp only [Spot.after, hquote, hback, if_false]
    exact (ih hnone h).walk_inside

theorem walk_of_skipString (h : skipString.apply x = (.ok (), y)) :
    Walk d (.inside e) x (.outside e) y :=
  (inString_of_skipStringFrom (by simp) h).walk_inside

namespace Place

/-- Whether a backslash has been taken, for a reader that passes over the string. -/
def isEscape : Place → Bool
  | backslash | pairLetter _ => true
  | plain | digits _ _ | pairBackslash _ => false

/-- The digits of a unit that have been taken. -/
def pending : Place → Option Bytes
  | digits _ ds => some ds
  | plain | backslash | pairBackslash _ | pairLetter _ => none

theorem eq_of_takeUnit {lead : Option Nat} {unit : Nat} {p : Place} {bytes : Bytes}
    (h : takeUnit lead unit = some (p, bytes)) : p.isEscape = false ∧ p.pending = none := by
  unfold takeUnit at h
  repeat' split at h
  all_goals cases h <;> exact ⟨rfl, rfl⟩

end Place

/-- What can be read as a string can be passed over. -/
theorem skipStringFrom_of_stringFrom {p : Place} {taken bytes : Bytes}
    (h : stringFrom p taken x = (.ok bytes, y)) :
    skipStringFrom p.isEscape p.pending x = (.ok (), y) := by
  fun_induction stringFrom p taken x with
  | case1 | case4 | case8 | case10 | case11 | case14 | case16 => cases h
  | case2 =>
    cases h
    rfl
  | case3 taken rest hquote ih => exact ih h
  | case5 taken b rest hquote hback hcontrol ih =>
    simp only [Place.isEscape, Place.pending, skipStringFrom, hquote, hback, hcontrol, if_false]
    exact ih h
  | case6 taken b rest c hc ih =>
    simp only [Place.isEscape, Place.pending, skipStringFrom, hc, Option.isSome_some, if_true]
    exact ih h
  | case7 taken rest _ ih => exact ih h
  | case9 lead ds taken b rest ds' hlen ih =>
    simp only [Place.isEscape, Place.pending, skipStringFrom]
    rw [if_pos hlen]
    exact ih h
  | case12 lead ds taken b rest ds' hlen unit hunit place bytes hplace ih =>
    obtain ⟨hescape, hpending⟩ := Place.eq_of_takeUnit hplace
    simp only [Place.isEscape, Place.pending, skipStringFrom]
    rw [if_neg hlen, if_pos (Option.isSome_of_eq_some hunit), ← hescape, ← hpending]
    exact ih h
  | case13 lead taken rest ih => exact ih h
  | case15 lead taken rest ih => exact ih h

theorem skipString_of_stringBody {s : String} (h : stringBody.apply x = (.ok s, y)) :
    skipString.apply x = (.ok (), y) := by
  obtain ⟨bytes, z, hx, h⟩ := Reader.apply_bind_eq_ok.1 h
  split at h <;> cases h
  exact skipStringFrom_of_stringFrom hx

/-! ### Numbers -/

theorem isDigit_of_mem_takeWhile (x : Bytes) : ∀ b ∈ x.takeWhile isDigit, isDigit b :=
  List.all_eq_true.1 List.all_takeWhile

theorem startsDigits_of_takeWhile_ne (h : x.takeWhile isDigit ≠ []) : StartsDigits x := by
  cases x with
  | nil => exact absurd rfl h
  | cons b x =>
    by_cases hb : isDigit b
    · exact ⟨b, x, rfl, hb⟩
    · exact absurd (List.takeWhile_cons_of_neg hb) h

theorem Walk.takenDigits (hy : HasPower (x.dropWhile isDigit)) :
    Walk d (.outside e) x (.outside e) (x.dropWhile isDigit) := by
  have h := Walk.digits (d := d) (e := e) (isDigit_of_mem_takeWhile x) hy
  rwa [List.takeWhile_append_dropWhile] at h

theorem eq_of_skipDigits (h : skipDigits.apply x = (.ok (), y)) :
    StartsDigits x ∧ y = x.dropWhile isDigit := by
  simp only [skipDigits, Reader.apply_bind, apply_digits] at h
  split at h
  · cases h
  next hne =>
    cases h
    exact ⟨startsDigits_of_takeWhile_ne hne, rfl⟩

theorem walk_of_skipDigits (h : skipDigits.apply x = (.ok (), y)) (hy : HasPower y) :
    Walk d (.outside e) x (.outside e) y := by
  obtain ⟨_, rfl⟩ := eq_of_skipDigits h
  exact .takenDigits hy

theorem exists_of_isExponentMark (h : isExponentMark x.head?) :
    ∃ b y, x = b :: y ∧ isExponentMark (some b) := by
  cases x with
  | nil => cases h
  | cons b y => exact ⟨b, y, rfl, h⟩

theorem isFree_of_isExponentMark (h : isExponentMark (some b)) : isFree b ∧ isNeutral b := by
  simp only [isExponentMark, Option.some.injEq, Bool.or_eq_true, decide_eq_true_eq] at h
  rcases h with rfl | rfl <;> decide

theorem hasPower_of_not_isExponentMark (h : isExponentMark x.head? = false) : HasPower x := by
  rintro b y rfl hb
  rw [List.head?_cons, hb] at h
  cases h

theorem walk_of_powerSign {isNegative : Bool} (h : powerSign.apply x = (.ok isNegative, y))
    (hy : StartsDigits y) : StartsPower x ∧ Walk d (.outside e) x (.outside e) y := by
  simp only [powerSign, Reader.apply_bind, apply_peekRaw] at h
  split at h
  next hsign =>
    obtain ⟨b, x, rfl, hb⟩ : ∃ b z, x = b :: z ∧ (b = code '+' ∨ b = code '-') := by
      cases x with
      | nil => simp at hsign
      | cons b z => exact ⟨b, z, rfl, by simpa using hsign⟩
    cases h
    exact ⟨.inr ⟨b, x, rfl, hb, hy⟩, .sign hb hy⟩
  · cases h
    exact ⟨.inl hy, .stay _ _⟩

theorem walk_of_skipPower (h : skipPower.apply x = (.ok (), y)) (hy : HasPower y) :
    HasPower x ∧ Walk d (.outside e) x (.outside e) y := by
  simp only [skipPower, Reader.apply_bind, apply_peekRaw] at h
  split at h
  next hmark =>
    obtain ⟨b, x, rfl, hb⟩ := exists_of_isExponentMark hmark
    rw [Reader.apply_bind, apply_advance] at h
    obtain ⟨_, z, hsign, hdigits⟩ := Reader.apply_bind_eq_ok.1 h
    obtain ⟨hpower, hwalk⟩ := walk_of_powerSign (d := d) (e := e) hsign (eq_of_skipDigits hdigits).1
    refine ⟨?_, ?_⟩
    · rintro _ _ ⟨⟩ _
      exact hpower
    · exact (Walk.loose_one (isFree_of_isExponentMark hb) x).trans
        (hwalk.trans (walk_of_skipDigits hdigits hy))
  · cases h
    exact ⟨hy, .stay _ _⟩

theorem walk_of_skipFraction (h : skipFraction.apply x = (.ok (), y)) (hy : HasPower y) :
    HasPower x ∧ Walk d (.outside e) x (.outside e) y := by
  simp only [skipFraction, Reader.apply_bind, apply_peekRaw] at h
  split at h
  next hpoint =>
    obtain ⟨x, rfl⟩ := List.head?_eq_some_iff.1 hpoint
    rw [Reader.apply_bind, apply_advance] at h
    exact ⟨hasPower_cons rfl,
      (Walk.loose_one (by decide) x).trans (walk_of_skipDigits h hy)⟩
  · cases h
    exact ⟨hy, .stay _ _⟩

theorem walk_of_skipWhole (h : skipWhole.apply x = (.ok (), y)) (hy : HasPower y) :
    StartsDigits x ∧ Walk d (.outside e) x (.outside e) y := by
  simp only [skipWhole, Reader.apply_bind, apply_peekRaw, apply_digits] at h
  split at h
  · cases h
  next hne =>
    cases h
    exact ⟨startsDigits_of_takeWhile_ne fun h => hne (.inl h), .takenDigits hy⟩

theorem walk_of_minusSign {isNegative : Bool} (h : minusSign.apply x = (.ok isNegative, y))
    (hy : StartsDigits y) : Walk d (.outside e) x (.outside e) y := by
  simp only [minusSign, Reader.apply_bind, apply_peekRaw] at h
  split at h
  next hminus =>
    obtain ⟨x, rfl⟩ := List.head?_eq_some_iff.1 hminus
    cases h
    exact .minus hy
  · cases h
    exact .stay _ _

theorem walk_of_skipNumber (h : skipNumber.apply x = (.ok (), y)) (hy : HasPower y) :
    Walk d (.outside e) x (.outside e) y := by
  obtain ⟨_, x₁, hsign, h⟩ := Reader.apply_bind_eq_ok.1 h
  obtain ⟨_, x₂, hwhole, h⟩ := Reader.apply_bind_eq_ok.1 h
  obtain ⟨_, x₃, hfraction, hpower⟩ := Reader.apply_bind_eq_ok.1 h
  obtain ⟨h₃, hpower⟩ := walk_of_skipPower (d := d) (e := e) hpower hy
  obtain ⟨h₂, hfraction⟩ := walk_of_skipFraction (d := d) (e := e) hfraction h₃
  obtain ⟨h₁, hwhole⟩ := walk_of_skipWhole (d := d) (e := e) hwhole h₂
  exact (walk_of_minusSign hsign h₁).trans (hwhole.trans (hfraction.trans hpower))

theorem not_integer_of_scaled {significand : Nat} {exponent n : Int} :
    (scaled significand exponent).apply x ≠ (.ok (.integer n), y) := by
  unfold scaled
  split <;> nofun

theorem not_integer_of_exponentPart {significand : Nat} {exponent n : Int} :
    (exponentPart significand exponent).apply x ≠ (.ok (.integer n), y) := by
  intro h
  rw [exponentPart, Reader.apply_bind, apply_advance] at h
  obtain ⟨_, _, _, h⟩ := Reader.apply_bind_eq_ok.1 h
  obtain ⟨_, _, _, h⟩ := Reader.apply_bind_eq_ok.1 h
  obtain ⟨o, _, _, h⟩ := Reader.apply_bind_eq_ok.1 h
  split at h
  · exact not_integer_of_scaled h
  · split at h <;> cases h

theorem not_integer_of_fractionPart {significand : Nat} {exponent n : Int} :
    (fractionPart significand exponent).apply x ≠ (.ok (.integer n), y) := by
  intro h
  simp only [fractionPart, Reader.apply_bind, apply_advance, apply_digits] at h
  split at h
  · simp only [Reader.apply_bind, apply_peekRaw] at h
    split at h <;> cases h
  · simp only [exponentOrEnd, Reader.apply_bind, apply_peekRaw] at h
    split at h
    · exact not_integer_of_exponentPart h
    · exact not_integer_of_scaled h

theorem ok_of_behindWhole {isNegative : Bool} {significand : Nat} {exponent n : Int}
    (h : (behindWhole isNegative significand exponent).apply x = (.ok (.integer n), y)) :
    y = x ∧ x.head? ≠ some (code '.') ∧ isExponentMark x.head? = false := by
  rw [behindWhole, Reader.apply_bind, apply_peekRaw] at h
  dsimp only at h
  split at h
  · exact absurd h not_integer_of_fractionPart
  next hpoint =>
    split at h
    · exact absurd h not_integer_of_exponentPart
    next hmark =>
      split at h
      · cases h
        exact ⟨rfl, hpoint, Bool.eq_false_iff.2 hmark⟩
      · exact absurd h not_integer_of_scaled

theorem eq_of_digitAhead (h : digitAhead.apply x = (.ok b, y)) :
    y = x ∧ isDigit b ∧ ∃ z, x = b :: z := by
  rw [digitAhead, Reader.apply_bind, apply_peekRaw] at h
  rcases x with _ | ⟨c, z⟩
  · cases h
  · dsimp only [List.head?_cons] at h
    split at h
    next hc =>
      cases h
      exact ⟨rfl, hc, z, rfl⟩
    · cases h

/-- An integer has neither fraction nor exponent, and so is passed over whole. -/
theorem skipNumber_of_number {n : Int} (h : number.apply x = (.ok (.integer n), y)) :
    skipNumber.apply x = (.ok (), y) ∧ HasPower y := by
  obtain ⟨isNegative, _, hsign, hunsigned⟩ := Reader.apply_bind_eq_ok.1 h
  obtain ⟨b, _, hdigit, hdigits⟩ := Reader.apply_bind_eq_ok.1 hunsigned
  obtain ⟨rfl, hb, z, rfl⟩ := eq_of_digitAhead hdigit
  rw [Reader.apply_bind, apply_digits] at hdigits
  dsimp only at hdigits
  split at hdigits
  · cases hdigits
  next hzero =>
    obtain ⟨rfl, hpoint, hmark⟩ := ok_of_behindWhole hdigits
    refine ⟨?_, hasPower_of_not_isExponentMark hmark⟩
    have hwhole : skipWhole.apply (b :: z) = (.ok (), (b :: z).dropWhile isDigit) := by
      have hne : (b :: z).takeWhile isDigit ≠ [] := by simp [hb]
      simp only [skipWhole, Reader.apply_bind, apply_peekRaw, apply_digits, List.head?_cons,
        Option.some.injEq]
      rw [if_neg (by simp [hne]; simpa using hzero)]
      rfl
    rw [skipNumber, Reader.apply_bind, hsign]
    dsimp only
    rw [Reader.apply_bind, hwhole]
    simp only [skipFraction, Reader.apply_bind, apply_peekRaw, hpoint, if_false, Reader.apply_pure,
      skipPower, hmark, Bool.false_eq_true]

/-! ### Passing over a value -/

/-- Blanks and then this byte: what may stand behind a value. -/
theorem hasPower_of_dropWhile (h : x.dropWhile isBlank = b :: z)
    (hb : isExponentMark (some b) = false) : HasPower x := by
  cases x with
  | nil => cases h
  | cons c x =>
    by_cases hc : isBlank c
    · refine hasPower_cons ?_
      simp only [isBlank, Bool.or_eq_true, beq_iff_eq] at hc
      rcases hc with ((rfl | rfl) | rfl) | rfl <;> rfl
    · rw [List.dropWhile_cons_of_neg hc] at h
      cases h
      exact hasPower_cons hb

theorem letters_of_literal {cs : List Char} {v a : Value}
    (h : (do advance; letters cs; return v : Reader Value).apply (b :: x) = (.ok a, y)) :
    (letters cs).apply x = (.ok (), y) := by
  obtain ⟨_, _, hadvance, hrest⟩ := Reader.apply_bind_eq_ok.1 h
  obtain ⟨_, _, hletters, hreturn⟩ := Reader.apply_bind_eq_ok.1 hrest
  cases hadvance
  cases hreturn
  exact hletters

theorem walk_of_scalar {a : Value} (hquote : b ≠ code '"')
    (hnumber : (b = code '-' || isDigit b) = false)
    (h : (scalar b).apply (b :: x) = (.ok a, y)) : Walk d (.outside e) (b :: x) (.outside e) y := by
  unfold scalar at h
  split at h
  next hb => exact hb ▸ .literal (by decide : ('n', _) ∈ literals) (letters_of_literal h)
  · split at h
    next hb => exact hb ▸ .literal (by decide : ('t', _) ∈ literals) (letters_of_literal h)
    · split at h
      next hb => exact hb ▸ .literal (by decide : ('f', _) ∈ literals) (letters_of_literal h)
      · rw [if_neg (Bool.eq_false_iff.1 hnumber)] at h
        cases h

theorem walk_of_skipScalar (h : (skipScalar b).apply (b :: x) = (.ok (), y)) (hy : HasPower y) :
    Walk d (.outside e) (b :: x) (.outside e) y := by
  unfold skipScalar at h
  split at h
  next hb =>
    subst hb
    rw [Reader.apply_bind, apply_advance] at h
    exact (Walk.quote d e x).trans (walk_of_skipString h)
  next hquote =>
    split at h
    · exact walk_of_skipNumber h hy
    next hnumber =>
      obtain ⟨a, _, hscalar, hreturn⟩ := Reader.apply_bind_eq_ok.1 h
      cases hreturn
      exact walk_of_scalar hquote (Bool.eq_false_iff.2 hnumber) hscalar

theorem walk_of_colon (h : (expect (code ':')).apply x = (.ok (), y)) :
    Walk d (.outside e) x (.outside e) y :=
  (Walk.blanks (eq_cons_of_expect h)).trans (.loose_one (by decide) y)

theorem walk_of_skipKey (h : skipKey.apply x = (.ok (), y)) :
    Walk d (.outside e) x (.outside e) y := by
  obtain ⟨_, _, hquote, hrest⟩ := Reader.apply_bind_eq_ok.1 h
  obtain ⟨_, z, hstring, hcolon⟩ := Reader.apply_bind_eq_ok.1 hrest
  exact (Walk.blanks (eq_cons_of_expect hquote)).trans ((Walk.quote d e _).trans
    ((walk_of_skipString hstring).trans (walk_of_colon hcolon)))

/-- Behind a value that has been passed over comes a blank, a comma or a bracket. -/
theorem hasPower_of_skipFrom_after {fuel : Nat} {frames : List Frame}
    (h : (skipFrom fuel .after frames).apply x = (.ok (), y)) (hy : HasPower y) : HasPower x := by
  cases fuel with
  | zero => cases h
  | succ fuel =>
    cases frames with
    | nil =>
      cases h
      exact hy
    | cons frame frames =>
      obtain ⟨b, z, hx, hb⟩ := ok_of_peek h
      refine hasPower_of_dropWhile hx ?_
      split at hb
      next hclose => subst hclose; cases frame <;> rfl
      · split at hb
        next hcomma => subst hcomma; rfl
        · cases hb

/-- A key is passed over where there must be one. -/
theorem walk_of_skipKey_bind {r : Reader Unit} {p : Prop} [Decidable p] {t : Spot}
    (h : (if p then (do skipKey; r) else r : Reader Unit).apply x = (.ok (), y))
    (hr : ∀ z, r.apply z = (.ok (), y) → Walk d (.outside e) z t y) :
    Walk d (.outside e) x t y := by
  split at h
  · obtain ⟨_, z, hkey, hrest⟩ := Reader.apply_bind_eq_ok.1 h
    exact (walk_of_skipKey hkey).trans (hr z hrest)
  · exact hr x h

theorem Frame.close_eq (frame : Frame) : frame.close = code ']' ∨ frame.close = code '\x7d' := by
  cases frame
  · exact .inl rfl
  · exact .inr rfl

theorem walk_of_skipFrom {fuel : Nat} {stage : Stage} {frames : List Frame}
    (h : (skipFrom fuel stage frames).apply x = (.ok (), y)) (hy : HasPower y) :
    Walk d (.outside (d + frames.length)) x (.outside d) y := by
  induction fuel generalizing stage frames x with
  | zero => cases h
  | succ fuel ih =>
    cases stage with
    | before =>
      obtain ⟨b, z, hx, hb⟩ := ok_of_peek h
      refine (Walk.blanks hx).trans ?_
      split at hb
      next hlist => exact (Walk.opening d _ (.inl hlist) z).trans (ih hb)
      · split at hb
        next hobject => exact (Walk.opening d _ (.inr hobject) z).trans (ih hb)
        · obtain ⟨_, w, hscalar, hrest⟩ := Reader.apply_bind_eq_ok.1 hb
          exact (walk_of_skipScalar hscalar (hasPower_of_skipFrom_after hrest hy)).trans (ih hrest)
    | opened =>
      cases frames with
      | nil =>
        cases h
        exact .stay _ _
      | cons frame frames =>
        obtain ⟨b, z, hx, hb⟩ := ok_of_peek h
        refine (Walk.blanks hx).trans ?_
        split at hb
        next hclose =>
          subst hclose
          exact (Walk.closing frame.close_eq (Nat.le_add_right _ _) z).trans (ih hb)
        · exact walk_of_skipKey_bind hb fun _ hz => ih hz
    | after =>
      cases frames with
      | nil =>
        cases h
        exact .stay _ _
      | cons frame frames =>
        obtain ⟨b, z, hx, hb⟩ := ok_of_peek h
        refine (Walk.blanks hx).trans ?_
        split at hb
        next hclose =>
          subst hclose
          exact (Walk.closing frame.close_eq (Nat.le_add_right _ _) z).trans (ih hb)
        · split at hb
          next hcomma =>
            subst hcomma
            rw [Reader.apply_bind, apply_advance] at hb
            exact (Walk.comma (Nat.lt_add_of_pos_right (Nat.succ_pos _)) z).trans
              (walk_of_skipKey_bind hb fun _ hz => ih hz)
          · cases hb

/-- What is passed over is a value: it walks back to its depth, and nothing ends before. -/
theorem walk_of_skip (h : skip.apply x = (.ok (), y)) (hy : HasPower y) :
    Walk d (.outside d) x (.outside d) y := by
  rw [skip, Reader.apply_bind] at h
  exact walk_of_skipFrom (d := d) h hy

end SessionAuth.Json
