import SessionAuth.Proofs.Json.Skip

/-!
# Readers that give up

A reader of a value may give up at any byte of it, and the next reader goes on from there. In a text
with an outline it then still stands within the value: nothing that encloses the value has ended.
-/

namespace SessionAuth.Json

variable {α β : Type} {d e m : Nat} {s t u : Spot} {b : UInt8} {x y z : Bytes}

/-- From spot `s` a reader walks without ending anything at depth `d` or above. It stops at depth
`m` or below, whether or not it succeeds, and at spot `t` if it succeeds. -/
def Keeps (d m : Nat) (s : Spot) (r : Reader α) (t : Spot) (x : Bytes) : Prop :=
  ∃ u, Walk d s x u (r.apply x).2 ∧ m ≤ u.depth ∧ ∀ a, (r.apply x).1 = .ok a → u = t

namespace Keeps

variable {r : Reader α} {f : α → Reader β}

theorem of_ok {a : α} (h : r.apply x = (.ok a, y)) (hwalk : Walk d s x t y) (hm : m ≤ t.depth) :
    Keeps d m s r t x :=
  ⟨t, by rw [h]; exact hwalk, hm, fun _ _ => rfl⟩

theorem of_error {k : Fault} (h : r.apply x = (.error k, y)) (hwalk : Walk d s x u y)
    (hm : m ≤ u.depth) : Keeps d m s r t x :=
  ⟨u, by rw [h]; exact hwalk, hm, fun _ ha => by rw [h] at ha; cases ha⟩

theorem returning (a : α) (hm : m ≤ s.depth) : Keeps d m s (pure a : Reader α) s x :=
  .of_ok rfl (.stay _ _) hm

theorem failing (k : Fault) (hm : m ≤ s.depth) : Keeps d m s (throw k : Reader α) t x :=
  .of_error rfl (.stay _ _) hm

theorem bind (hr : Keeps d m s r t x)
    (hf : ∀ a y, r.apply x = (.ok a, y) → Walk d s x t y → Keeps d m t (f a) u y) :
    Keeps d m s (r >>= f) u x := by
  obtain ⟨v, hwalk, hm, hok⟩ := hr
  rcases h : r.apply x with ⟨k | a, y⟩
  · exact .of_error (by rw [Reader.apply_bind, h]) (by rwa [h] at hwalk) hm
  · rw [h] at hwalk hok
    cases hok a rfl
    obtain ⟨w, hrest, hm, hok⟩ := hf a y h hwalk
    have heq : (r >>= f).apply x = (f a).apply y := by rw [Reader.apply_bind, h]
    exact ⟨w, by rw [heq]; exact hwalk.trans hrest, hm, by rw [heq]; exact hok⟩

/-- A first reader that succeeds is only a walk. -/
theorem bind_of_ok {a : α} (h : r.apply x = (.ok a, y)) (hwalk : Walk d s x t y)
    (hf : Keeps d m t (f a) u y) : Keeps d m s (r >>= f) u x := by
  obtain ⟨w, hrest, hm, hok⟩ := hf
  have heq : (r >>= f).apply x = (f a).apply y := by rw [Reader.apply_bind, h]
  exact ⟨w, by rw [heq]; exact hwalk.trans hrest, hm, by rw [heq]; exact hok⟩

theorem of_peek {f : UInt8 → Reader α} {k : Fault} (hm : m ≤ e)
    (h : ∀ b z, x.dropWhile isBlank = b :: z → Keeps d m (.outside e) (f b) t (b :: z)) :
    Keeps d m (.outside e) (do match ← peek with
      | none => throw k
      | some b => f b : Reader α) t x := by
  refine .bind_of_ok (apply_peek x) (.blanks rfl) ?_
  rcases hx : x.dropWhile isBlank with _ | ⟨b, z⟩
  · exact .failing k hm
  · exact h b z hx

theorem weaken (h : Keeps d m s r t x) (hd : e ≤ d) : Keeps e m s r t x := by
  obtain ⟨v, hwalk, hm, hok⟩ := h
  exact ⟨v, hwalk.weaken hd, hm, hok⟩

end Keeps

/-! ### Blanks and single bytes at any spot -/

theorem Ends.walk_deep (h : Ends s (b :: x)) (hd : d < s.depth) :
    Walk d s (b :: x) (s.after b) x := by
  refine h.walk_one ?_
  cases s with
  | outside e => exact fun _ => hd
  | inside e | escaped e => trivial

theorem Ends.exists_blanks (h : Ends s x) :
    ∃ t, Walk d s x t (x.dropWhile isBlank) ∧ ∀ e, s = .outside e → t = .outside e := by
  induction x generalizing s with
  | nil => exact ⟨s, .stay _ _, fun _ hs => hs⟩
  | cons b x ih =>
    by_cases hb : isBlank b
    · obtain ⟨_, hneutral⟩ := isFree_of_isBlank hb
      obtain ⟨t, hwalk, hsame⟩ := ih h.after
      rw [List.dropWhile_cons_of_pos hb]
      refine ⟨t, .step h.allows ?_ hwalk, ?_⟩
      · cases s with
        | outside e => exact within_of_isNeutral hneutral
        | inside e | escaped e => trivial
      · rintro e rfl
        exact hsame e (after_of_isNeutral hneutral)
    · rw [List.dropWhile_cons_of_neg hb]
      exact ⟨s, .stay _ _, fun _ hs => hs⟩

/-! ### Closing brackets -/

/-- A reader that closes a bracket ends nothing around it, wherever the reader before it stopped
behind the bracket. -/
def Closes (close : Reader Unit) : Prop :=
  ∀ e s x, Ends s x → e + 1 ≤ s.depth →
    ∃ t, Walk e s x t (close.apply x).2 ∧
      (s = .outside (e + 1) → (close.apply x).1 = .ok () → t = .outside e)

theorem closes_closeObject : Closes closeObject := by
  intro e s x h hs
  obtain ⟨t, hwalk, hsame⟩ := h.exists_blanks (d := e + 1)
  have ht := hwalk.le_depth hs
  have hends := hwalk.ends h
  simp only [closeObject, expect, Reader.apply_bind, apply_peek]
  rcases hx : x.dropWhile isBlank with _ | ⟨b, z⟩ <;> rw [hx] at hwalk hends
  · exact ⟨t, hwalk.weaken (Nat.le_succ e), fun _ => nofun⟩
  · dsimp only [List.head?_cons]
    split
    next hb =>
      refine ⟨_, (hwalk.weaken (Nat.le_succ e)).trans (hends.walk_deep ht), ?_⟩
      rintro hs -
      rw [hsame _ hs, hb]
      rfl
    · exact ⟨t, hwalk.weaken (Nat.le_succ e), fun _ => nofun⟩

theorem closes_closeList : Closes closeList := by
  intro e s x h hs
  obtain ⟨t, hwalk, hsame⟩ := h.exists_blanks (d := e + 1)
  have ht := hwalk.le_depth hs
  have hends := hwalk.ends h
  simp only [closeList, Reader.apply_bind, apply_peek]
  rcases hx : x.dropWhile isBlank with _ | ⟨b, z⟩ <;> rw [hx] at hwalk hends
  · exact ⟨t, hwalk.weaken (Nat.le_succ e), fun _ => nofun⟩
  · have hone := (hwalk.weaken (Nat.le_succ e)).trans (hends.walk_deep ht)
    dsimp only [List.head?_cons]
    split
    next hb =>
      refine ⟨_, hone, ?_⟩
      rintro hs -
      rw [hsame _ hs, hb]
      rfl
    · split
      · obtain ⟨u, hrest, _⟩ := hends.after.exists_blanks (d := e)
        exact ⟨u, hone.trans hrest, fun _ => nofun⟩
      · exact ⟨t, hwalk.weaken (Nat.le_succ e), fun _ => nofun⟩

theorem Keeps.closedBy {r : Reader α} {close : Reader Unit} (hclose : Closes close)
    (hx : Ends (.outside (e + 1)) x)
    (hr : Keeps e (e + 1) (.outside (e + 1)) r (.outside (e + 1)) x) :
    Keeps e e (.outside (e + 1)) (Reader.closedBy r close) (.outside e) x := by
  obtain ⟨t, hwalk, ht, hok⟩ := hr
  obtain ⟨u, hrest, hclosed⟩ := hclose e t _ (hwalk.ends hx) ht
  have hu := hrest.le_depth (Nat.le_of_succ_le ht)
  refine ⟨u, ?_, hu, ?_⟩
  · rw [Reader.snd_apply_closedBy]
    exact hwalk.trans hrest
  · intro a ha
    obtain ⟨z, hz, hc⟩ := Reader.ok_of_closedBy (Prod.ext ha rfl)
    rw [hz] at hok hclosed
    exact hclosed (hok a rfl) (by rw [hc])

/-! ### Strings -/

namespace Place

/-- The spot of a reader in a string. -/
def spot (e : Nat) (p : Place) : Spot := if p.isEscape then .escaped e else .inside e

/-- The digits of a unit that have been taken are those of a whole unit. -/
def Fits (p : Place) (x : Bytes) : Prop :=
  ∀ ds ∈ p.pending, ds.length < 4 ∧ ∃ hs y, x = hs ++ y ∧ (ds ++ hs).length = 4 ∧
    (unit? (ds ++ hs)).isSome

theorem fits_of_pending_eq {p : Place} (h : p.pending = none) : p.Fits x := by
  simp [Fits, h]

/-- The next digit of a unit. -/
theorem Fits.next {lead : Option Nat} {ds : Bytes} (h : (digits lead ds).Fits (b :: x)) :
    b ≠ code '"' ∧ b ≠ code '\\' ∧
      ((ds ++ [b]).length < 4 → (digits lead (ds ++ [b])).Fits x) := by
  obtain ⟨hlen, hs, y, hx, hfour, hunit⟩ := h ds rfl
  cases hs with
  | nil =>
    rw [List.append_nil] at hfour
    exact absurd hfour (Nat.ne_of_lt hlen)
  | cons c hs =>
    cases hx
    obtain ⟨hquote, hback⟩ := ne_of_isSome_unit? hunit (List.mem_append_right _ List.mem_cons_self)
    refine ⟨hquote, hback, fun hlt => ?_⟩
    rintro _ ⟨⟩
    exact ⟨hlt, hs, y, rfl, by rwa [List.append_cons] at hfour, by rwa [List.append_cons] at hunit⟩

theorem fits_of_allows {lead : Option Nat} (h : (Spot.escaped e).Allows (code 'u') x) :
    (digits lead []).Fits x := by
  rintro _ ⟨⟩
  obtain ⟨hs, y, hx, hfour, hunit⟩ := (h.resolve_left (by decide)).2
  exact ⟨Nat.succ_pos 3, hs, y, hx, hfour, hunit⟩

end Place

/-- Wherever a string cannot be read on, the reader has not left it. -/
theorem Ends.exists_stringFrom {p : Place} {taken : Bytes} (hp : p.Fits x)
    (h : Ends (p.spot e) x) : ∃ t, Walk d (p.spot e) x t (stringFrom p taken x).2 := by
  fun_induction stringFrom p taken x with
  | case1 => exact ⟨_, .stay _ _⟩
  | case2 | case4 | case8 | case10 | case11 | case14 | case16 => exact ⟨_, h.walk_one trivial⟩
  | case3 taken rest _ ih =>
    obtain ⟨t, hwalk⟩ := ih (Place.fits_of_pending_eq rfl) h.after
    exact ⟨t, .step trivial trivial hwalk⟩
  | case5 taken b rest hquote hback _ ih =>
    have hafter : (Place.plain.spot e).after b = Place.plain.spot e := by
      simp [Place.spot, Place.isEscape, Spot.after, hquote, hback]
    obtain ⟨t, hwalk⟩ := ih (Place.fits_of_pending_eq rfl) (hafter ▸ h.after)
    exact ⟨t, .step trivial trivial (hafter.symm ▸ hwalk)⟩
  | case6 taken b rest c _ ih =>
    obtain ⟨t, hwalk⟩ := ih (Place.fits_of_pending_eq rfl) h.after
    exact ⟨t, .step h.allows trivial hwalk⟩
  | case7 taken rest _ ih | case15 lead taken rest ih =>
    obtain ⟨t, hwalk⟩ := ih (Place.fits_of_allows h.allows) h.after
    exact ⟨t, .step h.allows trivial hwalk⟩
  | case9 lead ds taken b rest ds' hlen ih =>
    obtain ⟨hquote, hback, hnext⟩ := hp.next
    have hafter : ((Place.digits lead ds).spot e).after b = (Place.digits lead ds').spot e := by
      simp [Place.spot, Place.isEscape, Spot.after, hquote, hback]
    obtain ⟨t, hwalk⟩ := ih (hnext hlen) (hafter ▸ h.after)
    exact ⟨t, .step trivial trivial (hafter.symm ▸ hwalk)⟩
  | case12 lead ds taken b rest ds' _ unit _ place bytes hplace ih =>
    obtain ⟨hquote, hback, _⟩ := hp.next
    obtain ⟨hescape, hpending⟩ := Place.eq_of_takeUnit hplace
    have hafter : ((Place.digits lead ds).spot e).after b = place.spot e := by
      rw [Place.spot, Place.spot, hescape]
      simp [Place.isEscape, Spot.after, hquote, hback]
    obtain ⟨t, hwalk⟩ := ih (Place.fits_of_pending_eq hpending) (hafter ▸ h.after)
    exact ⟨t, .step trivial trivial (hafter.symm ▸ hwalk)⟩
  | case13 lead taken rest ih =>
    obtain ⟨t, hwalk⟩ := ih (Place.fits_of_pending_eq rfl) h.after
    exact ⟨t, .step trivial trivial hwalk⟩

theorem snd_apply_stringBody (x : Bytes) :
    (stringBody.apply x).2 = (stringFrom .plain [] x).2 := by
  rw [stringBody, Reader.apply_bind, Reader.apply_ofFunction]
  rcases stringFrom .plain [] x with ⟨_ | bytes, y⟩
  · rfl
  · dsimp only
    split <;> rfl

theorem keeps_stringBody (h : Ends (.inside e) x) :
    Keeps e e (.inside e) stringBody (.outside e) x := by
  rcases hr : stringBody.apply x with ⟨k | s, y⟩
  · have hplain : Place.plain.Fits x := Place.fits_of_pending_eq rfl
    obtain ⟨t, hwalk⟩ : ∃ t, Walk e (.inside e) x t (stringFrom .plain [] x).2 :=
      Ends.exists_stringFrom hplain h
    rw [← snd_apply_stringBody, hr] at hwalk
    exact .of_error hr hwalk (hwalk.le_depth (Nat.le_refl e))
  · exact .of_ok hr (walk_of_skipString (skipString_of_stringBody hr)) (Nat.le_refl e)

/-! ### Numbers -/

theorem Ends.walk_digits (h : Ends (.outside e) x) :
    Walk d (.outside e) x (.outside e) (x.dropWhile isDigit) := by
  have hwalk := Ends.walk_neutral (d := d) (y := x.dropWhile isDigit) (u := x.takeWhile isDigit)
    (by rwa [List.takeWhile_append_dropWhile])
    (fun b hb => isNeutral_of_isDigit (isDigit_of_mem_takeWhile x b hb))
  rwa [List.takeWhile_append_dropWhile] at hwalk

theorem Ends.digits (h : Ends (.outside e) x) : Ends (.outside e) (x.dropWhile isDigit) :=
  (h.walk_digits (d := e)).ends h

theorem Ends.walk_one_digit (h : Ends (.outside e) (b :: x)) (hb : isDigit b) :
    Walk d (.outside e) (b :: x) (.outside e) x :=
  h.walk_neutral (u := [b]) (by simpa using isNeutral_of_isDigit hb)

theorem Ends.walk_exponentFrom (h : Ends (.outside e) x) (n : Nat) :
    Walk d (.outside e) x (.outside e) (exponentFrom n x).2 := by
  induction x generalizing n with
  | nil => exact .stay _ _
  | cons b x ih =>
    unfold exponentFrom
    split
    next hb =>
      have hwalk := h.walk_one_digit (d := d) hb
      dsimp only
      split
      · exact hwalk.trans (ih (hwalk.ends h) _)
      · exact hwalk
    · exact .stay _ _

theorem digitAhead_of_startsDigits (h : StartsDigits x) :
    ∃ b, digitAhead.apply x = (.ok b, x) := by
  obtain ⟨b, y, rfl, hb⟩ := h
  refine ⟨b, ?_⟩
  simp [digitAhead, Reader.apply_bind, hb]

theorem powerSign_of_startsPower (h : StartsPower x) :
    ∃ isNegative y, powerSign.apply x = (.ok isNegative, y) ∧ StartsDigits y := by
  simp only [powerSign, Reader.apply_bind, apply_peekRaw]
  rcases h with h | ⟨b, y, rfl, hb, hy⟩
  · have hsign : ¬(x.head? = some (code '+') ∨ x.head? = some (code '-')) := by
      obtain ⟨b, y, rfl, hb⟩ := h
      simp only [List.head?_cons, Option.some.injEq]
      exact not_or.2 ⟨ne_code_of_isDigit hb rfl, ne_code_of_isDigit hb rfl⟩
    rw [if_neg hsign]
    exact ⟨_, x, rfl, h⟩
  · rw [if_pos (by simpa using hb)]
    exact ⟨_, y, rfl, hy⟩

theorem keeps_scaled (significand : Nat) (exponent : Int) :
    Keeps e e (.outside e) (scaled significand exponent) (.outside e) x := by
  unfold scaled
  split
  · exact .failing _ (Nat.le_refl e)
  · exact .returning _ (Nat.le_refl e)

theorem keeps_exponentPart {significand : Nat} {exponent : Int} (hb : isExponentMark (some b))
    (hx : StartsPower x) (h : Ends (.outside e) (b :: x)) :
    Keeps e e (.outside e) (exponentPart significand exponent) (.outside e) (b :: x) := by
  have hmark : Walk e (.outside e) (b :: x) (.outside e) x :=
    .loose_one (isFree_of_isExponentMark hb) x
  refine .bind_of_ok (apply_advance _) hmark ?_
  obtain ⟨isNegative, y, hsign, hy⟩ := powerSign_of_startsPower hx
  obtain ⟨_, hwalk⟩ := walk_of_powerSign (d := e) (e := e) hsign hy
  obtain ⟨c, hahead⟩ := digitAhead_of_startsDigits hy
  have hends := (hmark.trans hwalk).ends h
  have hfrom := hends.walk_exponentFrom (d := e) 0
  refine .bind_of_ok hsign hwalk (.bind_of_ok hahead (.stay _ _) (.bind_of_ok rfl hfrom ?_))
  split
  · exact keeps_scaled _ _
  · split
    · exact .failing _ (Nat.le_refl e)
    · exact .bind_of_ok (apply_digits _) (hfrom.ends hends).walk_digits
        (.returning _ (Nat.le_refl e))

theorem keeps_exponentOrEnd {significand : Nat} {exponent : Int} (hx : HasPower x)
    (h : Ends (.outside e) x) :
    Keeps e e (.outside e) (exponentOrEnd significand exponent) (.outside e) x := by
  refine .bind_of_ok (apply_peekRaw x) (.stay _ _) ?_
  split
  next hmark =>
    obtain ⟨b, y, rfl, hb⟩ := exists_of_isExponentMark hmark
    exact keeps_exponentPart hb (hx b y rfl hb) h
  · exact keeps_scaled _ _

theorem Ends.hasPower_dropWhile (h : Ends (.outside e) x) (hne : x.takeWhile isDigit ≠ []) :
    HasPower (x.dropWhile isDigit) :=
  Ends.hasPower (by rwa [List.takeWhile_append_dropWhile]) (isDigit_of_mem_takeWhile x) hne

theorem keeps_fractionPart {significand : Nat} {exponent : Int}
    (h : Ends (.outside e) (code '.' :: x)) :
    Keeps e e (.outside e) (fractionPart significand exponent) (.outside e) (code '.' :: x) := by
  have hpoint : Walk e (.outside e) (code '.' :: x) (.outside e) x :=
    .loose_one (by decide) x
  have hends := hpoint.ends h
  refine .bind_of_ok (apply_advance _) hpoint (.bind_of_ok (apply_digits x) hends.walk_digits ?_)
  split
  · refine .bind_of_ok (apply_peekRaw _) (.stay _ _) ?_
    split <;> exact .failing _ (Nat.le_refl e)
  next hne => exact keeps_exponentOrEnd (hends.hasPower_dropWhile hne) hends.digits

theorem keeps_behindWhole {isNegative : Bool} {significand : Nat} {exponent : Int}
    (hx : HasPower x) (h : Ends (.outside e) x) :
    Keeps e e (.outside e) (behindWhole isNegative significand exponent) (.outside e) x := by
  refine .bind_of_ok (apply_peekRaw x) (.stay _ _) ?_
  split
  next hpoint =>
    obtain ⟨y, rfl⟩ := List.head?_eq_some_iff.1 hpoint
    exact keeps_fractionPart h
  · split
    next hmark =>
      obtain ⟨b, y, rfl, hb⟩ := exists_of_isExponentMark hmark
      exact keeps_exponentPart hb (hx b y rfl hb) h
    · split
      · exact .returning _ (Nat.le_refl e)
      · exact keeps_scaled _ _

theorem keeps_number (hb : (b = code '-' || isDigit b) = true) (h : Ends (.outside e) (b :: x)) :
    Keeps e e (.outside e) number (.outside e) (b :: x) := by
  obtain ⟨isNegative, y, hsign, hy⟩ : ∃ a y, minusSign.apply (b :: x) = (.ok a, y) ∧
      StartsDigits y := by
    simp only [minusSign, Reader.apply_bind, apply_peekRaw, List.head?_cons, Option.some.injEq]
    split
    next hminus => exact ⟨_, _, rfl, h.allows.2.minus hminus⟩
    next hminus => exact ⟨_, _, rfl, b, x, rfl, by simpa [hminus] using hb⟩
  have hwalk := walk_of_minusSign (d := e) (e := e) hsign hy
  have hends := hwalk.ends h
  obtain ⟨c, hahead⟩ := digitAhead_of_startsDigits hy
  have hne : y.takeWhile isDigit ≠ [] := by
    obtain ⟨c, z, rfl, hc⟩ := hy
    simp [hc]
  refine .bind_of_ok hsign hwalk (.bind_of_ok hahead (.stay _ _)
    (.bind_of_ok (apply_digits y) hends.walk_digits ?_))
  split
  · exact .failing _ (Nat.le_refl e)
  · exact keeps_behindWhole (hends.hasPower_dropWhile hne) hends.digits

/-! ### Values -/

theorem keeps_literal {l : Char × List Char} (hl : l ∈ literals) (a : α)
    (h : Ends (.outside e) (code l.1 :: x)) :
    Keeps e e (.outside e) (do advance; letters l.2; return a : Reader α) (.outside e)
      (code l.1 :: x) := by
  obtain ⟨y, hy⟩ := h.allows.2.literal l hl rfl
  refine .of_ok (a := a) ?_ (.literal hl hy) (Nat.le_refl e)
  exact Reader.apply_bind_eq_ok.2 ⟨(), x, rfl, Reader.apply_bind_eq_ok.2 ⟨(), y, hy, rfl⟩⟩

theorem keeps_scalar (h : Ends (.outside e) (b :: x)) :
    Keeps e e (.outside e) (scalar b) (.outside e) (b :: x) := by
  unfold scalar
  split
  next hb =>
    subst hb
    exact keeps_literal (by decide : ('n', _) ∈ literals) _ h
  · split
    next hb =>
      subst hb
      exact keeps_literal (by decide : ('t', _) ∈ literals) _ h
    · split
      next hb =>
        subst hb
        exact keeps_literal (by decide : ('f', _) ∈ literals) _ h
      · split
        next hb =>
          subst hb
          have hquote := Walk.quote e e x
          exact .bind_of_ok (apply_advance _) hquote
            ((keeps_stringBody (hquote.ends h)).bind fun _ _ _ _ => .returning _ (Nat.le_refl e))
        · split
          next hb => exact (keeps_number hb h).bind fun _ _ _ _ => .returning _ (Nat.le_refl e)
          · exact .failing _ (Nat.le_refl e)

/-! ### Lists and objects -/

theorem keeps_hasElement (isFirst : Bool) (x : Bytes) :
    Keeps e (e + 1) (.outside (e + 1)) (hasElement isFirst) (.outside (e + 1)) x := by
  have hm := Nat.le_refl (e + 1)
  refine .of_peek hm fun b y _ => ?_
  split
  · exact .returning _ hm
  · split
    · exact .returning _ hm
    · split
      · exact .failing _ hm
      next hb =>
        rw [Decidable.not_not] at hb
        subst hb
        refine .bind_of_ok (apply_advance _) (.comma (Nat.lt_succ_self e) y) ?_
        refine .of_peek hm fun b y _ => ?_
        split
        · exact .failing _ hm
        · exact .returning _ hm

theorem keeps_hasKey (isFirst : Bool) (x : Bytes) :
    Keeps e (e + 1) (.outside (e + 1)) (hasKey isFirst) (.outside (e + 1)) x := by
  have hm := Nat.le_refl (e + 1)
  refine .of_peek hm fun b y _ => ?_
  split
  · exact .returning _ hm
  · cases isFirst with
    | true =>
      simp only [if_true, pure_bind]
      split
      · exact .returning _ hm
      · exact .failing _ hm
    | false =>
      simp only [Bool.false_eq_true, if_false]
      split
      · exact .failing _ hm
      next hb =>
        rw [Decidable.not_not] at hb
        subst hb
        refine .bind_of_ok (apply_advance _) (.comma (Nat.lt_succ_self e) y) ?_
        refine .of_peek hm fun b y _ => ?_
        split
        · exact .returning _ hm
        · exact .failing _ hm

theorem keeps_expect_colon (x : Bytes) :
    Keeps e e (.outside e) (expect (code ':')) (.outside e) x := by
  refine .of_peek (Nat.le_refl e) fun b y _ => ?_
  split
  next hb =>
    subst hb
    exact .of_ok (apply_advance _) (.loose_one (by decide) y) (Nat.le_refl e)
  · exact .failing _ (Nat.le_refl e)

theorem keeps_key (h : Ends (.outside e) (code '"' :: x)) :
    Keeps e e (.outside e) key (.outside e) (code '"' :: x) := by
  have hquote := Walk.quote e e x
  refine .bind_of_ok (apply_advance _) hquote ((keeps_stringBody (hquote.ends h)).bind ?_)
  intro _ y _ _
  exact (keeps_expect_colon y).bind fun _ _ _ _ => .returning _ (Nat.le_refl e)

/-- A reader of a value stands within the value, whatever becomes of it. -/
def KeepsWithin (r : Reader α) : Prop :=
  ∀ e x, Ends (.outside e) x → Keeps e e (.outside e) r (.outside e) x

theorem keeps_elementsFrom {element : Reader α} (helement : KeepsWithin element) (fuel : Nat)
    (isFirst : Bool) (h : Ends (.outside (e + 1)) x) :
    Keeps e (e + 1) (.outside (e + 1)) (elementsFrom element fuel isFirst)
      (.outside (e + 1)) x := by
  have hm := Nat.le_refl (e + 1)
  induction fuel generalizing isFirst x with
  | zero => exact .returning _ hm
  | succ fuel ih =>
    refine (keeps_hasElement isFirst x).bind fun another y _ hwalk => ?_
    have hy := hwalk.ends h
    split
    · refine ((helement _ y hy).weaken (Nat.le_succ e)).bind fun _ z _ hwalk => ?_
      exact (ih false (hwalk.ends hy)).bind fun _ _ _ _ => .returning _ hm
    · exact .returning _ hm

theorem keeps_listOf {element : Reader α} (helement : KeepsWithin element)
    (hb : b = code '[' ∨ b = code '\x7b') (h : Ends (.outside e) (b :: x)) :
    Keeps e e (.outside e) (listOf element) (.outside e) (b :: x) := by
  have hopening := Walk.opening e e hb x
  have hx := hopening.ends h
  exact .bind_of_ok (apply_advance _) hopening (.bind_of_ok (apply_remaining x) (.stay _ _)
    (.closedBy closes_closeList hx (keeps_elementsFrom helement _ _ hx)))

theorem keeps_membersFrom {member : String → Reader α} (hmember : ∀ name, KeepsWithin (member name))
    (fuel : Nat) (isFirst : Bool) (h : Ends (.outside (e + 1)) x) :
    Keeps e (e + 1) (.outside (e + 1)) (objectOf.membersFrom member fuel isFirst)
      (.outside (e + 1)) x := by
  have hm := Nat.le_refl (e + 1)
  induction fuel generalizing isFirst x with
  | zero => exact .returning _ hm
  | succ fuel ih =>
    refine (keeps_hasKey isFirst x).bind fun another y hkey hwalk => ?_
    have hy := hwalk.ends h
    split
    next hanother =>
      subst hanother
      obtain ⟨y, rfl⟩ := (atKey_of_hasKey hkey).exists_quote
      refine ((keeps_key hy).weaken (Nat.le_succ e)).bind fun name z _ hwalk => ?_
      have hz := hwalk.ends hy
      refine ((hmember name _ z hz).weaken (Nat.le_succ e)).bind fun _ w _ hwalk => ?_
      exact (ih false (hwalk.ends hz)).bind fun _ _ _ _ => .returning _ hm
    · exact .returning _ hm

theorem keeps_objectOf {member : String → Reader α} (hmember : ∀ name, KeepsWithin (member name))
    (hb : b = code '[' ∨ b = code '\x7b') (h : Ends (.outside e) (b :: x)) :
    Keeps e e (.outside e) (objectOf member) (.outside e) (b :: x) := by
  have hopening := Walk.opening e e hb x
  have hx := hopening.ends h
  exact .bind_of_ok (apply_advance _) hopening (.bind_of_ok (apply_remaining x) (.stay _ _)
    (.closedBy closes_closeObject hx (keeps_membersFrom hmember _ _ hx)))

theorem keepsWithin_of_peek {f : UInt8 → Reader α} {k : Fault}
    (h : ∀ e b x, Ends (.outside e) (b :: x) → Keeps e e (.outside e) (f b) (.outside e) (b :: x)) :
    KeepsWithin (do match ← peek with
      | none => throw k
      | some b => f b : Reader α) := by
  intro e x hx
  refine .of_peek (Nat.le_refl e) fun b y hy => h e b y ?_
  have hwalk := Walk.blanks (d := e) (e := e) hy
  exact hwalk.ends hx

theorem keepsWithin_value (depth : Nat) : KeepsWithin (value depth) := by
  induction depth with
  | zero =>
    unfold value
    refine keepsWithin_of_peek fun e b x h => ?_
    split
    · exact .failing _ (Nat.le_refl e)
    · split
      · exact .failing _ (Nat.le_refl e)
      · exact keeps_scalar h
  | succ depth ih =>
    unfold value
    refine keepsWithin_of_peek fun e b x h => ?_
    split
    next hb => exact (keeps_listOf ih (.inl hb) h).bind fun _ _ _ _ => .returning _ (Nat.le_refl e)
    · split
      next hb =>
        exact (keeps_objectOf (fun _ => ih) (.inr hb) h).bind fun _ _ _ _ =>
          .returning _ (Nat.le_refl e)
      · exact keeps_scalar h

/-- A reader of a value stands within the value, also where it makes up for having given up. -/
def StaysWithin (r : Reader α) : Prop :=
  ∀ e x, Ends (.outside e) x → ∃ t, Walk e (.outside e) x t (r.apply x).2

theorem KeepsWithin.staysWithin {r : Reader α} (h : KeepsWithin r) : StaysWithin r := by
  intro e x hx
  obtain ⟨t, hwalk, _⟩ := h e x hx
  exact ⟨t, hwalk⟩

theorem StaysWithin.map {r : Reader α} (h : StaysWithin r) (g : α → β) : StaysWithin (g <$> r) := by
  intro e x hx
  rw [Reader.snd_apply_map]
  exact h e x hx

theorem KeepsWithin.nullable {r : Reader α} (h : KeepsWithin r) : KeepsWithin (nullable r) := by
  intro e x hx
  have hblanks : Walk e (.outside e) x (.outside e) (x.dropWhile isBlank) := .blanks rfl
  have hends := hblanks.ends hx
  refine .bind_of_ok (apply_peek x) hblanks ?_
  split
  next hnull =>
    obtain ⟨z, hz⟩ := List.head?_eq_some_iff.1 hnull
    rw [hz] at hends ⊢
    exact (keeps_scalar hends).bind fun _ _ _ _ => .returning _ (Nat.le_refl e)
  · exact (h e _ hends).bind fun _ _ _ _ => .returning _ (Nat.le_refl e)

end SessionAuth.Json
