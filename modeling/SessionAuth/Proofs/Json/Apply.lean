import SessionAuth.Json.Record

/-!
# What a reader does to its input

Laws for running readers: one for each way of putting them together, and for each small reader what
stood in front of it if it succeeds.
-/

namespace SessionAuth.Json

/-! ### Putting readers together -/

namespace Reader

variable {α β : Type} {r : Reader α} {f : α → Reader β} {x y : Bytes}

@[simp] theorem apply_pure (a : α) (x : Bytes) : (pure a : Reader α).apply x = (.ok a, x) := rfl

@[simp] theorem apply_throw (e : Fault) (x : Bytes) :
    (throw e : Reader α).apply x = (.error e, x) := rfl

@[simp] theorem apply_ofFunction (g : Bytes → Except Fault α × Bytes) (x : Bytes) :
    (ofFunction g).apply x = g x := rfl

theorem apply_bind (r : Reader α) (f : α → Reader β) (x : Bytes) :
    (r >>= f).apply x =
      match r.apply x with
      | (.ok a, y) => (f a).apply y
      | (.error e, y) => (.error e, y) := by
  change (ExceptT.bind r f) x = _
  simp only [ExceptT.bind, ExceptT.mk, bind, StateT.bind, apply]
  generalize r x = z
  rcases z with ⟨_ | _, _⟩ <;> rfl

theorem apply_bind_eq_ok {b : β} :
    (r >>= f).apply x = (.ok b, y) ↔
      ∃ a z, r.apply x = (.ok a, z) ∧ (f a).apply z = (.ok b, y) := by
  rw [apply_bind]
  constructor
  · intro h
    rcases hr : r.apply x with ⟨_ | a, z⟩ <;> rw [hr] at h
    · cases h
    · exact ⟨a, z, rfl, h⟩
  · rintro ⟨a, z, hr, hf⟩
    rw [hr]
    exact hf

theorem apply_map_eq_ok {g : α → β} {b : β} :
    (g <$> r).apply x = (.ok b, y) ↔ ∃ a, r.apply x = (.ok a, y) ∧ g a = b := by
  rw [map_eq_pure_bind, apply_bind_eq_ok]
  simp only [apply_pure, Prod.mk.injEq, Except.ok.injEq]
  grind

theorem fst_apply_map (g : α → β) (r : Reader α) (x : Bytes) :
    ((g <$> r).apply x).1 = (r.apply x).1.map g := by
  rw [map_eq_pure_bind, apply_bind]
  rcases r.apply x with ⟨_ | _, _⟩ <;> rfl

/-- What is read under a constructor was read without it. -/
theorem fst_apply_of_map {g : α → β} (hg : g.Injective) {a : α}
    (h : ((g <$> r).apply x).1 = .ok (g a)) : (r.apply x).1 = .ok a := by
  rw [fst_apply_map] at h
  cases hr : (r.apply x).1 with
  | error =>
    rw [hr] at h
    cases h
  | ok b =>
    rw [hr] at h
    exact congrArg _ (hg (Except.ok.inj h))

theorem snd_apply_map (g : α → β) (r : Reader α) (x : Bytes) :
    ((g <$> r).apply x).2 = (r.apply x).2 := by
  rw [map_eq_pure_bind, apply_bind]
  rcases r.apply x with ⟨_ | _, _⟩ <;> rfl

theorem ok_of_closedBy {close : Reader Unit} {a : α} (h : (closedBy r close).apply x = (.ok a, y)) :
    ∃ z, r.apply x = (.ok a, z) ∧ close.apply z = (.ok (), y) := by
  simp only [closedBy, attempt, apply_bind, apply_ofFunction] at h
  rcases hr : r.apply x with ⟨_ | a', z⟩ <;> rcases hc : close.apply z with ⟨_ | _, w⟩ <;>
    simp_all

theorem apply_closedBy_of_ok {close : Reader Unit} {a : α} {z : Bytes}
    (h : r.apply x = (.ok a, z)) (hclose : close.apply z = (.ok (), y)) :
    (closedBy r close).apply x = (.ok a, y) := by
  simp only [closedBy, attempt, apply_bind, apply_ofFunction, h, hclose, apply_pure]

theorem snd_apply_closedBy (r : Reader α) (close : Reader Unit) (x : Bytes) :
    ((closedBy r close).apply x).2 = (close.apply (r.apply x).2).2 := by
  simp only [closedBy, attempt, apply_bind, apply_ofFunction]
  rcases hr : r.apply x with ⟨_ | a', z⟩ <;> rcases hc : close.apply z with ⟨_ | _, w⟩ <;>
    simp_all

end Reader

/-! ### Small readers -/

variable {α : Type} {isFirst : Bool} {b : UInt8} {x y : Bytes}

@[simp] theorem apply_peek (x : Bytes) :
    peek.apply x = (.ok (x.dropWhile isBlank).head?, x.dropWhile isBlank) := rfl

@[simp] theorem apply_peekRaw (x : Bytes) : peekRaw.apply x = (.ok x.head?, x) := rfl

@[simp] theorem apply_advance (x : Bytes) : advance.apply x = (.ok (), x.drop 1) := rfl

@[simp] theorem apply_digits (x : Bytes) :
    digits.apply x = (.ok (x.takeWhile isDigit), x.dropWhile isDigit) := rfl

@[simp] theorem apply_remaining (x : Bytes) : remaining.apply x = (.ok x.length, x) := rfl

/-- A reader that looks at the next byte first, and ends where there is none. -/
theorem ok_of_peek {f : UInt8 → Reader α} {a : α} {e : Fault}
    (h : (do match ← peek with
      | none => throw e
      | some b => f b : Reader α).apply x = (.ok a, y)) :
    ∃ b z, x.dropWhile isBlank = b :: z ∧ (f b).apply (b :: z) = (.ok a, y) := by
  rw [Reader.apply_bind, apply_peek] at h
  rcases hx : x.dropWhile isBlank with _ | ⟨b, z⟩
  · rw [hx] at h
    cases h
  · rw [hx] at h
    exact ⟨b, z, rfl, h⟩

theorem eq_cons_of_expect (h : (expect b).apply x = (.ok (), y)) :
    x.dropWhile isBlank = b :: y := by
  obtain ⟨c, z, hx, h⟩ := ok_of_peek h
  split at h
  next hc =>
    cases h
    rw [hx, hc]
    rfl
  · cases h

theorem eq_append_of_letters {cs : List Char} (h : (letters cs).apply x = (.ok (), y)) :
    x = cs.map code ++ y := by
  induction cs generalizing x with
  | nil =>
    cases h
    rfl
  | cons c cs ih =>
    obtain ⟨b, z, hx, hz⟩ := Reader.apply_bind_eq_ok.1 h
    rcases x with _ | ⟨_, x⟩ <;> cases hx
    split at hz
    next hb =>
      subst hb
      exact congrArg _ (ih hz)
    · cases hz

/-- What stands before a key, or before the brace behind the last member. -/
inductive AtKey (isFirst : Bool) (x : Bytes) : Bool → Bytes → Prop
  | close {y : Bytes} : x.dropWhile isBlank = code '\x7d' :: y →
    AtKey isFirst x false (code '\x7d' :: y)
  | first {y : Bytes} : isFirst = true → x.dropWhile isBlank = code '"' :: y →
    AtKey isFirst x true (code '"' :: y)
  | next {y z : Bytes} : isFirst = false → x.dropWhile isBlank = code ',' :: z →
    z.dropWhile isBlank = code '"' :: y → AtKey isFirst x true (code '"' :: y)

theorem atKey_of_hasKey {k : Bool} (h : (hasKey isFirst).apply x = (.ok k, y)) :
    AtKey isFirst x k y := by
  obtain ⟨b, z, hx, hb⟩ := ok_of_peek h
  split at hb
  next hc =>
    cases hb
    exact hc ▸ .close (hc ▸ hx)
  · cases isFirst with
    | true =>
      simp only [if_true, pure_bind] at hb
      split at hb
      next hc =>
        cases hb
        exact hc ▸ .first rfl (hc ▸ hx)
      · cases hb
    | false =>
      simp only [Bool.false_eq_true, if_false] at hb
      split at hb
      · cases hb
      next hc =>
        rw [Reader.apply_bind, apply_advance] at hb
        obtain ⟨c, w, hz, hw⟩ := ok_of_peek hb
        split at hw
        next hq =>
          cases hw
          exact hq ▸ .next rfl (Decidable.not_not.1 hc ▸ hx) (hq ▸ hz)
        · cases hw

theorem AtKey.exists_quote (h : AtKey isFirst x true y) : ∃ z, y = code '"' :: z := by
  cases h with
  | first | next => exact ⟨_, rfl⟩

end SessionAuth.Json
