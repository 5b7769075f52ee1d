import SessionAuth.Proofs.Json.Fields
import SessionAuth.Proofs.Json.Quoted
import SessionAuth.Proofs.Text.Decimal

/-!
# Integers, written and read

An integer of 64 bits is read as it was written (`integer_toString`), as long as no digit, point or
exponent follows.
-/

namespace SessionAuth.Json

variable {n : Nat} {x y rest : Bytes}

/-! ### Behind a value -/

/-- No number goes on with what may follow a value. -/
theorem Follows.exists_cons (h : Follows x) : ∃ b y, x = b :: y ∧ isDigit b = false ∧
    b ≠ code '.' ∧ isExponentMark (some b) = false := by
  obtain ⟨b, y, hx, hb⟩ := h
  cases x with
  | nil => cases hx
  | cons c x =>
    refine ⟨c, x, rfl, ?_⟩
    by_cases hc : isBlank c
    · simp only [isBlank, Bool.or_eq_true, beq_iff_eq] at hc
      rcases hc with ((rfl | rfl) | rfl) | rfl <;> decide
    · rw [List.dropWhile_cons_of_neg hc] at hx
      cases hx
      rcases hb with rfl | rfl <;> decide

/-! ### Digits -/

/-- The bytes of a number in decimal. -/
def digitBytes (n : Nat) : Bytes := (Nat.toDigits 10 n).map code

/-- The number that digits behind some make. -/
def valueFrom (n : Nat) (ds : Bytes) : Nat := ds.foldl (fun n d => 10 * n + digitValue d) n

theorem le_valueFrom (n : Nat) (ds : Bytes) : n ≤ valueFrom n ds := by
  induction ds generalizing n with
  | nil => exact Nat.le_refl n
  | cons d ds ih => exact Nat.le_trans (by omega) (ih (10 * n + digitValue d))

theorem absorb_eq {ds : Bytes} {count : Nat} (h : valueFrom n ds < UInt64.size) :
    absorb n count ds = (valueFrom n ds, count + ds.length) := by
  induction ds generalizing n count with
  | nil => rfl
  | cons d ds ih =>
    have hle := le_valueFrom (10 * n + digitValue d) ds
    have hlonger : 10 * n + digitValue d < UInt64.size := Nat.lt_of_le_of_lt hle h
    rw [absorb, if_pos hlonger, ih h, List.length_cons]
    refine Prod.ext rfl ?_
    show count + 1 + ds.length = count + (ds.length + 1)
    omega

theorem digit_of_mem {c : Char} (h : c ∈ Nat.toDigits 10 n) :
    isDigit (code c) ∧ digitValue (code c) = c.toNat - '0'.toNat ∧ c.toNat < 0x80 := by
  have hc := Text.Decimal.isDigit_of_mem h
  simp only [Text.Decimal.isDigit, Char.le_def, UInt32.le_iff_toNat_le, Bool.and_eq_true,
    decide_eq_true_eq] at hc
  have hall : ∀ m < 58, 48 ≤ m → isDigit (UInt8.ofNat m) ∧
      digitValue (UInt8.ofNat m) = m - '0'.toNat ∧ m < 0x80 := by decide
  exact hall c.toNat (Nat.lt_succ_of_le hc.2) hc.1

theorem isDigit_of_mem_digitBytes {b : UInt8} (h : b ∈ digitBytes n) : isDigit b := by
  obtain ⟨c, hc, rfl⟩ := List.mem_map.1 h
  exact (digit_of_mem hc).1

theorem valueFrom_digitBytes (n : Nat) : valueFrom 0 (digitBytes n) = n := by
  have hfold (cs : List Char) (hcs : ∀ c ∈ cs, digitValue (code c) = c.toNat - '0'.toNat)
      (m : Nat) : valueFrom m (cs.map code) =
        cs.foldl (fun n c => 10 * n + (c.toNat - '0'.toNat)) m := by
    induction cs generalizing m with
    | nil => rfl
    | cons c cs ih =>
      obtain ⟨hc, hcs⟩ := List.forall_mem_cons.1 hcs
      rw [List.foldl_cons, ← hc]
      exact ih hcs _
  rw [digitBytes, hfold _ fun c hc => (digit_of_mem hc).2.1]
  exact Text.Decimal.ofDigits_toDigits n

theorem utf8_toString (n : Nat) : Text.utf8 (toString n) = digitBytes n := by
  have hlist : (toString n).toList = Nat.toDigits 10 n := by simp
  rw [Text.utf8, hlist]
  exact Text.flatMap_utf8EncodeChar fun c hc => (digit_of_mem hc).2.2

theorem takeWhile_digitBytes (hrest : Follows rest) :
    (digitBytes n ++ rest).takeWhile isDigit = digitBytes n ∧
      (digitBytes n ++ rest).dropWhile isDigit = rest := by
  obtain ⟨b, y, rfl, hb, -⟩ := hrest.exists_cons
  have hall : ∀ b ∈ digitBytes n, isDigit b := fun _ => isDigit_of_mem_digitBytes
  rw [List.takeWhile_append_of_pos hall, List.dropWhile_append_of_pos hall,
    List.takeWhile_cons_of_neg (by simp [hb]), List.dropWhile_cons_of_neg (by simp [hb]),
    List.append_nil]
  exact ⟨rfl, rfl⟩

/-- The digits of a number begin with one, which is a zero only if it is all of them. -/
theorem exists_digitBytes (n : Nat) : ∃ b ds, digitBytes n = b :: ds ∧ isDigit b ∧
    ¬ (b = code '0' ∧ 1 < (digitBytes n).length) := by
  have hne : Nat.toDigits 10 n ≠ [] := Nat.toDigits_ne_nil
  obtain ⟨c, cs, hcs⟩ := List.exists_cons_of_ne_nil hne
  have hdigits : digitBytes n = code c :: cs.map code := by rw [digitBytes, hcs, List.map_cons]
  have hc : c ∈ Nat.toDigits 10 n := by simp [hcs]
  refine ⟨code c, cs.map code, hdigits, (digit_of_mem hc).1, ?_⟩
  rintro ⟨hzero, hlength⟩
  obtain rfl := code_inj (digit_of_mem hc).2.2 (by decide) hzero
  have hpos : ¬ 0 < n := fun hpos => Text.Decimal.head?_toDigits hpos (by rw [hcs]; rfl)
  obtain rfl : n = 0 := by omega
  exact absurd hlength (by decide)

/-! ### Integers -/

/-- Digits that end here are read as the number, if 64 bits hold it. -/
theorem behindWhole_of_follows {isNegative : Bool} {m : Int} (hm : signed? isNegative n = some m)
    (hrest : Follows rest) :
    (behindWhole isNegative n 0).apply rest = (.ok (.integer m), rest) := by
  obtain ⟨b, y, rfl, -, hpoint, hmark⟩ := hrest.exists_cons
  unfold behindWhole
  rw [Reader.apply_bind, apply_peekRaw]
  simp only [List.head?_cons, Option.some.injEq, hpoint, if_false, hmark, Bool.false_eq_true,
    if_true, hm, Reader.apply_pure]

/-- What is read of a number behind its sign. -/
def behindSign (isNegative : Bool) : Reader Number := do
  let first ← digitAhead
  let ds ← digits
  if first = code '0' ∧ 1 < ds.length then throw .malformed
  else
    let (significand, count) := absorb 0 0 ds
    behindWhole isNegative significand (ds.length - count)

theorem number_eq : number = minusSign >>= behindSign := rfl

theorem behindSign_digitBytes {isNegative : Bool} {m : Int} (hn : n < UInt64.size)
    (hm : signed? isNegative n = some m) (hrest : Follows rest) :
    (behindSign isNegative).apply (digitBytes n ++ rest) = (.ok (.integer m), rest) := by
  obtain ⟨b, ds, hds, hb, hzero⟩ := exists_digitBytes n
  obtain ⟨htake, hdrop⟩ := takeWhile_digitBytes (n := n) hrest
  have habsorb : absorb 0 0 (digitBytes n) = (n, (digitBytes n).length) := by
    have hvalue := valueFrom_digitBytes n
    rw [absorb_eq (by rw [hvalue]; exact hn), hvalue, Nat.zero_add]
  have hahead : digitAhead.apply (digitBytes n ++ rest) = (.ok b, digitBytes n ++ rest) := by
    unfold digitAhead
    rw [hds, Reader.apply_bind, apply_peekRaw, List.cons_append]
    simp only [List.head?_cons, hb, if_true, Reader.apply_pure]
  unfold behindSign
  rw [Reader.apply_bind, hahead]
  dsimp only
  rw [Reader.apply_bind, apply_digits, htake, hdrop]
  dsimp only
  rw [if_neg hzero, habsorb]
  dsimp only
  rw [Int.sub_self]
  exact behindWhole_of_follows hm hrest

theorem number_of_nonneg (hn : n < UInt64.size) (hrest : Follows rest) :
    number.apply (digitBytes n ++ rest) = (.ok (.integer n), rest) := by
  obtain ⟨b, ds, hds, hb, -⟩ := exists_digitBytes n
  have hsign : minusSign.apply (digitBytes n ++ rest) = (.ok false, digitBytes n ++ rest) := by
    have hne : b ≠ code '-' := ne_code_of_isDigit hb rfl
    simp [minusSign, Reader.apply_bind, hds, hne]
  have hsigned : signed? false n = some (n : Int) := by
    rw [signed?, if_neg Bool.false_ne_true, if_pos hn]
  rw [number_eq, Reader.apply_bind, hsign]
  exact behindSign_digitBytes hn hsigned hrest

theorem number_of_neg (hpos : 0 < n) (hn : n ≤ Nat.pow 2 63) (hrest : Follows rest) :
    number.apply (code '-' :: (digitBytes n ++ rest)) = (.ok (.integer (-n)), rest) := by
  have hsign : minusSign.apply (code '-' :: (digitBytes n ++ rest)) =
      (.ok true, digitBytes n ++ rest) := rfl
  have hsigned : signed? true n = some (-n : Int) := by
    rw [signed?, if_pos rfl, if_pos ⟨hpos, hn⟩]
  rw [number_eq, Reader.apply_bind, hsign]
  exact behindSign_digitBytes (Nat.lt_of_le_of_lt hn (by decide)) hsigned hrest

theorem integer_of_number {b : UInt8} {m : Int} (hb : (b = code '-' || isDigit b) = true)
    (hnumber : number.apply (b :: x) = (.ok (.integer m), y)) (hm : m < Nat.pow 2 63) :
    integer.apply (b :: x) = (.ok m, y) := by
  have hblank : ¬ isBlank b := by
    intro hblank
    simp only [isBlank, Bool.or_eq_true, beq_iff_eq] at hblank
    rcases hblank with ((rfl | rfl) | rfl) | rfl <;> exact absurd hb (by decide)
  unfold integer
  rw [Reader.apply_bind, apply_peek, List.dropWhile_cons_of_neg hblank, List.head?_cons]
  dsimp only
  rw [if_pos hb, Reader.apply_bind, hnumber]
  dsimp only
  rw [if_pos hm]
  rfl

/-- An integer of 64 bits is read as it was written. -/
theorem integer_toString {m : Int} (hle : -Nat.pow 2 63 ≤ m) (hlt : m < Nat.pow 2 63)
    (hrest : Follows rest) : integer.apply (Text.utf8 (toString m) ++ rest) = (.ok m, rest) := by
  cases m with
  | ofNat n =>
    have hn : n < UInt64.size := Nat.lt_trans (Int.ofNat_lt.1 hlt) (by decide)
    have hnumber := number_of_nonneg hn hrest
    obtain ⟨b, ds, hds, hb, -⟩ := exists_digitBytes n
    have htext : Text.utf8 (toString (Int.ofNat n)) = digitBytes n := utf8_toString n
    rw [hds, List.cons_append] at hnumber
    rw [htext, hds, List.cons_append]
    exact integer_of_number (by simp [hb]) hnumber hlt
  | negSucc n =>
    have hn : n + 1 ≤ Nat.pow 2 63 := by omega
    have htext : Text.utf8 (toString (Int.negSucc n)) = code '-' :: digitBytes (n + 1) := by
      have happend : toString (Int.negSucc n) = "-" ++ toString (n + 1) := rfl
      rw [happend, Text.utf8_append, utf8_toString]
      rfl
    rw [htext]
    exact integer_of_number rfl (number_of_neg (Nat.succ_pos n) hn hrest) hlt

end SessionAuth.Json
