import SessionAuth.Text.Decimal

/-!
# Decimal numbers, written and read

The digits of a number are read as the number, in their shortest form.
-/

namespace SessionAuth.Text.Decimal

variable {n : Nat} {c : Char}

theorem isDigit_of_mem (h : c ∈ Nat.toDigits 10 n) : isDigit c := by
  have hd := Nat.isDigit_of_mem_toDigits (by decide) (by decide) h
  simpa [isDigit, Char.isDigit, Char.le_def, ge_iff_le] using hd

theorem ofDigits_toDigits (n : Nat) : ofDigits (Nat.toDigits 10 n) = n :=
  Nat.ofDigitChars_ten_toDigits

/-- No needless zero stands before other digits. -/
theorem head?_toDigits (h : 0 < n) : (Nat.toDigits 10 n).head? ≠ some '0' := by
  induction n using Nat.strongRecOn with
  | ind n ih =>
    by_cases hlt : n < 10
    · rw [Nat.toDigits_of_lt_base hlt]
      have hall : ∀ n < 10, 0 < n → n.digitChar ≠ '0' := by decide
      simpa using hall n hlt h
    · have hle : 10 ≤ n := Nat.le_of_not_lt hlt
      rw [Nat.toDigits_of_base_le (by decide) hle, List.head?_append]
      have hne : Nat.toDigits 10 (n / 10) ≠ [] := Nat.toDigits_ne_nil
      have hrec := ih (n / 10) (by omega) (by omega)
      cases hd : (Nat.toDigits 10 (n / 10)).head? with
      | none => exact absurd (List.head?_eq_none_iff.1 hd) hne
      | some c =>
        rw [hd] at hrec
        exact hrec

theorem canonical?_toDigits (n : Nat) : canonical? (Nat.toDigits 10 n) = some n := by
  have hall : (Nat.toDigits 10 n).all isDigit = true :=
    List.all_eq_true.2 fun c hc => isDigit_of_mem hc
  have hvalue : value? (Nat.toDigits 10 n) = some n := by
    rw [value?, if_pos ⟨Nat.toDigits_ne_nil, hall⟩, ofDigits_toDigits]
  unfold canonical?
  by_cases h : n = 0
  · subst h
    rfl
  · rw [if_neg fun hz => head?_toDigits (Nat.pos_of_ne_zero h) hz.1]
    exact hvalue

end SessionAuth.Text.Decimal
