import Mathlib.Algebra.Group.Nat.Defs
import SessionAuth.Proofs.Text.Blank
import SessionAuth.Uuid

/-!
# Identifiers, written and read

The canonical text of an identifier is read as the identifier (`Uuid.parse?_text`).
-/

namespace SessionAuth

namespace Text

/-! ### Hexadecimal digits -/

namespace Hexadecimal

variable {n : Nat}

theorem length_digits (count n : Nat) : (digits count n).length = count := by
  induction count generalizing n with
  | zero => rfl
  | succ count ih => rw [digits, List.length_append, ih, List.length_singleton]

/-- What holds of every digit holds of the digits of every number. -/
theorem forall_mem_digits {p : Char → Prop} (h : ∀ n < 16, p (digit n)) (count n : Nat) :
    ∀ c ∈ digits count n, p c := by
  induction count generalizing n with
  | zero => exact fun c hc => by cases hc
  | succ count ih =>
    intro c hc
    rcases List.mem_append.1 hc with hc | hc
    · exact ih (n / 16) c hc
    · rw [List.mem_singleton.1 hc]
      exact h (n % 16) (Nat.mod_lt n (by decide))

theorem digitValue?_digit (h : n < 16) : digitValue? (digit n) = some n := by
  have hall : ∀ n < 16, digitValue? (digit n) = some n := by decide
  exact hall n h

/-- The last digits of a number stand for what is left of it. -/
theorem value?_digits (count n : Nat) : value? (digits count n) = some (n % 16 ^ count) := by
  induction count generalizing n with
  | zero =>
    rw [Nat.pow_zero, Nat.mod_one]
    rfl
  | succ count ih =>
    have hdigit := digitValue?_digit (Nat.mod_lt n (by decide : 0 < 16))
    have hleft := ih (n / 16)
    unfold value? at hleft ⊢
    rw [digits, List.foldlM_append, hleft]
    simp only [Option.bind_eq_bind, Option.bind_some, List.foldlM_cons, List.foldlM_nil, hdigit,
      Option.map_some, Option.pure_def, Option.some.injEq]
    rw [Nat.pow_succ, Nat.mul_comm (16 ^ count) 16, Nat.mod_mul]
    omega

end Hexadecimal

end Text

namespace Uuid

/-! ### Text -/

/-- What holds of digits and hyphens holds of the text of every identifier. -/
theorem forall_mem_text {p : Char → Prop} (hdigit : ∀ n < 16, p (Text.Hexadecimal.digit n))
    (hhyphen : p '-') (id : Uuid) : ∀ c ∈ id.text.toList, p c := by
  have hdigits := Text.Hexadecimal.forall_mem_digits hdigit 32 id.bits.toNat
  intro c hc
  rw [text, String.toList_ofList] at hc
  simp only [hyphenate, List.mem_append, List.mem_cons] at hc
  rcases hc with (((hc | rfl | hc) | rfl | hc) | rfl | hc) | rfl | hc
  · exact hdigits c (List.mem_of_mem_take hc)
  · exact hhyphen
  · exact hdigits c (List.mem_of_mem_drop (List.mem_of_mem_take hc))
  · exact hhyphen
  · exact hdigits c (List.mem_of_mem_drop (List.mem_of_mem_take hc))
  · exact hhyphen
  · exact hdigits c (List.mem_of_mem_drop (List.mem_of_mem_take hc))
  · exact hhyphen
  · exact hdigits c (List.mem_of_mem_drop hc)

theorem printable_text (id : Uuid) : ∀ c ∈ id.text.toList, 0x20 ≤ c.toNat ∧ c.toNat < 0x7f :=
  id.forall_mem_text (by decide) (by decide)

theorem not_isBlank_text (id : Uuid) : ∀ c ∈ id.text.toList, Text.isBlank c = false :=
  id.forall_mem_text (by decide) (by decide)

/-! ### Reading -/

theorem length_digits (id : Uuid) : id.digits.length = 32 := Text.Hexadecimal.length_digits 32 _

theorem ofDigits?_digits (id : Uuid) : ofDigits? id.digits = some id := by
  have hvalue : Text.Hexadecimal.value? id.digits = some id.bits.toNat := by
    have hlt : id.bits.toNat < 16 ^ 32 := id.bits.isLt
    rw [digits, Text.Hexadecimal.value?_digits, Nat.mod_eq_of_lt hlt]
  have hguard : (guard (id.digits.length = 32) : Option Unit) = some () := if_pos id.length_digits
  unfold ofDigits?
  rw [hguard, hvalue]
  simp

/-- The groups of thirty-two digits are the digits. -/
theorem groups_hyphenate {cs : List Char} (h : cs.length = 32) :
    (hyphenate cs).length = 36 ∧ (hyphenate cs).take 8 ++ ((hyphenate cs).drop 9).take 4 ++
      ((hyphenate cs).drop 14).take 4 ++ ((hyphenate cs).drop 19).take 4 ++
      (hyphenate cs).drop 24 = cs := by
  obtain ⟨a, b, c, d, e, rfl, ha, hb, hc, hd⟩ : ∃ a b c d e : List Char,
      cs = a ++ (b ++ (c ++ (d ++ e))) ∧ a.length = 8 ∧ b.length = 4 ∧ c.length = 4 ∧
        d.length = 4 := by
    refine ⟨cs.take 8, (cs.drop 8).take 4, (cs.drop 12).take 4, (cs.drop 16).take 4, cs.drop 20,
      ?_, ?_, ?_, ?_, ?_⟩
    · have h₁ := List.take_append_drop 4 (cs.drop 16)
      have h₂ := List.take_append_drop 4 (cs.drop 12)
      have h₃ := List.take_append_drop 4 (cs.drop 8)
      rw [List.drop_drop] at h₁ h₂ h₃
      rw [h₁, h₂, h₃, List.take_append_drop]
    all_goals simp [h]
  have hhyphenate : hyphenate (a ++ (b ++ (c ++ (d ++ e)))) =
      a ++ ('-' :: (b ++ ('-' :: (c ++ ('-' :: (d ++ ('-' :: e))))))) := by
    simp [hyphenate, List.drop_append, List.drop_eq_nil_of_le, ha, hb, hc, hd]
  rw [hhyphenate]
  constructor
  · simp only [List.length_append, List.length_cons] at h ⊢
    omega
  · simp [List.drop_append, List.drop_eq_nil_of_le, ha, hb, hc, hd]

theorem ofGroups?_hyphenate (id : Uuid) : ofGroups? (hyphenate id.digits) = some id := by
  obtain ⟨hlength, hplain⟩ := groups_hyphenate id.length_digits
  have hguard {q : Prop} [Decidable q] (h : q) : (guard q : Option Unit) = some () := if_pos h
  unfold ofGroups?
  rw [hplain, hguard hlength, Option.bind_eq_bind, Option.bind_some]
  show (guard (hyphenate id.digits = hyphenate id.digits) : Option Unit).bind
    (fun _ => ofDigits? id.digits) = some id
  rw [hguard rfl, Option.bind_some, ofDigits?_digits]

theorem parse?_text (id : Uuid) : parse? id.text = some id := by
  have hlist : id.text.toList = hyphenate id.digits := String.toList_ofList
  have hlength := (groups_hyphenate id.length_digits).1
  unfold parse? ofList?
  rw [Text.trimList_of_forall id.not_isBlank_text, hlist, hlength]
  exact id.ofGroups?_hyphenate

/-! ### Versions -/

theorem version_ofRandom (bits : BitVec 128) : (ofRandom bits).version = 4 := by
  have hversion : (ofRandom bits).bits.extractLsb' 76 4 = 4#4 := by
    unfold ofRandom
    apply BitVec.eq_of_getLsbD_eq
    intro i hi
    have hplace : 76 + i - 62 - 2 - 12 = i := by omega
    simp only [BitVec.getLsbD_extractLsb', BitVec.getLsbD_append, hi, decide_true, Bool.true_and]
    rw [if_neg (by omega), if_neg (by omega), if_neg (by omega), if_pos (by omega), hplace]
  unfold version
  rw [hversion]
  rfl

end Uuid

end SessionAuth
