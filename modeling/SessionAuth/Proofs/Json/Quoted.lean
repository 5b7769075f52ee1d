import SessionAuth.Proofs.Json.Apply
import SessionAuth.Proofs.Text.Utf8

/-!
# Strings, written and read

A text is read as it was quoted, whatever characters it holds (`stringBody_quote`): each character
stands for itself, or its escape is read as the character.
-/

namespace SessionAuth.Json

variable {c : Char} {taken rest : Bytes}

theorem code_inj {c d : Char} (hc : c.toNat < 0x80) (hd : d.toNat < 0x80) (h : code c = code d) :
    c = d := by
  have hnat := congrArg UInt8.toNat h
  rw [code, code, UInt8.toNat_ofNat', UInt8.toNat_ofNat', Nat.mod_eq_of_lt (by omega),
    Nat.mod_eq_of_lt (by omega)] at hnat
  exact Char.toNat_inj.1 hnat

/-! ### Characters that stand for themselves -/

/-- A byte that stands for itself in a string. -/
def IsPlainByte (b : UInt8) : Prop := b ≠ code '"' ∧ b ≠ code '\\' ∧ ¬ b < 0x20

theorem stringFrom_plain {bytes : Bytes} (h : ∀ b ∈ bytes, IsPlainByte b) (taken rest : Bytes) :
    stringFrom .plain taken (bytes ++ rest) = stringFrom .plain (bytes.reverse ++ taken) rest := by
  induction bytes generalizing taken with
  | nil => rfl
  | cons b bytes ih =>
    obtain ⟨⟨hquote, hbackslash, hcontrol⟩, hbytes⟩ := List.forall_mem_cons.1 h
    rw [List.cons_append, stringFrom, if_neg hquote, if_neg hbackslash, if_neg hcontrol, ih hbytes,
      List.reverse_cons, List.append_assoc, List.singleton_append]

theorem isPlainByte_of_mem (hquote : c ≠ '"') (hbackslash : c ≠ '\\') (hcontrol : ¬ c.toNat < 0x20)
    {b : UInt8} (h : b ∈ String.utf8EncodeChar c) : IsPlainByte b := by
  by_cases hascii : c.toNat < 0x80
  · rw [Text.utf8EncodeChar_eq_singleton hascii, List.mem_singleton] at h
    subst h
    have hne {d : Char} (hd : d.toNat < 0x80) (hcd : c ≠ d) : code c ≠ code d :=
      fun h => hcd (code_inj hascii hd h)
    refine ⟨hne (by decide) hquote, hne (by decide) hbackslash, ?_⟩
    rw [UInt8.lt_iff_toNat_lt, UInt8.toNat_ofNat', Nat.mod_eq_of_lt (by omega)]
    exact hcontrol
  · have hle := Text.le_of_mem_utf8EncodeChar (Nat.le_of_not_lt hascii) h
    have hne {d : Char} (hd : (code d).toNat < 0x80) : b ≠ code d := by
      rintro rfl
      omega
    refine ⟨hne (by decide), hne (by decide), ?_⟩
    rw [UInt8.lt_iff_toNat_lt]
    have : (0x20 : UInt8).toNat = 0x20 := rfl
    omega

/-- A unit that is a character by itself. -/
theorem stringFrom_unit {ds bytes : Bytes} {unit : Nat} (hlength : ds.length = 4)
    (hunit : unit? ds = some unit) (htake : takeUnit none unit = some (.plain, bytes))
    (taken rest : Bytes) :
    stringFrom .plain taken (code '\\' :: code 'u' :: (ds ++ rest)) =
      stringFrom .plain (bytes.reverse ++ taken) rest := by
  match ds, hlength with
  | [a, b, c, d], _ =>
    have hescape : unescape? (code 'u') = none := by decide
    rw [stringFrom, if_neg (by decide), if_pos rfl, stringFrom, hescape]
    simp [stringFrom, hunit, htake]

/-- The bytes of a control character's unit. -/
theorem unit?_digits {n : Nat} (hn : n < 0x20) :
    ((Text.Hexadecimal.digits 4 n).flatMap String.utf8EncodeChar).length = 4 ∧
      unit? ((Text.Hexadecimal.digits 4 n).flatMap String.utf8EncodeChar) = some n := by
  have hall : ∀ n < 0x20,
      ((Text.Hexadecimal.digits 4 n).flatMap String.utf8EncodeChar).length = 4 ∧
        unit? ((Text.Hexadecimal.digits 4 n).flatMap String.utf8EncodeChar) = some n := by
    decide +kernel
  exact hall n hn

theorem takeUnit_of_control (hc : c.toNat < 0x20) :
    takeUnit none c.toNat = some (.plain, String.utf8EncodeChar c) := by
  unfold takeUnit
  rw [if_neg (by omega), if_neg (by omega), Char.ofNat_toNat]

/-- A letter after a backslash stands for a character. -/
theorem stringFrom_letter {b : UInt8} {d : Char} (hb : unescape? b = some (code d))
    (hd : d.toNat < 0x80) (taken rest : Bytes) :
    stringFrom .plain taken (code '\\' :: b :: rest) =
      stringFrom .plain ((String.utf8EncodeChar d).reverse ++ taken) rest := by
  rw [Text.utf8EncodeChar_eq_singleton hd, stringFrom, if_neg (by decide), if_pos rfl, stringFrom,
    hb]
  rfl

/-- An escaped character is read as the character. -/
theorem stringFrom_escape (c : Char) (taken rest : Bytes) :
    stringFrom .plain taken ((escape c).flatMap String.utf8EncodeChar ++ rest) =
      stringFrom .plain ((String.utf8EncodeChar c).reverse ++ taken) rest := by
  unfold escape
  split_ifs with h₁ h₂ h₃ h₄ h₅ h₆ h₇ hcontrol
  all_goals try subst c
  · exact stringFrom_letter (b := code '"') rfl (by decide) taken rest
  · exact stringFrom_letter (b := code '\\') rfl (by decide) taken rest
  · exact stringFrom_letter (b := code 'b') rfl (by decide) taken rest
  · exact stringFrom_letter (b := code 'f') rfl (by decide) taken rest
  · exact stringFrom_letter (b := code 'n') rfl (by decide) taken rest
  · exact stringFrom_letter (b := code 'r') rfl (by decide) taken rest
  · exact stringFrom_letter (b := code 't') rfl (by decide) taken rest
  · obtain ⟨hlength, hunit⟩ := unit?_digits hcontrol
    exact stringFrom_unit hlength hunit (takeUnit_of_control hcontrol) taken rest
  · rw [List.flatMap_singleton]
    exact stringFrom_plain (fun b hb => isPlainByte_of_mem h₁ h₂ hcontrol hb) taken rest

theorem stringFrom_flatMap_escape (cs : List Char) (taken rest : Bytes) :
    stringFrom .plain taken ((cs.flatMap escape).flatMap String.utf8EncodeChar ++
      code '"' :: rest) = (.ok (taken.reverse ++ cs.flatMap String.utf8EncodeChar), rest) := by
  induction cs generalizing taken with
  | nil =>
    rw [List.flatMap_nil, List.flatMap_nil, List.append_nil]
    rfl
  | cons c cs ih =>
    rw [List.flatMap_cons, List.flatMap_append, List.append_assoc, stringFrom_escape, ih,
      List.reverse_append, List.reverse_reverse, List.append_assoc, List.flatMap_cons]

theorem utf8_quote (s : String) : Text.utf8 (quote s) =
    code '"' :: ((s.toList.flatMap escape).flatMap String.utf8EncodeChar ++ [code '"']) := by
  simp only [Text.utf8, quote, String.toList_ofList, List.flatMap_append, List.flatMap_cons]
  rfl

/-- A quoted text is read as the text. -/
theorem stringBody_quote (s : String) (rest : Bytes) :
    ∃ x, Text.utf8 (quote s) ++ rest = code '"' :: x ∧ stringBody.apply x = (.ok s, rest) := by
  have hdecode : Text.ofUtf8? (([] : Bytes).reverse ++ s.toList.flatMap String.utf8EncodeChar) =
      some s := Text.ofUtf8?_utf8 s
  refine ⟨_, by rw [utf8_quote, List.cons_append, List.append_assoc], ?_⟩
  unfold stringBody
  rw [Reader.apply_bind, Reader.apply_ofFunction, List.singleton_append, stringFrom_flatMap_escape]
  dsimp only
  rw [hdecode]
  rfl

end SessionAuth.Json
