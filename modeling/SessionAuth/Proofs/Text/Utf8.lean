import Mathlib.Tactic.SplitIfs
import SessionAuth.Text.Utf8

/-!
# Texts and their bytes
-/

namespace SessionAuth.Text

/-- Different texts have different bytes. -/
theorem utf8_inj {s t : String} (h : utf8 s = utf8 t) : s = t := by
  rw [← String.toByteArray_inj, ← String.utf8Encode_toList, ← String.utf8Encode_toList]
  exact congrArg List.toByteArray h

theorem utf8_append (s t : String) : utf8 (s ++ t) = utf8 s ++ utf8 t := by
  simp only [utf8, String.toList_append, List.flatMap_append]

theorem byteLength_pos_iff {s : String} : 0 < byteLength s ↔ s.toList ≠ [] := by
  unfold byteLength utf8
  cases s.toList with
  | nil => simp
  | cons c cs =>
    have hsize := c.utf8Size_pos
    rw [List.flatMap_cons, List.length_append, String.length_utf8EncodeChar]
    simp only [ne_eq, reduceCtorEq, not_false_eq_true, iff_true]
    omega

/-- A character of ASCII is one byte. -/
theorem utf8EncodeChar_eq_singleton {c : Char} (h : c.toNat < 0x80) :
    String.utf8EncodeChar c = [UInt8.ofNat c.toNat] :=
  String.utf8EncodeChar_eq_singleton (Char.utf8Size_eq_one_iff.2 (Nat.le_of_lt_succ h))

/-- Characters of ASCII are one byte each. -/
theorem flatMap_utf8EncodeChar {cs : List Char} (h : ∀ c ∈ cs, c.toNat < 0x80) :
    cs.flatMap String.utf8EncodeChar = cs.map fun c => UInt8.ofNat c.toNat := by
  induction cs with
  | nil => rfl
  | cons c cs ih =>
    obtain ⟨hc, hcs⟩ := List.forall_mem_cons.1 h
    rw [List.flatMap_cons, utf8EncodeChar_eq_singleton hc, ih hcs]
    rfl

theorem byteLength_of_ascii {s : String} (h : ∀ c ∈ s.toList, c.toNat < 0x80) :
    byteLength s = s.toList.length := by
  rw [byteLength, utf8, flatMap_utf8EncodeChar h, List.length_map]

/-- In ASCII, no cut goes through a character. -/
theorem cutAt?_of_ascii {cs : List Char} {n : Nat} (h : ∀ c ∈ cs, c.toNat < 0x80)
    (hn : n ≤ cs.length) : cutAt? n cs = some (cs.take n, cs.drop n) := by
  induction cs generalizing n with
  | nil =>
    obtain rfl : n = 0 := Nat.le_zero.1 hn
    rfl
  | cons c cs ih =>
    cases n with
    | zero => rfl
    | succ n =>
      obtain ⟨hc, hcs⟩ := List.forall_mem_cons.1 h
      have hsize : c.utf8Size = 1 := Char.utf8Size_eq_one_iff.2 (Nat.le_of_lt_succ hc)
      have hrest := ih hcs (Nat.le_of_succ_le_succ hn)
      rw [cutAt?, if_neg (by omega), hsize, Nat.add_sub_cancel, hrest]
      rfl

/-- A text that bytes form has them as its bytes. -/
theorem utf8_of_ofUtf8? {bytes : Bytes} {s : String} (h : ofUtf8? bytes = some s) :
    utf8 s = bytes := by
  unfold ofUtf8? String.fromUTF8? at h
  split at h
  next hvalid =>
    cases h
    have hencode := congrArg (·.data.toList)
      (String.utf8Encode_toList (b := String.fromUTF8 (ByteArray.mk bytes.toArray) hvalid))
    simpa [List.utf8Encode, utf8, String.fromUTF8] using hencode
  · cases h

/-- The bytes of a text form the text. -/
theorem ofUtf8?_utf8 (s : String) : ofUtf8? (utf8 s) = some s := by
  have hbytes : ByteArray.mk (utf8 s).toArray = s.toByteArray := by
    rw [← String.utf8Encode_toList]
    apply ByteArray.ext
    apply Array.ext'
    simp [List.utf8Encode, utf8]
  unfold ofUtf8? String.fromUTF8?
  rw [hbytes]
  rw [dif_pos s.isValidUTF8]
  rfl

/-- The bytes of a character outside ASCII are outside ASCII. -/
theorem le_of_mem_utf8EncodeChar {c : Char} {b : UInt8} (hc : 0x80 ≤ c.toNat)
    (h : b ∈ String.utf8EncodeChar c) : 0x80 ≤ b.toNat := by
  have hval : c.val.toNat = c.toNat := rfl
  unfold String.utf8EncodeChar at h
  dsimp only at h
  rw [hval] at h
  split_ifs at h <;> simp only [List.mem_cons, List.not_mem_nil, or_false] at h
  · omega
  · rcases h with rfl | rfl <;> rw [UInt8.toNat_ofNat'] <;> omega
  · rcases h with rfl | rfl | rfl <;> rw [UInt8.toNat_ofNat'] <;> omega
  · rcases h with rfl | rfl | rfl | rfl <;> rw [UInt8.toNat_ofNat'] <;> omega

end SessionAuth.Text
