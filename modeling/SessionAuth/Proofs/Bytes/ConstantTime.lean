import SessionAuth.Proofs.Text.Utf8
import SessionAuth.RefreshToken.Fingerprint

/-!
# Comparison that does not stop early is equality

The bits that are gathered from all pairs are zero exactly if no pair differs
(`Bytes.differences_eq_zero_iff_forall`), so the comparison is equality of bytes
(`Bytes.equalInConstantTime_eq`), and of texts where it compares the bytes of texts.
-/

namespace SessionAuth

namespace Bytes

/-- A bit that is gathered once stays. -/
theorem foldl_or_eq_zero_iff (bytes : Bytes) (x : UInt8) :
    bytes.foldl (· ||| ·) x = 0 ↔ x = 0 ∧ ∀ b ∈ bytes, b = 0 := by
  induction bytes generalizing x with
  | nil => simp
  | cons b bytes ih =>
    rw [List.foldl_cons, ih, UInt8.or_eq_zero_iff, List.forall_mem_cons, and_assoc]

/-- No pair is passed over. -/
theorem differences_eq_zero_iff_forall (a b : Bytes) :
    differences a b = 0 ↔ ∀ p ∈ a.zip b, p.1 = p.2 := by
  have hpairs : List.zipWith (· ^^^ ·) a b = (a.zip b).map fun p => p.1 ^^^ p.2 := by
    rw [List.map_zip_eq_zipWith]
    rfl
  rw [differences, foldl_or_eq_zero_iff, hpairs]
  simp only [true_and, List.forall_mem_map, UInt8.xor_eq_zero_iff]

theorem differences_eq_zero_iff {a b : Bytes} (h : a.length = b.length) :
    differences a b = 0 ↔ a = b := by
  rw [differences_eq_zero_iff_forall]
  induction a generalizing b with
  | nil =>
    rw [List.eq_nil_of_length_eq_zero h.symm]
    simp
  | cons x a ih =>
    cases b with
    | nil => cases h
    | cons y b =>
      have hlen : a.length = b.length := Nat.succ.inj h
      rw [List.zip_cons_cons, List.forall_mem_cons, ih hlen, List.cons.injEq]

theorem equalInConstantTime_eq (a b : Bytes) : equalInConstantTime a b = decide (a = b) := by
  unfold equalInConstantTime
  by_cases hab : a = b
  · subst hab
    have hzero : differences a a = 0 := (differences_eq_zero_iff rfl).2 rfl
    simp [hzero]
  · by_cases hlen : a.length = b.length
    · have hne : differences a b ≠ 0 := fun hzero => hab ((differences_eq_zero_iff hlen).1 hzero)
      simp [hab, hne]
    · simp [hab, hlen]

/-- Texts are compared by their bytes. -/
theorem equalInConstantTime_utf8 (s t : String) :
    equalInConstantTime (Text.utf8 s) (Text.utf8 t) = decide (s = t) := by
  have hiff : Text.utf8 s = Text.utf8 t ↔ s = t := ⟨Text.utf8_inj, congrArg Text.utf8⟩
  rw [equalInConstantTime_eq, decide_eq_decide]
  exact hiff

end Bytes

theorem Fingerprint.agrees_eq (f g : Fingerprint) : f.agrees g = decide (f.text = g.text) :=
  Bytes.equalInConstantTime_utf8 f.text g.text

end SessionAuth
