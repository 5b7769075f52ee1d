import SessionAuth.Text.Compatibility

/-!
# Texts in normal form

A text of characters that neither decompose nor combine is its own normal form. All texts in ASCII
are of this kind. What texts are made of before they are put in order decides their normal form, so
a space that does not break is as good as one that does (`normalize_noBreakSpace`).
-/

namespace SessionAuth.Text.Compatibility

/-- A character that neither decomposes nor combines. -/
def IsPlain (c : Char) : Prop := c.toNat < firstDecomposed

instance : DecidablePred IsPlain := fun _ => Nat.decLt _ _

variable {c : Char} {cs : List Char}

theorem combiningClass_of_isPlain (h : IsPlain c) : combiningClass c = 0 :=
  if_pos (Nat.lt_trans h (by decide))

theorem composite_of_isPlain (a : Char) (h : IsPlain c) : composite a c = none :=
  if_pos (Nat.lt_trans h (by decide))

theorem flatMap_decomposeChar (h : ∀ c ∈ cs, IsPlain c) : cs.flatMap decomposeChar = cs := by
  induction cs with
  | nil => rfl
  | cons c cs ih =>
    rw [List.forall_mem_cons] at h
    have hc : decomposeChar c = [c] := if_pos h.1
    rw [List.flatMap_cons, hc, ih h.2]
    rfl

theorem orderAfter_nil (h : ∀ c ∈ cs, IsPlain c) : orderAfter [] cs = cs := by
  induction cs with
  | nil => simp [orderAfter, sortMarks]
  | cons c cs ih =>
    rw [List.forall_mem_cons] at h
    simp [orderAfter, sortMarks, combiningClass_of_isPlain h.1, ih h.2]

theorem composeAfter_nil (starter : Char) (h : ∀ c ∈ cs, IsPlain c) :
    composeAfter starter [] cs = starter :: cs := by
  induction cs generalizing starter with
  | nil => rfl
  | cons c cs ih =>
    rw [List.forall_mem_cons] at h
    simp [composeAfter, isBlocked, composite_of_isPlain starter h.1, combiningClass_of_isPlain h.1,
      ih c h.2]

theorem compose_eq (h : ∀ c ∈ cs, IsPlain c) : compose cs = cs := by
  cases cs with
  | nil => rfl
  | cons c cs =>
    rw [List.forall_mem_cons] at h
    rw [compose, if_pos (combiningClass_of_isPlain h.1), composeAfter_nil c h.2]

/-- A plain text is in normal form. -/
theorem normalize_eq {s : String} (h : ∀ c ∈ s.toList, IsPlain c) : normalize s = s := by
  rw [normalize, flatMap_decomposeChar h, orderAfter_nil h, compose_eq h, String.ofList_toList]

/-! ### Characters that decompose -/

/-- Of several entries for a code point the first one counts. -/
theorem getElem?_foldr_addDecomposition (es : List (List Nat)) (n : Nat) :
    (es.foldr addDecomposition ∅)[n]? =
      (es.find? (·.head? == some n)).map fun entry => entry.tail.map Char.ofNat := by
  induction es with
  | nil => simp
  | cons entry es ih =>
    rw [List.foldr_cons]
    cases entry with
    | nil => exact ih
    | cons m image =>
      rw [addDecomposition, Std.HashMap.getElem?_insert, ih]
      by_cases hm : m = n
      · simp [hm]
      · have hne : (m == n) = false := beq_eq_false_iff_ne.2 hm
        simp [hne]

/-- A character that is no syllable decomposes as the first entry for it says. -/
theorem decomposeChar_eq {entry : List Nat} (hc : ¬ IsPlain c) (hparts : hangulParts c = none)
    (hentry : (entries decompositionTable).find? (·.head? == some c.toNat) = some entry) :
    decomposeChar c = entry.tail.map Char.ofNat := by
  have himage : decompositions[c.toNat]? = some (entry.tail.map Char.ofNat) := by
    rw [decompositions, getElem?_foldr_addDecomposition, hentry, Option.map_some]
  unfold IsPlain at hc
  unfold decomposeChar
  rw [if_neg hc, hparts]
  dsimp only
  rw [Std.HashMap.getD_eq_getD_getElem?, himage, Option.getD_some]

theorem decomposeChar_noBreakSpace : decomposeChar '\u00a0' = [' '] :=
  @decomposeChar_eq '\u00a0' [0xa0, 0x20] (by decide) (by decide) (by decide +kernel)

/-- A space that does not break counts as one that does. -/
theorem normalize_noBreakSpace (s t : String) :
    normalize (s ++ "\u00a0" ++ t) = normalize (s ++ " " ++ t) := by
  have hspace : "\u00a0".toList.flatMap decomposeChar = " ".toList.flatMap decomposeChar :=
    congrArg (· ++ []) decomposeChar_noBreakSpace
  simp only [normalize, String.toList_append, List.flatMap_append, hspace]

end SessionAuth.Text.Compatibility
