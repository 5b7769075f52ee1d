import Mathlib.Data.List.DropRight
import SessionAuth.Text.Blank

/-!
# Texts without blanks around them
-/

namespace SessionAuth.Text

variable {cs : List Char}

/-- A visible character of ASCII is no blank. -/
theorem isBlank_eq_false_of_visible {c : Char} (h : 0x20 < c.toNat ∧ c.toNat < 0x7f) :
    isBlank c = false := by
  have hranges : ∀ r ∈ blanks, r.2 ≤ 0x20 ∨ 0x7f ≤ r.1 := by decide
  refine Bool.eq_false_iff.2 fun hblank => ?_
  obtain ⟨r, hr, hle, hge⟩ := (CodeRanges.contains_iff _ _).1 hblank
  have hrange := hranges r hr
  omega

/-- Blanks have no case. -/
theorem toLower_of_isBlank {c : Char} (h : isBlank c = true) : c.toLower = c := by
  refine dif_neg fun hupper => ?_
  have hfirst : 'A'.toNat ≤ c.toNat := UInt32.le_iff_toNat_le.1 hupper.1
  have hlast : c.toNat ≤ 'Z'.toNat := UInt32.le_iff_toNat_le.1 hupper.2
  have hvisible : 0x20 < c.toNat ∧ c.toNat < 0x7f :=
    ⟨Nat.lt_of_lt_of_le (by decide) hfirst, Nat.lt_of_le_of_lt hlast (by decide)⟩
  rw [isBlank_eq_false_of_visible hvisible] at h
  cases h

theorem trimEnd_eq_rdropWhile (cs : List Char) : trimEnd cs = cs.rdropWhile isBlank := rfl

/-- A text is trimmed when neither its first nor its last character is a blank. -/
theorem trimList_eq_self_iff : trimList cs = cs ↔
    (∀ c, cs.head? = some c → isBlank c = false) ∧
      ∀ c, cs.getLast? = some c → isBlank c = false := by
  have hstart : cs.dropWhile isBlank = cs ↔ ∀ c, cs.head? = some c → isBlank c = false := by
    cases cs with
    | nil => simp
    | cons c cs => simp [List.dropWhile_eq_self_iff]
  have hend : trimEnd cs = cs ↔ ∀ c, cs.getLast? = some c → isBlank c = false := by
    rw [trimEnd_eq_rdropWhile, List.rdropWhile_eq_self_iff]
    cases cs using List.reverseRecOn with
    | nil => simp
    | append_singleton cs c => simp
  rw [← hstart, ← hend]
  constructor
  · intro h
    have hsuffix := List.dropWhile_suffix (l := cs) isBlank
    have hfront := List.rdropWhile_prefix isBlank (cs.dropWhile isBlank)
    have hlength : cs.length ≤ (cs.dropWhile isBlank).length :=
      (congrArg List.length h).ge.trans hfront.length_le
    have hdrop : cs.dropWhile isBlank = cs := hsuffix.eq_of_length_le hlength
    refine ⟨hdrop, ?_⟩
    rw [trimList, hdrop] at h
    exact h
  · rintro ⟨hdrop, htrim⟩
    rw [trimList, hdrop, htrim]

/-- Trimmed texts with another character between them are trimmed. -/
theorem trimList_append {ds : List Char} {c : Char} (hcs : trimList cs = cs)
    (hds : trimList ds = ds) (hc : isBlank c = false) :
    trimList (cs ++ c :: ds) = cs ++ c :: ds := by
  obtain ⟨hfirst, -⟩ := trimList_eq_self_iff.1 hcs
  obtain ⟨-, hlast⟩ := trimList_eq_self_iff.1 hds
  refine trimList_eq_self_iff.2 ⟨?_, ?_⟩
  · cases cs with
    | nil => simpa using hc
    | cons d cs => simpa using hfirst
  · cases ds using List.reverseRecOn with
    | nil => simpa using hc
    | append_singleton ds d =>
      rw [← List.cons_append, ← List.append_assoc, List.getLast?_concat]
      simpa using hlast

/-- A text without blanks has none at its ends. -/
theorem trimList_of_forall (h : ∀ c ∈ cs, isBlank c = false) : trimList cs = cs :=
  trimList_eq_self_iff.2 ⟨fun c hc => h c (List.mem_of_mem_head? hc),
    fun c hc => h c (List.mem_of_mem_getLast? hc)⟩

theorem trimList_sublist (cs : List Char) : (trimList cs).Sublist cs :=
  (List.rdropWhile_prefix isBlank _).sublist.trans (List.dropWhile_sublist isBlank)

theorem mem_of_mem_trimList {c : Char} (h : c ∈ trimList cs) : c ∈ cs :=
  (trimList_sublist cs).subset h

theorem trimList_trimList (cs : List Char) : trimList (trimList cs) = trimList cs := by
  have hstart : (trimList cs).dropWhile isBlank = trimList cs := by
    rw [List.dropWhile_eq_self_iff]
    intro hpos
    have hfront : trimList cs <+: cs.dropWhile isBlank := List.rdropWhile_prefix isBlank _
    have hfirst := List.dropWhile_get_zero_not isBlank cs (hpos.trans_le hfront.length_le)
    rw [hfront.getElem hpos]
    exact hfirst
  have hend : trimEnd (trimList cs) = trimList cs := List.rdropWhile_idempotent isBlank _
  rw [trimList, hstart, hend]

/-! ### Blanks around another character -/

variable {c : Char}

theorem dropWhile_append_cons (hc : isBlank c = false) (cs ds : List Char) :
    (cs ++ c :: ds).dropWhile isBlank = cs.dropWhile isBlank ++ c :: ds := by
  have hkept : (c :: ds).dropWhile isBlank = c :: ds :=
    List.dropWhile_cons_of_neg (Bool.eq_false_iff.1 hc)
  rw [List.dropWhile_append, hkept]
  split
  next hnil => rw [List.isEmpty_iff.1 hnil, List.nil_append]
  next => rfl

theorem trimEnd_append_cons (hc : isBlank c = false) (cs ds : List Char) :
    trimEnd (cs ++ c :: ds) = cs ++ c :: trimEnd ds := by
  have hreverse : (cs ++ c :: ds).reverse = ds.reverse ++ c :: cs.reverse := by simp
  rw [trimEnd, hreverse, dropWhile_append_cons hc]
  simp [trimEnd]

/-- A text loses the blanks before and behind any other character of it. -/
theorem trimList_append_cons (hc : isBlank c = false) (cs ds : List Char) :
    trimList (cs ++ c :: ds) = cs.dropWhile isBlank ++ c :: trimEnd ds := by
  rw [trimList, dropWhile_append_cons hc, trimEnd_append_cons hc]

theorem trimList_dropWhile (cs : List Char) : trimList (cs.dropWhile isBlank) = trimList cs := by
  rw [trimList, List.dropWhile_idempotent, trimList]

theorem trimList_trimEnd (cs : List Char) : trimList (trimEnd cs) = trimList cs := by
  by_cases hall : ∀ c ∈ cs, isBlank c = true
  · have hend : trimEnd cs = [] := List.rdropWhile_eq_nil_iff.2 hall
    have hstart : cs.dropWhile isBlank = [] := List.dropWhile_eq_nil_iff.2 hall
    rw [hend, trimList, trimList, hstart]
    rfl
  · simp only [not_forall] at hall
    obtain ⟨c, hc, hblank⟩ := hall
    obtain ⟨before, after, rfl⟩ := List.append_of_mem hc
    have hidem : trimEnd (trimEnd after) = trimEnd after := List.rdropWhile_idempotent isBlank after
    rw [Bool.not_eq_true] at hblank
    rw [trimEnd_append_cons hblank, trimList_append_cons hblank, trimList_append_cons hblank, hidem]

/-! ### Blanks around a text -/

theorem trimEnd_append_of_blank {after : List Char} (h : ∀ c ∈ after, isBlank c = true)
    (cs : List Char) : trimEnd (cs ++ after) = trimEnd cs := by
  rw [trimEnd, List.reverse_append, List.dropWhile_append_of_pos fun c hc =>
    h c (List.mem_reverse.1 hc)]
  rfl

/-- A text with more blanks around it is the same when it is trimmed. -/
theorem trimList_append_of_blank {before after : List Char} (hbefore : ∀ c ∈ before, isBlank c = true)
    (hafter : ∀ c ∈ after, isBlank c = true) (cs : List Char) :
    trimList (before ++ cs ++ after) = trimList cs := by
  rw [← trimList_trimEnd, trimEnd_append_of_blank hafter, trimList_trimEnd, trimList,
    List.dropWhile_append_of_pos hbefore]
  rfl

theorem isBlankText_append (s t : String) :
    isBlankText (s ++ t) = (isBlankText s && isBlankText t) := by
  rw [isBlankText, String.toList_append, List.all_append]
  rfl

end SessionAuth.Text
