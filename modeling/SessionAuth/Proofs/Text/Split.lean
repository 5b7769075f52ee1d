import SessionAuth.Text.Split

/-!
# Splitting and joining
-/

namespace SessionAuth.Text

variable {separator : Char} {part : List Char}

theorem split_ne_nil (cs : List Char) : split separator cs ≠ [] := by
  cases cs with
  | nil => exact List.cons_ne_nil _ _
  | cons c cs =>
    unfold split
    split
    · exact List.cons_ne_nil _ _
    · split <;> exact List.cons_ne_nil _ _

/-- There is a first part. -/
theorem exists_split_eq_cons (separator : Char) (cs : List Char) :
    ∃ first rest, split separator cs = first :: rest :=
  List.exists_cons_of_ne_nil (split_ne_nil cs)

theorem split_cons {c : Char} (h : c ≠ separator) (cs : List Char) :
    ∃ part parts, split separator cs = part :: parts ∧
      split separator (c :: cs) = (c :: part) :: parts := by
  cases hs : split separator cs with
  | nil => exact absurd hs (split_ne_nil cs)
  | cons part parts => exact ⟨part, parts, rfl, by simp [split, h, hs]⟩

theorem split_of_not_mem (h : separator ∉ part) : split separator part = [part] := by
  induction part with
  | nil => rfl
  | cons c part ih =>
    rw [List.mem_cons, not_or] at h
    obtain ⟨first, rest, hs, hc⟩ := split_cons (Ne.symm h.1) part
    rw [ih h.2] at hs
    cases hs
    exact hc

theorem split_append (h : separator ∉ part) (cs : List Char) :
    split separator (part ++ separator :: cs) = part :: split separator cs := by
  induction part with
  | nil => simp [split]
  | cons c part ih =>
    rw [List.mem_cons, not_or] at h
    obtain ⟨first, rest, hs, hc⟩ := split_cons (Ne.symm h.1) (part ++ separator :: cs)
    rw [ih h.2] at hs
    cases hs
    exact hc

/-- The parts are made of the characters between the separators. -/
theorem mem_of_mem_split {cs : List Char} (h : part ∈ split separator cs) :
    separator ∉ part ∧ ∀ c ∈ part, c ∈ cs := by
  induction cs generalizing part with
  | nil =>
    rw [split, List.mem_singleton] at h
    subst h
    simp
  | cons c cs ih =>
    by_cases hc : c = separator
    · rw [split, if_pos hc, List.mem_cons] at h
      rcases h with rfl | h
      · simp
      · exact ⟨(ih h).1, fun d hd => List.mem_cons_of_mem c ((ih h).2 d hd)⟩
    · obtain ⟨first, rest, hs, hsplit⟩ := split_cons hc cs
      rw [hsplit, List.mem_cons] at h
      rcases h with rfl | h
      · have hfirst := ih (hs ▸ List.mem_cons_self)
        refine ⟨List.not_mem_cons_of_ne_of_not_mem (Ne.symm hc) hfirst.1, fun d hd => ?_⟩
        rcases List.mem_cons.1 hd with rfl | hd
        · exact List.mem_cons_self
        · exact List.mem_cons_of_mem c (hfirst.2 d hd)
      · have hrest := ih (hs ▸ List.mem_cons_of_mem first h)
        exact ⟨hrest.1, fun d hd => List.mem_cons_of_mem c (hrest.2 d hd)⟩

/-- Nothing is lost but the separators. -/
theorem exists_mem_split {cs : List Char} {c : Char} (hc : c ∈ cs) (hne : c ≠ separator) :
    ∃ part ∈ split separator cs, c ∈ part := by
  induction cs with
  | nil => cases hc
  | cons d cs ih =>
    by_cases hd : d = separator
    · rw [split, if_pos hd]
      rcases List.mem_cons.1 hc with rfl | hc
      · exact absurd hd hne
      · obtain ⟨part, hpart, hmem⟩ := ih hc
        exact ⟨part, List.mem_cons_of_mem _ hpart, hmem⟩
    · obtain ⟨first, rest, hs, hsplit⟩ := split_cons hd cs
      rw [hsplit]
      rcases List.mem_cons.1 hc with rfl | hc
      · exact ⟨c :: first, List.mem_cons_self, List.mem_cons_self⟩
      · obtain ⟨part, hpart, hmem⟩ := ih hc
        rw [hs] at hpart
        rcases List.mem_cons.1 hpart with rfl | hpart
        · exact ⟨d :: part, List.mem_cons_self, List.mem_cons_of_mem d hmem⟩
        · exact ⟨part, List.mem_cons_of_mem _ hpart, hmem⟩

theorem one_lt_length_split_iff {cs : List Char} :
    1 < (split separator cs).length ↔ separator ∈ cs := by
  constructor
  · intro h
    refine Decidable.byContradiction fun hnot => ?_
    rw [split_of_not_mem hnot] at h
    exact absurd h (Nat.lt_irrefl 1)
  · intro h
    obtain ⟨front, back, rfl, hfront⟩ := List.eq_append_cons_of_mem h
    have hpos : 0 < (split separator back).length := List.length_pos_iff.2 (split_ne_nil back)
    rw [split_append hfront, List.length_cons]
    omega

theorem first_eq_nil_iff {cs first : List Char} {rest : List (List Char)}
    (h : split separator cs = first :: rest) :
    first = [] ↔ ∀ c, cs.head? = some c → c = separator := by
  cases cs with
  | nil =>
    cases h
    simp
  | cons c cs =>
    by_cases hc : c = separator
    · rw [split, if_pos hc] at h
      cases h
      simp [hc]
    · obtain ⟨first', rest', -, hsplit⟩ := split_cons hc cs
      rw [hsplit] at h
      cases h
      simp [hc]

/-! ### Joining -/

theorem intercalate_split (cs : List Char) : [separator].intercalate (split separator cs) = cs := by
  induction cs with
  | nil => rfl
  | cons c cs ih =>
    by_cases hc : c = separator
    · obtain ⟨first, rest, hs⟩ := exists_split_eq_cons separator cs
      rw [split, if_pos hc, hs, List.intercalate_cons_cons, ← hs, ih, hc]
      rfl
    · obtain ⟨first, rest, hs, hsplit⟩ := split_cons hc cs
      rw [hs] at ih
      rw [hsplit]
      cases rest with
      | nil =>
        rw [List.intercalate_singleton] at ih ⊢
        rw [ih]
      | cons second rest =>
        rw [List.intercalate_cons_cons] at ih ⊢
        rw [List.cons_append, List.cons_append, ih]

/-- Parts that were joined are found again. -/
theorem split_intercalate {parts : List (List Char)} (hne : parts ≠ [])
    (h : ∀ part ∈ parts, separator ∉ part) :
    split separator ([separator].intercalate parts) = parts := by
  induction parts with
  | nil => exact absurd rfl hne
  | cons first rest ih =>
    obtain ⟨hfirst, hrest⟩ := List.forall_mem_cons.1 h
    cases rest with
    | nil => rw [List.intercalate_singleton, split_of_not_mem hfirst]
    | cons second rest =>
      rw [List.intercalate_cons_cons, List.append_assoc, List.singleton_append,
        split_append hfirst, ih (List.cons_ne_nil _ _) hrest]

/-! ### Splitting once -/

theorem splitFirst?_cons_self (cs : List Char) :
    splitFirst? separator (separator :: cs) = some ([], cs) := by
  simp [splitFirst?]

theorem splitFirst?_cons {c : Char} (h : c ≠ separator) (cs : List Char) :
    splitFirst? separator (c :: cs) =
      (splitFirst? separator cs).map fun parts => (c :: parts.1, parts.2) := by
  simp only [splitFirst?, List.dropWhile_cons, List.takeWhile_cons, h, ne_eq, not_false_eq_true,
    decide_true, if_true]
  split <;> rfl

theorem splitFirst?_eq_some_iff {cs a b : List Char} :
    splitFirst? separator cs = some (a, b) ↔ cs = a ++ separator :: b ∧ separator ∉ a := by
  induction cs generalizing a with
  | nil => simp [splitFirst?]
  | cons c cs ih =>
    by_cases hc : c = separator
    · subst hc
      rw [splitFirst?_cons_self]
      cases a with
      | nil => simp
      | cons a₁ a => simp +contextual [eq_comm]
    · rw [splitFirst?_cons hc]
      cases a with
      | nil => simp [hc]
      | cons a₁ a =>
        rw [Option.map_eq_some_iff]
        constructor
        · rintro ⟨⟨a', b'⟩, hfirst, hparts⟩
          cases hparts
          obtain ⟨rfl, hnot⟩ := ih.1 hfirst
          exact ⟨rfl, List.not_mem_cons_of_ne_of_not_mem (Ne.symm hc) hnot⟩
        · rintro ⟨heq, hnot⟩
          cases heq
          exact ⟨(a, b), ih.2 ⟨rfl, List.not_mem_of_not_mem_cons hnot⟩, rfl⟩

theorem splitLast?_eq_some_iff {cs a b : List Char} :
    splitLast? separator cs = some (a, b) ↔ cs = a ++ separator :: b ∧ separator ∉ b := by
  unfold splitLast?
  constructor
  · intro h
    obtain ⟨⟨b', a'⟩, hfirst, hparts⟩ := Option.map_eq_some_iff.1 h
    cases hparts
    obtain ⟨hcs, hnot⟩ := splitFirst?_eq_some_iff.1 hfirst
    refine ⟨?_, by simpa using hnot⟩
    rw [← List.reverse_reverse cs, hcs]
    simp
  · rintro ⟨rfl, hnot⟩
    have hfirst : splitFirst? separator (a ++ separator :: b).reverse =
        some (b.reverse, a.reverse) :=
      splitFirst?_eq_some_iff.2 ⟨by simp, by simpa using hnot⟩
    rw [hfirst]
    simp

end SessionAuth.Text
