import SessionAuth.Text.LowerCase

/-!
# What lower-casing leaves as it is, and what it does not see

A text in lower case stays as it is when it is lower-cased (`toLower_toLower`): no small letter of
the table is a capital of it. Lower-casing does not see the case of letters of ASCII
(`lowerAfter_map_toLower`), not even at a sigma, which looks at the letters around it.
-/

namespace SessionAuth.Text

/-! ### Runs of capitals -/

namespace CaseRun

variable {r r' : CaseRun} {n : Nat}

theorem covers_iff : r.covers n = true ↔
    r.first ≤ n ∧ n ≤ r.last ∧ (n - r.first) % r.step = 0 := by
  simp [covers, and_assoc]

/-- No small letter of the one run is a capital of the other: they lie apart, or in places of which
the ones are odd and the others even. -/
def misses (r r' : CaseRun) : Bool :=
  Nat.blt (r.target + (r.last - r.first)) r'.first || Nat.blt r'.last r.target ||
    r'.step == 2 && (r.step == 2 || r.first == r.last) && (r.target + r'.first) % 2 == 1

theorem not_covers_small (h : r.misses r' = true) (hn : r.covers n = true) :
    r'.covers (r.small n) = false := by
  obtain ⟨hfirst, hlast, hstep⟩ := covers_iff.1 hn
  refine Bool.eq_false_iff.2 fun hsmall => ?_
  obtain ⟨hfirst', hlast', hstep'⟩ := covers_iff.1 hsmall
  unfold small at hfirst' hlast' hstep'
  simp only [misses, Bool.or_eq_true, Bool.and_eq_true, Nat.blt_eq, beq_iff_eq] at h
  rcases h with (h | h) | ⟨⟨heven', heven⟩, hodd⟩
  · omega
  · omega
  · have hplace : (n - r.first) % 2 = 0 := by
      rcases heven with heven | hone
      · rwa [heven] at hstep
      · omega
    rw [heven'] at hstep'
    omega

/-- The capital that becomes two characters, as a run. -/
def dotted : CaseRun := ⟨0x130, 0x130, 1, 0x69⟩

theorem misses_of_mem (hr : r ∈ lowerRuns) (hr' : r' ∈ dotted :: lowerRuns) :
    r.misses r' = true := by
  have hall : (lowerRuns.all fun r => (dotted :: lowerRuns).all r.misses) = true := by
    decide +kernel
  exact List.all_eq_true.1 (List.all_eq_true.1 hall r hr) r' hr'

end CaseRun

variable {c d : Char} {cs before : List Char} {n : Nat}

theorem lowerCode_of_forall (h : ∀ r ∈ lowerRuns, r.covers n = false) : lowerCode n = n := by
  have hnone : lowerRuns.find? (·.covers n) = none :=
    List.find?_eq_none.2 fun r hr => Bool.eq_false_iff.1 (h r hr)
  rw [lowerCode, hnone]

/-- A code point stays as it is or becomes one that is no capital. -/
theorem lowerCode_eq_or (n : Nat) :
    lowerCode n = n ∨ ∀ r ∈ CaseRun.dotted :: lowerRuns, r.covers (lowerCode n) = false := by
  unfold lowerCode
  cases hfind : lowerRuns.find? (·.covers n) with
  | none => exact .inl rfl
  | some r =>
    right
    intro r' hr'
    have hcovers : r.covers n = true := by simpa using List.find?_some hfind
    exact CaseRun.not_covers_small (CaseRun.misses_of_mem (List.mem_of_find?_eq_some hfind) hr')
      hcovers

theorem lowerCode_lowerCode (n : Nat) : lowerCode (lowerCode n) = lowerCode n := by
  rcases lowerCode_eq_or n with hsame | hsmall
  · rw [hsame]
    exact hsame
  · exact lowerCode_of_forall fun r hr => hsmall r (List.mem_cons_of_mem _ hr)

/-! ### Characters in lower case -/

/-- Lower-casing leaves the character as it is, wherever it stands. -/
def IsLower (c : Char) : Prop := c ≠ 'Σ' ∧ lowerChar c = [c]

instance : DecidablePred IsLower := fun _ => instDecidableAnd

theorem lowerChar_of_ne (h : c ≠ 'İ') : lowerChar c = [Char.ofNat (lowerCode c.toNat)] := if_neg h

theorem toNat_ofNat_of_ne (h : Char.ofNat n ≠ '\x00') : (Char.ofNat n).toNat = n := by
  by_cases hn : n.isValidChar
  · have hvalid : Char.ofNat n = Char.ofNatAux n hn := dif_pos hn
    rw [hvalid]
    rfl
  · have hinvalid : Char.ofNat n = '\x00' := dif_neg hn
    exact absurd hinvalid h

theorem isLower_ofNat_lowerCode (hc : c ≠ 'İ') : IsLower (Char.ofNat (lowerCode c.toNat)) := by
  by_cases hzero : Char.ofNat (lowerCode c.toNat) = '\x00'
  · rw [hzero]
    decide
  have hcode := toNat_ofNat_of_ne hzero
  have hdotted : Char.ofNat (lowerCode c.toNat) ≠ 'İ' := by
    intro heq
    rw [heq] at hcode
    rcases lowerCode_eq_or c.toNat with hsame | hsmall
    · exact hc (Char.toNat_inj.1 (hsame.symm.trans hcode.symm))
    · have hno := hsmall _ List.mem_cons_self
      rw [← hcode] at hno
      exact absurd hno (by decide)
  refine ⟨fun hsigma => ?_, ?_⟩
  · rw [hsigma] at hcode
    have hfixed := lowerCode_lowerCode c.toNat
    rw [← hcode] at hfixed
    exact absurd hfixed (by decide)
  · rw [lowerChar_of_ne hdotted, hcode, lowerCode_lowerCode]

theorem isLower_of_mem_lowerChar (h : d ∈ lowerChar c) : IsLower d := by
  unfold lowerChar at h
  split at h
  · simp only [List.mem_cons, List.not_mem_nil, or_false] at h
    rcases h with rfl | rfl <;> decide
  next hc =>
    rw [List.mem_singleton.1 h]
    exact isLower_ofNat_lowerCode hc

theorem isLower_of_mem_lowerAfter (h : d ∈ lowerAfter before cs) : IsLower d := by
  induction cs generalizing before with
  | nil => cases h
  | cons c rest ih =>
    rcases List.mem_append.1 h with h | h
    · split at h
      · rw [List.mem_singleton.1 h]
        split <;> decide
      · exact isLower_of_mem_lowerChar h
    · exact ih h

theorem lowerAfter_of_isLower (h : ∀ c ∈ cs, IsLower c) : lowerAfter before cs = cs := by
  induction cs generalizing before with
  | nil => rfl
  | cons c rest ih =>
    obtain ⟨⟨hsigma, hc⟩, hrest⟩ := List.forall_mem_cons.1 h
    rw [lowerAfter, if_neg hsigma, hc, ih hrest]
    rfl

theorem isLower_of_mem_toLower {s : String} (h : c ∈ (toLower s).toList) : IsLower c := by
  rw [toLower, String.toList_ofList] at h
  exact isLower_of_mem_lowerAfter h

/-- A text whose characters are in lower case is its own lower case. -/
theorem toLower_of_isLower {s : String} (h : ∀ c ∈ s.toList, IsLower c) : toLower s = s := by
  rw [toLower, lowerAfter_of_isLower h, String.ofList_toList]

theorem toLower_toLower (s : String) : toLower (toLower s) = toLower s :=
  toLower_of_isLower fun _ => isLower_of_mem_toLower

theorem IsLower.isUpper_eq_false (h : IsLower c) : c.isUpper = false := by
  refine Bool.eq_false_iff.2 fun hupper => ?_
  have hcapital : 0x41 ≤ c.toNat ∧ c.toNat ≤ 0x5a := of_decide_eq_true hupper
  have hall : ∀ n < 26, ¬ IsLower (Char.ofNat (0x41 + n)) := by decide
  have hletter := hall (c.toNat - 0x41) (by omega)
  rw [Nat.add_sub_cancel' hcapital.1, Char.ofNat_toNat] at hletter
  exact hletter h

/-- A capital sigma ends its word behind a letter, but not before one. -/
example : toLower "ΟΔΟΣ ΣΟΦΙΑ İK" = "οδος σοφια i̇k" := by decide +kernel

/-! ### The case of letters of ASCII -/

/-- A relation that holds of each character and itself, and of each capital of ASCII and its small
letter, holds of each character and what it is without the case of ASCII. -/
theorem forall_toLower {p : Char → Char → Prop} (hsame : ∀ c, p c c)
    (hcapital : ∀ n < 26, p (Char.ofNat (0x41 + n)) (Char.ofNat (0x41 + n)).toLower) (c : Char) :
    p c c.toLower := by
  by_cases hcase : 0x41 ≤ c.toNat ∧ c.toNat ≤ 0x5a
  · have hletter := hcapital (c.toNat - 0x41) (by omega)
    rwa [Nat.add_sub_cancel' hcase.1, Char.ofNat_toNat] at hletter
  · have hother : c.toLower = c := dif_neg hcase
    rw [hother]
    exact hsame c

theorem lowerChar_toLower (c : Char) : lowerChar c.toLower = lowerChar c :=
  forall_toLower (p := fun c d => lowerChar d = lowerChar c) (fun _ => rfl) (by decide) c

theorem isCased_toLower (c : Char) : isCased c.toLower = isCased c :=
  forall_toLower (p := fun c d => isCased d = isCased c) (fun _ => rfl) (by decide) c

theorem isCaseIgnorable_toLower (c : Char) : isCaseIgnorable c.toLower = isCaseIgnorable c :=
  forall_toLower (p := fun c d => isCaseIgnorable d = isCaseIgnorable c) (fun _ => rfl)
    (by decide +kernel) c

theorem toLower_eq_sigma_iff (c : Char) : c.toLower = 'Σ' ↔ c = 'Σ' :=
  forall_toLower (p := fun c d => d = 'Σ' ↔ c = 'Σ') (fun _ => Iff.rfl) (by decide) c

theorem meetsCased_map_toLower (cs : List Char) :
    meetsCased (cs.map Char.toLower) = meetsCased cs := by
  have hignorable : isCaseIgnorable ∘ Char.toLower = isCaseIgnorable :=
    funext isCaseIgnorable_toLower
  unfold meetsCased
  rw [List.dropWhile_map, hignorable]
  cases cs.dropWhile isCaseIgnorable with
  | nil => rfl
  | cons c rest => exact isCased_toLower c

/-- Lower-casing does not see the case of letters of ASCII: neither of those that it lower-cases nor
of those around a sigma. -/
theorem lowerAfter_map_toLower (before cs : List Char) :
    lowerAfter (before.map Char.toLower) (cs.map Char.toLower) = lowerAfter before cs := by
  induction cs generalizing before with
  | nil => rfl
  | cons c rest ih =>
    have hrest := ih (c :: before)
    rw [List.map_cons] at hrest
    simp only [List.map_cons, lowerAfter, toLower_eq_sigma_iff, meetsCased_map_toLower,
      lowerChar_toLower, hrest]

/-- Texts that differ in the case of letters of ASCII only have the same lower case. -/
theorem toLower_congr {s t : String}
    (h : s.toList.map Char.toLower = t.toList.map Char.toLower) : toLower s = toLower t := by
  have hs := lowerAfter_map_toLower [] s.toList
  have ht := lowerAfter_map_toLower [] t.toList
  rw [toLower, toLower, ← hs, ← ht, h]

end SessionAuth.Text
