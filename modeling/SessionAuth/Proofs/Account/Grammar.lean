import Mathlib.Tactic.SplitIfs
import SessionAuth.Account.Email
import SessionAuth.Proofs.Text.Blank
import SessionAuth.Proofs.Text.LowerCase
import SessionAuth.Proofs.Text.Split
import SessionAuth.Proofs.Text.Utf8

/-!
# The grammar of email addresses

An address is a local part and a domain with an `@` between them, and a domain is labels joined by
points (`Email.IsAddressText`). A text is accepted as an address exactly if its normal form is of
that grammar, and the normal form is then accepted as it is (`Email.ofText_exact`).
-/

namespace SessionAuth

namespace Email

open Text (IsLower split)

variable {text : String} {e : Email} {c : Char} {cs first localPart : List Char}
  {rest labels : List (List Char)}

/-! ### The grammar -/

/-- A character of a label: a small letter, a digit or a hyphen. -/
def IsLabelChar (c : Char) : Prop := 'a' ≤ c ∧ c ≤ 'z' ∨ '0' ≤ c ∧ c ≤ '9' ∨ c = '-'

/-- What stands before the `@`: 1 to 64 bytes, without blanks and controls. -/
structure IsLocalPart (cs : List Char) : Prop where
  size : 1 ≤ Text.byteLength (String.ofList cs) ∧ Text.byteLength (String.ofList cs) ≤ 64
  plain : ∀ c ∈ cs, Text.isBlank c = false ∧ Text.isControl c = false

/-- What stands behind the `@`, as labels that are joined by points: two labels or more, none of
them empty, and no hyphen at either end of the whole. -/
structure IsDomainOf (labels : List (List Char)) : Prop where
  two : 2 ≤ labels.length
  nonempty : ∀ label ∈ labels, label ≠ []
  chars : ∀ label ∈ labels, ∀ c ∈ label, IsLabelChar c
  first : (['.'].intercalate labels).head? ≠ some '-'
  last : (['.'].intercalate labels).getLast? ≠ some '-'

/-- The text of an address: at most 254 bytes, with one `@`, a local part before it and a domain
behind it. -/
structure IsAddressText (text : String) : Prop where
  size : Text.byteLength text ≤ 254
  once : text.toList.count '@' = 1
  parts : ∃ localPart labels, text.toList = localPart ++ '@' :: ['.'].intercalate labels ∧
    IsLocalPart localPart ∧ IsDomainOf labels

/-! ### Characters -/

theorem isDomainLetter_iff (h : IsLower c) :
    isDomainLetter c = true ↔ 'a' ≤ c ∧ c ≤ 'z' ∨ '0' ≤ c ∧ c ≤ '9' := by
  have hkinds : isDomainLetter c = (c.isUpper || c.isLower || c.isDigit) := rfl
  have hlower : c.isLower = (decide ('a' ≤ c) && decide (c ≤ 'z')) := rfl
  have hdigit : c.isDigit = (decide ('0' ≤ c) && decide (c ≤ '9')) := rfl
  rw [hkinds, hlower, hdigit, h.isUpper_eq_false]
  simp only [Bool.false_or, Bool.or_eq_true, Bool.and_eq_true, decide_eq_true_eq]

theorem isLabelChar_iff (h : IsLower c) : IsLabelChar c ↔ isDomainLetter c = true ∨ c = '-' := by
  rw [isDomainLetter_iff h, IsLabelChar, or_assoc]

theorem IsLabelChar.ne_point (h : IsLabelChar c) : c ≠ '.' := by
  rintro rfl
  revert h
  unfold IsLabelChar
  decide

theorem IsLabelChar.isBlank_eq_false (h : IsLabelChar c) : Text.isBlank c = false := by
  have hvisible (first last : Char) (hrange : first ≤ c ∧ c ≤ last) (hfirst : 0x20 < first.toNat)
      (hlast : last.toNat < 0x7f) : Text.isBlank c = false :=
    Text.isBlank_eq_false_of_visible
      ⟨Nat.lt_of_lt_of_le hfirst (UInt32.le_iff_toNat_le.1 hrange.1),
        Nat.lt_of_le_of_lt (UInt32.le_iff_toNat_le.1 hrange.2) hlast⟩
  rcases h with hletter | hdigit | rfl
  · exact hvisible 'a' 'z' hletter (by decide) (by decide)
  · exact hvisible '0' '9' hdigit (by decide) (by decide)
  · decide

theorem isLocal_iff : isLocal cs = true ↔ IsLocalPart cs := by
  have hpos : 1 ≤ Text.byteLength (String.ofList cs) ↔ cs ≠ [] := by
    rw [Nat.succ_le_iff, Text.byteLength_pos_iff, String.toList_ofList]
  have hparts : isLocal cs = true ↔
      (cs ≠ [] ∧ Text.byteLength (String.ofList cs) ≤ maxLocalLength) ∧
        ∀ c ∈ cs, Text.isBlank c = false ∧ Text.isControl c = false := by
    simp [isLocal]
  rw [hparts, ← hpos]
  exact ⟨fun ⟨hsize, hplain⟩ => ⟨hsize, hplain⟩, fun ⟨hsize, hplain⟩ => ⟨hsize, hplain⟩⟩

/-! ### Domains -/

theorem hasNoEmptyLabel_cons_iff : hasNoEmptyLabel (c :: cs) = true ↔
    (c = '.' → cs.head? ≠ some '.') ∧ hasNoEmptyLabel cs = true := by
  cases cs with
  | nil => simp [hasNoEmptyLabel]
  | cons d cs =>
    by_cases hpoints : c = '.' ∧ d = '.'
    · obtain ⟨rfl, rfl⟩ := hpoints
      simp [hasNoEmptyLabel]
    · have hcons : hasNoEmptyLabel (c :: d :: cs) = hasNoEmptyLabel (d :: cs) := by
        rw [hasNoEmptyLabel]
        rintro _ rfl ⟨⟩
        exact hpoints ⟨rfl, rfl⟩
      rw [hcons]
      exact ⟨fun h => ⟨fun hc => by simpa using not_and.1 hpoints hc, h⟩, And.right⟩

/-- No label behind the first one is empty if no two points follow each other and none is last. -/
theorem forall_ne_nil_iff (h : split '.' cs = first :: rest) : (∀ label ∈ rest, label ≠ []) ↔
    hasNoEmptyLabel cs = true ∧ cs.getLast? ≠ some '.' := by
  induction cs generalizing first rest with
  | nil =>
    cases h
    simp [hasNoEmptyLabel]
  | cons c cs ih =>
    obtain ⟨second, others, hs⟩ := Text.exists_split_eq_cons '.' cs
    have hothers := ih hs
    by_cases hc : c = '.'
    · rw [split, if_pos hc, hs] at h
      cases h
      have hsecond := Text.first_eq_nil_iff hs
      rw [hasNoEmptyLabel_cons_iff, List.forall_mem_cons, hothers, ne_eq, hsecond, hc]
      cases cs with
      | nil => simp
      | cons d cs => simp [and_assoc]
    · obtain ⟨second', others', hs', hsplit⟩ := Text.split_cons hc cs
      rw [hs] at hs'
      cases hs'
      rw [hsplit] at h
      cases h
      rw [hasNoEmptyLabel_cons_iff, hothers]
      cases cs with
      | nil => simp [hc]
      | cons d cs => simp [hc]

theorem isDomain_eq_true_iff : isDomain cs = true ↔ '.' ∈ cs ∧
    (∀ c ∈ cs, isDomainLetter c = true ∨ c = '.' ∨ c = '-') ∧
    (∃ c, cs.head? = some c ∧ isDomainLetter c = true) ∧
    (∃ c, cs.getLast? = some c ∧ isDomainLetter c = true) ∧ hasNoEmptyLabel cs = true := by
  simp only [isDomain, Bool.and_eq_true, List.contains_iff_mem, List.all_eq_true, Bool.or_eq_true,
    beq_iff_eq, Option.any_eq_true, and_assoc, or_assoc]

/-- A domain in lower case is labels that are joined by points. -/
theorem isDomain_iff (hlower : ∀ c ∈ cs, IsLower c) :
    isDomain cs = true ↔ IsDomainOf (split '.' cs) := by
  obtain ⟨first, rest, hs⟩ := Text.exists_split_eq_cons '.' cs
  have hfirst := Text.first_eq_nil_iff hs
  have hrest := forall_ne_nil_iff hs
  have hletter : isDomainLetter '.' = false ∧ isDomainLetter '-' = false := by decide
  rw [isDomain_eq_true_iff]
  constructor
  · rintro ⟨hpoint, hchars, ⟨c, hc, hcletter⟩, ⟨d, hd, hdletter⟩, hnoEmpty⟩
    have hcpoint : c ≠ '.' := fun heq => by simp [heq, hletter] at hcletter
    have hdpoint : d ≠ '.' := fun heq => by simp [heq, hletter] at hdletter
    refine ⟨Text.one_lt_length_split_iff.2 hpoint, ?_, fun label hlabel c hc => ?_, ?_, ?_⟩
    · rw [hs]
      refine List.forall_mem_cons.2
        ⟨fun hnil => hcpoint (hfirst.1 hnil c hc), hrest.2 ⟨hnoEmpty, ?_⟩⟩
      rw [hd]
      exact fun heq => hdpoint (Option.some.inj heq)
    · obtain ⟨hnot, hmem⟩ := Text.mem_of_mem_split hlabel
      rw [isLabelChar_iff (hlower c (hmem c hc))]
      rcases hchars c (hmem c hc) with h | rfl | h
      · exact .inl h
      · exact absurd hc hnot
      · exact .inr h
    · rw [Text.intercalate_split, hc]
      rintro ⟨⟩
      simp [hletter] at hcletter
    · rw [Text.intercalate_split, hd]
      rintro ⟨⟩
      simp [hletter] at hdletter
  · rintro ⟨htwo, hnonempty, hchars, hhead, hlast⟩
    rw [Text.intercalate_split] at hhead hlast
    rw [hs, List.forall_mem_cons, hrest] at hnonempty
    obtain ⟨hne, hnoEmpty, hpoint⟩ := hnonempty
    have hlabel {c : Char} (hc : c ∈ cs) (hne : c ≠ '.') : isDomainLetter c = true ∨ c = '-' := by
      obtain ⟨label, hmem, hin⟩ := Text.exists_mem_split hc hne
      exact (isLabelChar_iff (hlower c hc)).1 (hchars label hmem c hin)
    have hend {o : Option Char} (hsome : o ≠ none) (hpoint : o ≠ some '.')
        (hhyphen : o ≠ some '-') (hmem : ∀ c, o = some c → c ∈ cs) :
        ∃ c, o = some c ∧ isDomainLetter c = true := by
      obtain ⟨c, rfl⟩ := Option.ne_none_iff_exists'.1 hsome
      exact ⟨c, rfl, (hlabel (hmem c rfl) fun h => hpoint (congrArg some h)).resolve_right
        fun h => hhyphen (congrArg some h)⟩
    have hcs : cs ≠ [] := fun hnil => hne (hfirst.2 (by simp [hnil]))
    have hstart : cs.head? ≠ some '.' := fun h => hne (hfirst.2 (by simp [h]))
    refine ⟨Text.one_lt_length_split_iff.1 htwo, fun c hc => ?_,
      hend (by simpa using hcs) hstart hhead fun _ => List.mem_of_mem_head?,
      hend (by simpa using hcs) hpoint hlast fun _ => List.mem_of_mem_getLast?, hnoEmpty⟩
    by_cases hpoint : c = '.'
    · exact .inr (.inl hpoint)
    · exact (hlabel hc hpoint).imp_right .inr

/-! ### Addresses -/

theorem isAddress_iff : isAddress cs = true ↔ ∃ localPart domain,
    cs = localPart ++ '@' :: domain ∧ '@' ∉ localPart ∧ isLocal localPart = true ∧
      isDomain domain = true := by
  have hsplit : isAddress cs = true ↔ ∃ localPart domain,
      Text.splitFirst? '@' cs = some (localPart, domain) ∧ isLocal localPart = true ∧
        isDomain domain = true := by
    unfold isAddress Text.splitFirst?
    cases cs.dropWhile (· ≠ '@') with
    | nil => simp
    | cons c domain => simp
  simp only [hsplit, Text.splitFirst?_eq_some_iff, and_assoc]

theorem IsDomainOf.split_eq (h : IsDomainOf labels) :
    split '.' (['.'].intercalate labels) = labels :=
  Text.split_intercalate (List.length_pos_iff.1 (Nat.zero_lt_of_lt h.two))
    fun label hlabel hpoint => (h.chars label hlabel '.' hpoint).ne_point rfl

theorem IsDomainOf.label_or_point (h : IsDomainOf labels) :
    ∀ c ∈ ['.'].intercalate labels, IsLabelChar c ∨ c = '.' := by
  intro c hc
  by_cases hpoint : c = '.'
  · exact .inr hpoint
  · obtain ⟨label, hlabel, hin⟩ := Text.exists_mem_split hc hpoint
    rw [h.split_eq] at hlabel
    exact .inl (h.chars label hlabel c hin)

theorem IsDomainOf.at_not_mem (h : IsDomainOf labels) : '@' ∉ ['.'].intercalate labels := by
  intro hmem
  have hchar := h.label_or_point '@' hmem
  unfold IsLabelChar at hchar
  revert hchar
  decide

/-- Text in lower case is an address if it is of the grammar. -/
theorem isAddress_iff_parts (hlower : ∀ c ∈ cs, IsLower c) : isAddress cs = true ↔
    cs.count '@' = 1 ∧ ∃ localPart labels, cs = localPart ++ '@' :: ['.'].intercalate labels ∧
      IsLocalPart localPart ∧ IsDomainOf labels := by
  rw [isAddress_iff]
  constructor
  · rintro ⟨localPart, domain, rfl, hat, hlocal, hdomain⟩
    have hlabels := (isDomain_iff fun c hc =>
      hlower c (List.mem_append_right _ (List.mem_cons_of_mem _ hc))).1 hdomain
    have hat' := hlabels.at_not_mem
    rw [Text.intercalate_split] at hat'
    refine ⟨?_, localPart, split '.' domain, ?_, isLocal_iff.1 hlocal, hlabels⟩
    · rw [List.count_append, List.count_cons_self, List.count_eq_zero.2 hat,
        List.count_eq_zero.2 hat']
    · rw [Text.intercalate_split]
  · rintro ⟨hcount, localPart, labels, rfl, hlocal, hlabels⟩
    rw [List.count_append, List.count_cons_self] at hcount
    refine ⟨localPart, _, rfl, List.count_eq_zero.1 (by omega), isLocal_iff.2 hlocal, ?_⟩
    rw [isDomain_iff fun c hc => hlower c (List.mem_append_right _ (List.mem_cons_of_mem _ hc)),
      hlabels.split_eq]
    exact hlabels

/-- No character of an address is a blank. -/
theorem IsAddressText.not_isBlank (h : IsAddressText text) :
    ∀ c ∈ text.toList, Text.isBlank c = false := by
  obtain ⟨localPart, labels, htext, hlocal, hlabels⟩ := h.parts
  intro c hc
  rw [htext, List.mem_append, List.mem_cons] at hc
  rcases hc with hc | rfl | hc
  · exact (hlocal.plain c hc).1
  · decide
  · rcases hlabels.label_or_point c hc with hchar | rfl
    · exact hchar.isBlank_eq_false
    · decide

/-! ### Accepted texts -/

theorem ofText_eq_ok_iff : ofText text = .ok e ↔ e.text = normalize text ∧
    IsAddressText (normalize text) := by
  have hparts := isAddress_iff_parts fun c (hc : c ∈ (normalize text).toList) =>
    Text.isLower_of_mem_toLower hc
  unfold ofText
  generalize normalize text = normal at hparts ⊢
  dsimp only
  constructor
  · intro h
    split_ifs at h with hempty hlong haddress
    cases h
    obtain ⟨honce, hform⟩ := hparts.1 haddress
    exact ⟨rfl, Nat.le_of_not_lt hlong, honce, hform⟩
  · rintro ⟨he, hsize, honce, hform⟩
    have hempty : normal.isEmpty = false := by
      refine Bool.eq_false_iff.2 fun hempty => ?_
      rw [String.isEmpty_iff.1 hempty] at honce
      exact absurd honce (by decide)
    have hlong : ¬ maxLength < Text.byteLength normal := Nat.not_lt.2 hsize
    rw [if_neg (by simp [hempty]), if_neg hlong, if_pos (hparts.2 ⟨honce, hform⟩), ← he]

/-- The normal form of an accepted text is its own normal form. -/
theorem normalize_of_isAddressText (h : IsAddressText (normalize text)) :
    normalize (normalize text) = normalize text := by
  have htrim : Text.trim (normalize text) = normalize text := by
    rw [Text.trim, Text.trimList_of_forall h.not_isBlank, String.ofList_toList]
  rw [normalize, htrim]
  exact Text.toLower_toLower _

/-- A text is accepted as an address exactly if its lower case without the blanks around it is of
the grammar, and this is then the text of the address. The text of an address is accepted as the
address again. -/
theorem ofText_exact (text : String) (e : Email) :
    (ofText text = .ok e ↔ e.text = Text.toLower (Text.trim text) ∧
      IsAddressText (Text.toLower (Text.trim text))) ∧
    (ofText text = .ok e → ofText e.text = .ok e) := by
  refine ⟨ofText_eq_ok_iff, fun h => ?_⟩
  obtain ⟨he, haddress⟩ := ofText_eq_ok_iff.1 h
  refine ofText_eq_ok_iff.2 ?_
  rw [he, normalize_of_isAddressText haddress]
  exact ⟨rfl, haddress⟩

/-- An address with a dotted capital, the sign of the kelvin and a sigma that ends its word. -/
theorem ofText_exact_greek : ∃ e : Email, e.text = "i̇k.οδος@example-1.gr" ∧
    ofText "\u3000İ\u212a.ΟΔΟΣ@Example-1.GR " = .ok e ∧ IsAddressText e.text ∧
    ofText e.text = .ok e := by
  have haccepted : ofText "\u3000İ\u212a.ΟΔΟΣ@Example-1.GR " = .ok ⟨"i̇k.οδος@example-1.gr"⟩ := by
    decide +kernel
  obtain ⟨hiff, hagain⟩ :=
    ofText_exact "\u3000İ\u212a.ΟΔΟΣ@Example-1.GR " ⟨"i̇k.οδος@example-1.gr"⟩
  obtain ⟨he, haddress⟩ := hiff.1 haccepted
  rw [← he] at haddress
  exact ⟨_, rfl, haccepted, haddress, hagain haccepted⟩

end Email

end SessionAuth
