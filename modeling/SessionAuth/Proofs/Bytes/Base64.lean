import SessionAuth.Bytes.Base64

/-!
# Base64, written and read

A text of encoded bytes is decoded to them (`decodeList?_encodeList`), in every form whose alphabet
can be told apart (`IsLawful`).
-/

namespace SessionAuth.Base64

/-- Six bits at a time, as they are encoded. -/
def sextets : Bytes → List Nat
  | a :: b :: c :: rest =>
    let n := a.toNat * 65536 + b.toNat * 256 + c.toNat
    n / 262144 :: n / 4096 % 64 :: n / 64 % 64 :: n % 64 :: sextets rest
  | [a, b] =>
    let n := a.toNat * 1024 + b.toNat * 4
    [n / 4096, n / 64 % 64, n % 64]
  | [a] =>
    let n := a.toNat * 16
    [n / 64, n % 64]
  | [] => []

theorem lt_of_mem_sextets {bytes : Bytes} {n : Nat} (h : n ∈ sextets bytes) : n < 64 := by
  induction bytes using sextets.induct with
  | case1 a b c rest ih =>
    have ha := a.toNat_lt
    have hb := b.toNat_lt
    have hc := c.toNat_lt
    simp only [sextets, List.mem_cons] at h
    rcases h with h | h | h | h | h
    · omega
    · omega
    · omega
    · omega
    · exact ih h
  | case2 a b =>
    have ha := a.toNat_lt
    have hb := b.toNat_lt
    simp only [sextets, List.mem_cons, List.not_mem_nil, or_false] at h
    omega
  | case3 a =>
    have ha := a.toNat_lt
    simp only [sextets, List.mem_cons, List.not_mem_nil, or_false] at h
    omega
  | case4 => cases h

theorem length_sextets (bytes : Bytes) :
    (sextets bytes).length = (4 * bytes.length + 2) / 3 := by
  induction bytes using sextets.induct with
  | case1 a b c rest ih =>
    simp only [sextets, List.length_cons, ih]
    omega
  | case2 | case3 | case4 => simp [sextets]

theorem sextets_sum (n : Nat) :
    n / 262144 * 262144 + n / 4096 % 64 * 4096 + n / 64 % 64 * 64 + n % 64 = n := by
  omega

/-- The groups give the bytes back. -/
theorem ofGroups_sextets (bytes : Bytes) : Form.ofGroups (sextets bytes) = some bytes := by
  induction bytes using sextets.induct with
  | case1 a b c rest ih =>
    have ha := a.toNat_lt
    have hb := b.toNat_lt
    have hc := c.toNat_lt
    have h1 : (a.toNat * 65536 + b.toNat * 256 + c.toNat) / 65536 = a.toNat := by omega
    have h2 : (a.toNat * 65536 + b.toNat * 256 + c.toNat) / 256 % 256 = b.toNat := by omega
    have h3 : (a.toNat * 65536 + b.toNat * 256 + c.toNat) % 256 = c.toNat := by omega
    simp only [sextets, Form.ofGroups, ih, sextets_sum, h1, h2, h3, UInt8.ofNat_toNat]
    rfl
  | case2 a b =>
    have ha := a.toNat_lt
    have hb := b.toNat_lt
    have hsum : ∀ n, n / 4096 * 4096 + n / 64 % 64 * 64 + n % 64 = n := by omega
    have h1 : (a.toNat * 1024 + b.toNat * 4) / 1024 = a.toNat := by omega
    have h2 : (a.toNat * 1024 + b.toNat * 4) / 4 % 256 = b.toNat := by omega
    simp only [sextets, Form.ofGroups, hsum, h1, h2, UInt8.ofNat_toNat]
  | case3 a =>
    have ha := a.toNat_lt
    have hsum : (a.toNat * 16 / 64 * 64 + a.toNat * 16 % 64) / 16 = a.toNat := by omega
    simp only [sextets, Form.ofGroups, hsum, UInt8.ofNat_toNat]
  | case4 => rfl

namespace Form

/-- Every character of the alphabet stands for one number, and none is used for filling. -/
def IsLawful (form : Form) : Prop :=
  ∀ n < 64, form.value? (form.symbol n) = some n ∧ form.symbol n ≠ '='

instance (form : Form) : Decidable form.IsLawful := by
  unfold IsLawful
  infer_instance

theorem isLawful_standardUnpadded : standardUnpadded.IsLawful := by decide

theorem isLawful_urlSafe : urlSafe.IsLawful := by decide

variable {form : Form}

/-- A text is made of the characters of its groups, and of filling. -/
theorem encodeList_eq (form : Form) (bytes : Bytes) :
    ∃ count, form.encodeList bytes = (sextets bytes).map form.symbol ++ form.filling count := by
  induction bytes using sextets.induct with
  | case1 a b c rest ih =>
    obtain ⟨count, ih⟩ := ih
    refine ⟨count, ?_⟩
    simp only [encodeList, sextets, List.map_cons, List.cons_append, ih]
  | case2 a b => exact ⟨1, rfl⟩
  | case3 a => exact ⟨2, rfl⟩
  | case4 => exact ⟨0, by simp [encodeList, sextets, filling]⟩

theorem mem_filling {count : Nat} {c : Char} (h : c ∈ form.filling count) : c = '=' := by
  unfold filling at h
  split at h
  · exact List.eq_of_mem_replicate h
  · cases h

/-- What holds of the alphabet, and of what fills up, holds of all characters of a text. -/
theorem forall_mem_encodeList {p : Char → Prop} (hsymbol : ∀ n < 64, p (form.symbol n))
    (hfilling : p '=') (bytes : Bytes) : ∀ c ∈ form.encodeList bytes, p c := by
  obtain ⟨count, heq⟩ := encodeList_eq form bytes
  intro c hc
  rw [heq, List.mem_append] at hc
  rcases hc with hc | hc
  · obtain ⟨n, hn, rfl⟩ := List.mem_map.1 hc
    exact hsymbol n (lt_of_mem_sextets hn)
  · rw [mem_filling hc]
    exact hfilling

/-- A character that the alphabet lacks, and that does not fill up, is in no text. -/
theorem not_mem_encodeList {c : Char} (hsymbol : ∀ n < 64, form.symbol n ≠ c) (hfilling : c ≠ '=')
    (bytes : Bytes) : c ∉ form.encodeList bytes := fun hmem =>
  forall_mem_encodeList (p := (· ≠ c)) hsymbol hfilling.symm bytes c hmem rfl

theorem mapM_value? (h : form.IsLawful) {numbers : List Nat} (hn : ∀ n ∈ numbers, n < 64) :
    (numbers.map form.symbol).mapM form.value? = some numbers := by
  induction numbers with
  | nil => rfl
  | cons n numbers ih =>
    rw [List.forall_mem_cons] at hn
    simp [List.mapM_cons, (h n hn.1).1, ih hn.2]

/-- Encoded bytes are decoded to what they were. -/
theorem decodeList?_encodeList (h : form.IsLawful) (bytes : Bytes) :
    form.decodeList? (form.encodeList bytes) = some bytes := by
  obtain ⟨count, heq⟩ := encodeList_eq form bytes
  have hsymbols : ((sextets bytes).map form.symbol).filter (· ≠ '=') =
      (sextets bytes).map form.symbol := by
    rw [List.filter_eq_self]
    intro c hc
    obtain ⟨n, hn, rfl⟩ := List.mem_map.1 hc
    simpa using (h n (lt_of_mem_sextets hn)).2
  have hfilling : (form.filling count).filter (· ≠ '=') = [] := by
    rw [List.filter_eq_nil_iff]
    intro c hc
    simpa using mem_filling hc
  have hnumbers : ((form.encodeList bytes).filter (· ≠ '=')).mapM form.value? =
      some (sextets bytes) := by
    rw [heq, List.filter_append, hsymbols, hfilling, List.append_nil]
    exact mapM_value? h fun n hn => lt_of_mem_sextets hn
  unfold decodeList?
  rw [hnumbers]
  simp [ofGroups_sextets]

end Form

end SessionAuth.Base64
