import Mathlib.Tactic.SplitIfs
import SessionAuth.Password.Phc
import SessionAuth.Proofs.Bytes.Base64
import SessionAuth.Proofs.Text.Decimal
import SessionAuth.Proofs.Text.Split

/-!
# Hashes, written and read

The text of a hash is read as the hash, field by field (`Phc.parse_text`). A text that cannot be read
matches no password, unless the reading itself is aborted (`Phc.parse_eq_aborted_iff`).
-/

namespace SessionAuth.Password

open Text (split split_append split_of_not_mem)

namespace Phc

variable {n : Nat} {c : Char}

/-! ### Numbers -/

theorem number?_toDigits (h : n < UInt32.size) : number? (Nat.toDigits 10 n) = some n := by
  unfold number?
  rw [Text.Decimal.canonical?_toDigits]
  exact if_pos h

theorem isDigit_of_mem_toDigits (h : c ∈ Nat.toDigits 10 n) : c.isDigit :=
  Nat.isDigit_of_mem_toDigits (by decide) (by decide) h

theorem not_mem_toDigits (hc : c.isDigit = false) : c ∉ Nat.toDigits 10 n := fun h => by
  rw [isDigit_of_mem_toDigits h] at hc
  cases hc

/-- A number of 32 bits has at most ten digits. -/
theorem length_toDigits_le (h : n < UInt32.size) : (Nat.toDigits 10 n).length ≤ 10 := by
  rw [Nat.length_toDigits_le_iff (by decide) (by decide)]
  exact Nat.lt_trans h (by decide)

theorem isValue_toDigits (h : n < UInt32.size) : isValue (Nat.toDigits 10 n) := by
  have hlen := length_toDigits_le h
  simp only [isValue, Bool.and_eq_true, decide_eq_true_eq, List.all_eq_true]
  refine ⟨by omega, fun c hc => ?_⟩
  have hd := isDigit_of_mem_toDigits hc
  simp [Char.isAlphanum, hd]

/-! ### Costs -/

/-- A condition that holds is passed. -/
theorem guard_eq {q : Prop} [Decidable q] (h : q) : (guard q : Option Unit) = some () := if_pos h

/-- One parameter. -/
def pair (name : Char) (n : Nat) : List Char := name :: '=' :: Nat.toDigits 10 n

theorem costText_eq (cost : Argon2.Cost) : (costText cost).toList =
    pair 'm' cost.memory ++ ',' :: (pair 't' cost.passes ++ ',' :: pair 'p' cost.lanes) := by
  simp [costText, pair]

theorem not_mem_pair {name : Char} (hname : c ≠ name) (heq : c ≠ '=') (hc : c.isDigit = false) :
    c ∉ pair name n := by
  simp only [pair, List.mem_cons, not_or]
  exact ⟨hname, heq, not_mem_toDigits hc⟩

theorem split_pair {name : Char} (hname : '=' ≠ name) :
    split '=' (pair name n) = [[name], Nat.toDigits 10 n] := by
  have hnil : '=' ∉ [name] := by simpa using hname
  have hsplit := split_append hnil (Nat.toDigits 10 n)
  rw [split_of_not_mem (not_mem_toDigits rfl)] at hsplit
  exact hsplit

theorem utf8ByteSize_ofList {cs : List Char} (h : ∀ c ∈ cs, c.val ≤ 127) :
    (String.ofList cs).utf8ByteSize = cs.length := by
  induction cs with
  | nil => rfl
  | cons c cs ih =>
    rw [List.forall_mem_cons] at h
    rw [String.ofList_cons, String.utf8ByteSize_append, String.utf8ByteSize_singleton, ih h.2,
      Char.utf8Size_eq_one_iff.2 h.1, List.length_cons, Nat.add_comm]

theorem val_le_of_mem_pair {name : Char} (hname : name.val ≤ 127) (hc : c ∈ pair name n) :
    c.val ≤ 127 := by
  simp only [pair, List.mem_cons] at hc
  rcases hc with rfl | rfl | hc
  · exact hname
  · decide
  · have hd := isDigit_of_mem_toDigits hc
    simp only [Char.isDigit, Bool.and_eq_true, decide_eq_true_eq, ge_iff_le] at hd
    exact UInt32.le_trans hd.2 (by decide)

theorem set?_memory (ps : Parameters) (h : n < UInt32.size) :
    ps.set? ['m'] (Nat.toDigits 10 n) = some { ps with cost.memory := n } := by
  show (number? (Nat.toDigits 10 n)).bind _ = _
  rw [number?_toDigits h]
  rfl

theorem set?_passes (ps : Parameters) (h : n < UInt32.size) :
    ps.set? ['t'] (Nat.toDigits 10 n) = some { ps with cost.passes := n } := by
  show (number? (Nat.toDigits 10 n)).bind _ = _
  rw [number?_toDigits h]
  rfl

theorem set?_lanes (ps : Parameters) (h : n < UInt32.size) :
    ps.set? ['p'] (Nat.toDigits 10 n) = some { ps with cost.lanes := n } := by
  show (number? (Nat.toDigits 10 n)).bind _ = _
  rw [number?_toDigits h]
  rfl

/-- Costs of 32 bits are read as they were written. -/
theorem parameters?_costText {cost : Argon2.Cost} (hm : cost.memory < UInt32.size)
    (ht : cost.passes < UInt32.size) (hp : cost.lanes < UInt32.size) :
    parameters? (costText cost).toList = some ⟨cost, []⟩ := by
  have hsize : (String.ofList (costText cost).toList).utf8ByteSize ≤ 127 := by
    rw [utf8ByteSize_ofList]
    · have h1 := length_toDigits_le hm
      have h2 := length_toDigits_le ht
      have h3 := length_toDigits_le hp
      simp only [costText_eq, pair, List.length_append, List.length_cons]
      omega
    · intro c hc
      rw [costText_eq] at hc
      simp only [List.mem_append, List.mem_cons] at hc
      rcases hc with hc | rfl | hc | rfl | hc
      · exact val_le_of_mem_pair (by decide) hc
      · decide
      · exact val_le_of_mem_pair (by decide) hc
      · decide
      · exact val_le_of_mem_pair (by decide) hc
  have hsplit : split ',' (costText cost).toList =
      [pair 'm' cost.memory, pair 't' cost.passes, pair 'p' cost.lanes] := by
    rw [costText_eq, split_append (not_mem_pair (by decide) (by decide) rfl),
      split_append (not_mem_pair (by decide) (by decide) rfl),
      split_of_not_mem (not_mem_pair (by decide) (by decide) rfl)]
  unfold parameters?
  rw [hsplit, guard_eq hsize]
  simp only [List.mapM_cons, List.mapM_nil, split_pair (by decide : '=' ≠ 'm'),
    split_pair (by decide : '=' ≠ 't'), split_pair (by decide : '=' ≠ 'p'), isValue_toDigits hm,
    isValue_toDigits ht, isValue_toDigits hp]
  show (Parameters.initial.set? ['m'] _).bind _ = _
  rw [set?_memory _ hm]
  show (Parameters.set? _ ['t'] _).bind _ = _
  rw [set?_passes _ ht]
  show (Parameters.set? _ ['p'] _).bind _ = _
  rw [set?_lanes _ hp]
  rfl

/-! ### Fields -/

theorem encodeList_eq (bytes : Bytes) : Base64.standardUnpadded.encodeList bytes =
    (Base64.sextets bytes).map Base64.standardUnpadded.symbol := by
  obtain ⟨count, heq⟩ := Base64.Form.encodeList_eq Base64.standardUnpadded bytes
  rw [heq]
  exact List.append_nil _

/-- The characters of encoded bytes. -/
theorem mem_encodeList {bytes : Bytes} (h : c ∈ Base64.standardUnpadded.encodeList bytes) :
    c.isAlphanum ∨ c = '/' ∨ c = '+' := by
  rw [encodeList_eq, List.mem_map] at h
  obtain ⟨m, hm, rfl⟩ := h
  have hall : ∀ m < 64, (Base64.standardUnpadded.symbol m).isAlphanum ∨
      Base64.standardUnpadded.symbol m = '/' ∨ Base64.standardUnpadded.symbol m = '+' := by
    decide
  exact hall m (Base64.lt_of_mem_sextets hm)

theorem not_mem_encodeList (bytes : Bytes) : '$' ∉ Base64.standardUnpadded.encodeList bytes :=
  fun h => absurd (mem_encodeList h) (by decide)

theorem length_encodeList (bytes : Bytes) :
    (Base64.standardUnpadded.encodeList bytes).length = (4 * bytes.length + 2) / 3 := by
  rw [encodeList_eq, List.length_map, Base64.length_sextets]

theorem isValue_encodeList {bytes : Bytes} (h : bytes.length ≤ 48) :
    isValue (Base64.standardUnpadded.encodeList bytes) := by
  simp only [isValue, Bool.and_eq_true, decide_eq_true_eq, List.all_eq_true]
  refine ⟨?_, fun c hc => ?_⟩
  · rw [length_encodeList]
    omega
  · rcases mem_encodeList hc with h | rfl | rfl
    · simp [h]
    · decide
    · decide

/-- The text is its fields between dollar signs. -/
theorem toList_text (h : Phc) : h.text.toList =
    '$' :: ((kindName h.kind).toList ++ '$' :: ('v' :: '=' :: Nat.toDigits 10 h.version.code ++
      '$' :: ((costText h.cost).toList ++ '$' :: (Base64.standardUnpadded.encodeList h.salt ++
        '$' :: Base64.standardUnpadded.encodeList h.tag)))) := by
  simp [text, head, Base64.Form.encode]

theorem split_text (h : Phc) : split '$' h.text.toList =
    [[], (kindName h.kind).toList, 'v' :: '=' :: Nat.toDigits 10 h.version.code,
      (costText h.cost).toList, Base64.standardUnpadded.encodeList h.salt,
      Base64.standardUnpadded.encodeList h.tag] := by
  have hnil : '$' ∉ ([] : List Char) := List.not_mem_nil
  have hkind : '$' ∉ (kindName h.kind).toList := by
    cases h.kind <;> decide
  have hversion : '$' ∉ 'v' :: '=' :: Nat.toDigits 10 h.version.code :=
    not_mem_pair (by decide) (by decide) rfl
  have hcost : '$' ∉ (costText h.cost).toList := by
    rw [costText_eq]
    simp [not_mem_pair]
  rw [toList_text]
  refine (split_append hnil _).trans ?_
  rw [split_append hkind, split_append hversion, split_append hcost,
    split_append (not_mem_encodeList _), split_of_not_mem (not_mem_encodeList _)]

/-- What can be written so that it can be read again. -/
structure IsWritable (h : Phc) : Prop where
  costFault? : costFault? h.cost = none
  memory : h.cost.memory < UInt32.size
  passes : h.cost.passes < UInt32.size
  associated : h.associated = []
  salt : 8 ≤ h.salt.length ∧ h.salt.length ≤ 48
  tag : 10 ≤ h.tag.length ∧ h.tag.length ≤ 64

theorem lanes_lt {cost : Argon2.Cost} (h : costFault? cost = none) : cost.lanes < UInt32.size := by
  unfold costFault? at h
  split_ifs at h
  omega

theorem versionField?_eq (version : Argon2.Version) (fields : List (List Char)) :
    versionField? (('v' :: '=' :: Nat.toDigits 10 version.code) :: fields) =
      some (version.code, fields) := by
  have hlt : version.code < UInt32.size := by
    cases version <;> decide
  have hcomma : ',' ∉ Nat.toDigits 10 version.code := not_mem_toDigits rfl
  unfold versionField?
  simp [hcomma, isValue_toDigits hlt, number?_toDigits hlt]

theorem parametersField?_eq {cost : Argon2.Cost} (hm : cost.memory < UInt32.size)
    (ht : cost.passes < UInt32.size) (hp : cost.lanes < UInt32.size) (fields : List (List Char)) :
    parametersField? ((costText cost).toList :: fields) = some (⟨cost, []⟩, fields) := by
  have hmem : (costText cost).toList.contains '=' = true := by
    rw [costText_eq]
    rfl
  unfold parametersField?
  simp only [hmem, if_true, parameters?_costText hm ht hp]
  rfl

theorem fields?_text {h : Phc} (hw : h.IsWritable) : fields? h.text = some
    ⟨(kindName h.kind).toList, h.version.code, ⟨h.cost, []⟩,
      Base64.standardUnpadded.encodeList h.salt, h.tag⟩ := by
  have hkind : isName (kindName h.kind).toList := by
    cases h.kind <;> decide
  have hparameters := parametersField?_eq hw.memory hw.passes (lanes_lt hw.costFault?)
  have hlen : 4 ≤ (Base64.standardUnpadded.encodeList h.salt).length := by
    rw [length_encodeList]
    have := hw.salt.1
    omega
  have hsalt : (decide (4 ≤ (Base64.standardUnpadded.encodeList h.salt).length) &&
      isValue (Base64.standardUnpadded.encodeList h.salt)) = true := by
    rw [Bool.and_eq_true]
    exact ⟨decide_eq_true hlen, isValue_encodeList hw.salt.2⟩
  have htag := Base64.Form.decodeList?_encodeList Base64.Form.isLawful_standardUnpadded h.tag
  unfold fields?
  rw [split_text]
  dsimp only [bind, Option.bind]
  rw [guard_eq hkind]
  dsimp only
  rw [versionField?_eq]
  dsimp only
  rw [hparameters]
  dsimp only
  rw [guard_eq hsalt]
  dsimp only
  rw [htag]
  dsimp only
  rw [guard_eq hw.tag]
  rfl

/-- A hash is read as it was written. -/
theorem parse_text {h : Phc} (hw : h.IsWritable) : parse h.text = .ok h := by
  have hsalt := Base64.Form.decodeList?_encodeList Base64.Form.isLawful_standardUnpadded h.salt
  have hkind : kind? (kindName h.kind).toList = some h.kind := by
    cases h.kind <;> decide
  have hversion : version? h.version.code = some h.version := by
    cases h.version <;> decide
  have hfields : ofFields? ⟨(kindName h.kind).toList, h.version.code, ⟨h.cost, []⟩,
      Base64.standardUnpadded.encodeList h.salt, h.tag⟩ = some h := by
    unfold ofFields?
    rw [hsalt]
    show (guard _ : Option Unit).bind _ = _
    rw [guard_eq hw.salt.1, hkind, hversion]
    show some (⟨h.kind, h.version, h.cost, [], h.salt, h.tag⟩ : Phc) = some h
    rw [← hw.associated]
  unfold parse
  rw [fields?_text hw]
  simp only [hw.costFault?, hfields]
  rfl

/-! ### Tags -/

theorem length_bytesOfWord (x : UInt64) : (Digest.Blake2b.bytesOfWord x).length = 8 := by
  simp [Digest.Blake2b.bytesOfWord]

theorem length_blake2b {size : Nat} (h : size ≤ 64) (message : Bytes) :
    (Digest.blake2b size message).length = size := by
  unfold Digest.blake2b
  rw [List.length_take, List.length_flatMap]
  simp only [length_bytesOfWord, List.map_const', List.sum_replicate_nat, Vector.length_toList]
  omega

theorem length_tagOf {h : Phc} (hlen : h.tag.length ≤ 64) (secret : Bytes) :
    (h.tagOf secret).length = h.tag.length := by
  unfold tagOf Argon2.Input.tag Argon2.longDigest
  simp only [if_pos hlen]
  exact length_blake2b hlen _

/-! ### Texts that are refused -/

/-- The text can be taken apart, and has lanes whose least memory cannot be counted. -/
def IsUncountable (s : String) : Prop :=
  ∃ fields, fields? s = some fields ∧ costFault? fields.parameters.cost = some .uncountable

variable {s : String} {e : HashError}

theorem parse_eq_aborted_iff : parse s = .error .aborted ↔ IsUncountable s := by
  unfold parse IsUncountable
  cases fields? s with
  | none => simp
  | some fields =>
    simp only [Option.some.injEq, exists_eq_left']
    split
    · rename_i hfault
      simp [hfault]
    · rename_i fault hne hfault
      rw [hfault]
      exact iff_of_false nofun fun h => hne (Option.some.inj h)
    · rename_i hfault
      rw [hfault]
      cases ofFields? fields <;> exact iff_of_false nofun nofun

/-- A text that cannot be read matches no password, or aborts. -/
theorem parse_eq_error (h : parse s = .error e) : e = .wrongPassword ∨ e = .aborted := by
  unfold parse at h
  split at h
  · cases h
    exact .inl rfl
  · rename_i fields hfields
    split at h
    · cases h
      exact .inr rfl
    · cases h
      exact .inl rfl
    · cases hphc : ofFields? fields with
      | none =>
        rw [hphc] at h
        cases h
        exact .inl rfl
      | some phc =>
        rw [hphc] at h
        cases h

end Phc

end SessionAuth.Password
