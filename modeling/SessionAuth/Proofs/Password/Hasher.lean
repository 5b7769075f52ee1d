import SessionAuth.Password.Hasher
import SessionAuth.Proofs.Bytes.ConstantTime
import SessionAuth.Proofs.Password.Phc

/-!
# Passwords, hashed and checked

A new hash is read as it was written (`Hasher.parse_hash`), and a check takes all from it but the
pepper. So a password is accepted against a hash that was made with other costs, and even of another
password, if text and pepper together are the bytes that were hashed; what else is accepted is
accepted because two tags are the same (`Hasher.verify_hash_eq`, `Hasher.verify_exact`).

A check that fails does so for the password, or is aborted by the stored hash whatever the password
(`Hasher.verify_eq_aborted_iff`).
-/

namespace SessionAuth.Password.Hasher

variable {h : Hasher} {cost : Argon2.Cost} {pepper : Option Bytes} {salt : Bytes} {p : Password}
  {stored : PasswordHash} {e : HashError}

/-! ### Costs -/

/-- Costs at which passwords can be hashed. -/
def IsValid (h : Hasher) : Prop :=
  Phc.costFault? h.cost = none ∧ h.cost.memory < UInt32.size ∧ h.cost.passes < UInt32.size

/-- Costs without a fault are taken as they are. -/
theorem ofCost_eq_ok_iff :
    ofCost cost pepper = .ok h ↔ Phc.costFault? cost = none ∧ h = ⟨cost, pepper⟩ := by
  unfold ofCost
  split
  next hfault => simp [hfault]
  next hfault => simp [hfault]
  next hfault => simp [hfault, eq_comm]

/-- Costs of 32 bits that are taken can be hashed at. -/
theorem isValid_of_ofCost {memory passes lanes : UInt32}
    (hh : ofCost ⟨memory.toNat, passes.toNat, lanes.toNat⟩ pepper = .ok h) : h.IsValid := by
  obtain ⟨hfault, rfl⟩ := ofCost_eq_ok_iff.1 hh
  exact ⟨hfault, memory.toNat_lt, passes.toNat_lt⟩

/-! ### Checks -/

theorem verify_of_parse {phc : Phc} (hp : Phc.parse stored.text = .ok phc) :
    h.verify p stored = if phc.accepts (h.secret p) then .ok () else .error .wrongPassword := by
  unfold verify
  rw [hp]
  rfl

theorem verify_of_parse_error (hp : Phc.parse stored.text = .error e) :
    h.verify p stored = .error e := by
  unfold verify
  rw [hp]
  rfl

/-- The costs are looked at before the password: whether a check is aborted depends on the stored
hash alone. -/
theorem verify_eq_aborted_iff :
    h.verify p stored = .error .aborted ↔ Phc.IsUncountable stored.text := by
  rw [← Phc.parse_eq_aborted_iff]
  cases hp : Phc.parse stored.text with
  | error e => rw [verify_of_parse_error hp, Except.error.injEq, Except.error.injEq]
  | ok phc =>
    rw [verify_of_parse hp]
    split_ifs <;> exact iff_of_false nofun nofun

theorem verify_eq_error (hv : h.verify p stored = .error e) :
    e = .wrongPassword ∨ e = .aborted := by
  cases hp : Phc.parse stored.text with
  | error e' =>
    rw [verify_of_parse_error hp] at hv
    cases hv
    exact Phc.parse_eq_error hp
  | ok phc =>
    rw [verify_of_parse hp] at hv
    split_ifs at hv
    cases hv
    exact .inl rfl

/-! ### New hashes -/

/-- What a new hash at given costs and under a given salt keeps of a secret. -/
def derive (cost : Argon2.Cost) (salt secret : Bytes) : Bytes :=
  Argon2.Input.tag ⟨.hybrid, .mixing, cost, secret, salt, [], tagLength⟩

theorem length_derive (cost : Argon2.Cost) (salt secret : Bytes) :
    (derive cost salt secret).length = tagLength := by
  let empty : Phc := ⟨.hybrid, .mixing, cost, [], salt, List.replicate tagLength 0⟩
  have hempty : empty.tag.length = tagLength := List.length_replicate
  have hlength : (empty.tagOf secret).length = empty.tag.length :=
    Phc.length_tagOf (by rw [hempty]; decide) secret
  rw [Phc.tagOf, hempty] at hlength
  exact hlength

theorem phc_eq (h : Hasher) (salt : Bytes) (p : Password) :
    h.phc salt p = ⟨.hybrid, .mixing, h.cost, [], salt, derive h.cost salt (h.secret p)⟩ := by
  unfold phc Phc.tagOf derive
  dsimp only
  rw [List.length_replicate]

/-- A new hash is checked by what it would keep of another secret. -/
theorem tagOf_phc (h : Hasher) (salt : Bytes) (p : Password) (secret : Bytes) :
    (h.phc salt p).tagOf secret = derive h.cost salt secret := by
  rw [phc_eq, Phc.tagOf, length_derive]
  rfl

/-- A new hash is read as it was written. -/
theorem parse_hash (hh : h.IsValid) (hsalt : 8 ≤ salt.length ∧ salt.length ≤ 48) (p : Password) :
    Phc.parse (h.hash salt p).text = .ok (h.phc salt p) := by
  refine Phc.parse_text ?_
  rw [phc_eq]
  exact ⟨hh.1, hh.2.1, hh.2.2, rfl, hsalt, by rw [length_derive]; decide⟩

/-- A check against a new hash compares what is kept of two secrets. Nothing of the hasher that
checks plays a part but its pepper. -/
theorem verify_hash_eq (hh : h.IsValid) (hsalt : 8 ≤ salt.length ∧ salt.length ≤ 48) (g : Hasher)
    (a b : Password) : g.verify b (h.hash salt a) =
      if derive h.cost salt (g.secret b) = derive h.cost salt (h.secret a) then .ok ()
      else .error .wrongPassword := by
  have hparse := parse_hash hh hsalt a
  have htag : (h.phc salt a).tag = derive h.cost salt (h.secret a) := by rw [phc_eq]
  rw [verify_of_parse hparse, Phc.accepts, tagOf_phc, htag, Bytes.equalInConstantTime_eq]
  simp only [decide_eq_true_eq]

/-- A password is accepted against its own hash. -/
theorem verify_hash (hh : h.IsValid) (hsalt : 8 ≤ salt.length ∧ salt.length ≤ 48) (p : Password) :
    h.verify p (h.hash salt p) = .ok () := by
  rw [verify_hash_eq hh hsalt, if_pos rfl]

/-- At all costs that are taken, the text of a new hash gives back all that went into it. A second
hasher, whatever its costs, accepts a password whose text and pepper together are the bytes that
were hashed; it refuses one of other bytes, unless these have the same tag. -/
theorem verify_exact {memory passes lanes : UInt32}
    (hh : ofCost ⟨memory.toNat, passes.toNat, lanes.toNat⟩ pepper = .ok h)
    (hsalt : 8 ≤ salt.length ∧ salt.length ≤ 48) (g : Hasher) (a b : Password) :
    let cost : Argon2.Cost := ⟨memory.toNat, passes.toNat, lanes.toNat⟩
    let hashed := Text.utf8 a.text ++ pepper.getD []
    let presented := Text.utf8 b.text ++ g.pepper.getD []
    Phc.parse (h.hash salt a).text =
        .ok ⟨.hybrid, .mixing, cost, [], salt, derive cost salt hashed⟩ ∧
      (hashed = presented → g.verify b (h.hash salt a) = .ok ()) ∧
      ((hashed ≠ presented → derive cost salt hashed ≠ derive cost salt presented) →
        hashed ≠ presented → g.verify b (h.hash salt a) = .error .wrongPassword) := by
  intro cost hashed presented
  have hvalid := isValid_of_ofCost hh
  obtain ⟨-, rfl⟩ := ofCost_eq_ok_iff.1 hh
  have hverify : g.verify b (hash ⟨cost, pepper⟩ salt a) =
      if derive cost salt presented = derive cost salt hashed then .ok ()
      else .error .wrongPassword := verify_hash_eq hvalid hsalt g a b
  refine ⟨?_, fun heq => ?_, fun hapart hne => ?_⟩
  · rw [parse_hash hvalid hsalt, phc_eq]
    rfl
  · rw [hverify, heq, if_pos rfl]
  · rw [hverify, if_neg (hapart hne).symm]

/-- The highest costs there are, and a pepper that is the last letter of another password. That two
tags differ is left open: computing them in a proof takes minutes even at the lowest costs. -/
theorem verify_exact_moved_letter : ∃ h : Hasher,
    ofCost ⟨4294967295, 4294967295, 16777215⟩ (some [0x73]) = .ok h ∧
    let stored := h.hash (List.range 16 |>.map UInt8.ofNat) ⟨"correct horse"⟩
    (∃ phc, Phc.parse stored.text = .ok phc ∧ phc.cost = ⟨4294967295, 4294967295, 16777215⟩) ∧
    (standard none).verify ⟨"correct horses"⟩ stored = .ok () ∧
    (derive h.cost (List.range 16 |>.map UInt8.ofNat) (Text.utf8 "correct horses") ≠
        derive h.cost (List.range 16 |>.map UInt8.ofNat) (Text.utf8 "correct horse") →
      (standard none).verify ⟨"correct horse"⟩ stored = .error .wrongPassword) := by
  let salt : Bytes := List.range 16 |>.map UInt8.ofNat
  have hh : ofCost ⟨(4294967295 : UInt32).toNat, (4294967295 : UInt32).toNat,
      (16777215 : UInt32).toNat⟩ (some [0x73]) = .ok ⟨⟨4294967295, 4294967295, 16777215⟩,
        some [0x73]⟩ := rfl
  have hsalt : 8 ≤ salt.length ∧ salt.length ≤ 48 := by decide
  obtain ⟨hparse, haccepts, -⟩ := verify_exact hh hsalt (standard none) ⟨"correct horse"⟩
    ⟨"correct horses"⟩
  obtain ⟨-, -, hrefuses⟩ := verify_exact hh hsalt (standard none) ⟨"correct horse"⟩
    ⟨"correct horse"⟩
  exact ⟨_, hh, ⟨_, hparse, rfl⟩, haccepts (by decide),
    fun hne => hrefuses (fun _ => hne) (by decide)⟩

end SessionAuth.Password.Hasher
