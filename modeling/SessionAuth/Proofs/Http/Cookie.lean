import SessionAuth.Http.Cookie
import SessionAuth.Proofs.Text.Decimal
import SessionAuth.Proofs.Text.Utf8
import SessionAuth.Proofs.Uuid

/-!
# Cookies that can be sent

The field that hands out a refresh token is built from the name and the path that were configured,
which nobody has checked, and from parts that always fit a header field. So it can be built for all
tokens or for none (`Cookie.isSome_setValue?`).
-/

namespace SessionAuth

namespace Http

variable {s : String}

namespace Header

theorem isSome_value?_iff : (value? s).isSome ↔ (Text.utf8 s).all isValueByte = true := by
  unfold value?
  dsimp only
  split <;> simp_all

theorem value?_of_isSome (h : (value? s).isSome) : value? s = some (Text.utf8 s) :=
  if_pos (isSome_value?_iff.1 h)

theorem isSome_value?_append (s t : String) :
    (value? (s ++ t)).isSome = ((value? s).isSome && (value? t).isSome) := by
  rw [Bool.eq_iff_iff, Bool.and_eq_true, isSome_value?_iff, isSome_value?_iff, isSome_value?_iff,
    Text.utf8_append, List.all_append, Bool.and_eq_true]

/-- A text of printable characters may stand in a header field. -/
theorem isSome_value?_of_printable (h : ∀ c ∈ s.toList, 0x20 ≤ c.toNat ∧ c.toNat < 0x7f) :
    (value? s).isSome := by
  rw [isSome_value?_iff, List.all_eq_true]
  intro b hb
  obtain ⟨c, hc, hb⟩ := List.mem_flatMap.1 hb
  obtain ⟨hlow, hhigh⟩ := h c hc
  rw [Text.utf8EncodeChar_eq_singleton (by omega), List.mem_singleton] at hb
  have hnat : b.toNat = c.toNat := by
    rw [hb, UInt8.toNat_ofNat']
    exact Nat.mod_eq_of_lt (by omega)
  simp only [isValueByte, Bool.or_eq_true, Bool.and_eq_true, decide_eq_true_eq, bne_iff_ne, ne_eq,
    UInt8.le_iff_toNat_le, ← UInt8.toNat_inj, hnat]
  exact .inl ⟨hlow, by simp; omega⟩

end Header

namespace Cookie

/-- The name and the path that were configured may stand in a header field. -/
def IsSendable (c : Cookie) : Prop :=
  (Header.value? c.name).isSome ∧ (Header.value? c.path).isSome

theorem isSome_value?_number (n : Nat) : (Header.value? (toString n)).isSome := by
  refine Header.isSome_value?_of_printable fun c hc => ?_
  have hdigit := Text.Decimal.isDigit_of_mem (String.toList_ofList ▸ hc)
  simp only [Text.Decimal.isDigit, Bool.and_eq_true, decide_eq_true_eq, Char.le_def] at hdigit
  have hlow : '0'.toNat ≤ c.toNat := hdigit.1
  have hhigh : c.toNat ≤ '9'.toNat := hdigit.2
  exact ⟨Nat.le_trans (by decide) hlow, Nat.lt_of_le_of_lt hhigh (by decide)⟩

/-- Whether a token can be handed out depends on the configuration alone. -/
theorem isSome_setValue? (c : Cookie) (id : Uuid) (maxAge : Nat) :
    (c.setValue? id.text maxAge).isSome ↔ c.IsSendable := by
  have hid := Header.isSome_value?_of_printable id.printable_text
  have hage := isSome_value?_number maxAge
  have hsite : (Header.value? c.sameSite.name).isSome := by cases c.sameSite <;> rfl
  have hsecure : (Header.value? (if c.isSecure then "; Secure" else "")).isSome := by
    cases c.isSecure <;> rfl
  have hwords : (Header.value? "=").isSome ∧ (Header.value? "; HttpOnly").isSome ∧
      (Header.value? "; SameSite=").isSome ∧ (Header.value? "; Path=").isSome ∧
      (Header.value? "; Max-Age=").isSome := ⟨rfl, rfl, rfl, rfl, rfl⟩
  obtain ⟨h₁, h₂, h₃, h₄, h₅⟩ := hwords
  simp only [setValue?, setText, Header.isSome_value?_append, hid, hage, hsite, hsecure, h₁, h₂, h₃,
    h₄, h₅, Bool.and_true, Bool.and_eq_true, IsSendable]

example : IsSendable {} := ⟨rfl, rfl⟩

end Cookie

end Http

end SessionAuth
