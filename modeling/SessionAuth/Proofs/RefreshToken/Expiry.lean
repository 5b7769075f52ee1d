import Mathlib.Tactic.ByContra
import SessionAuth.Proofs.RefreshToken.Lifetime

/-!
# Exact ends

Where a token ends is a number of nanoseconds, `RefreshToken.endTotal`, in arithmetic without
bounds. The end that a token has in the calendar is the instant with that number, and there is none
where the calendar has no such instant (`RefreshToken.expiresAt?_eq_some_iff`). So a token that a
policy issues has expired exactly from that number on (`RefreshToken.Policy.expiry_exact`):
lifetimes that are cut, spans that cannot be added and sums out of range all end behind the last
instant.
-/

namespace SessionAuth

namespace Instant

/-! ### Instants as numbers -/

/-- Nanoseconds from the epoch to the first instant. -/
def firstTotal : Int := -8334601228800 * 1000000000

/-- Nanoseconds from the epoch to the last instant. -/
def lastTotal : Int := 8210266876799 * 1000000000 + 999999999

theorem firstTotal_le (t : Instant) : firstTotal ≤ t.total := by
  have hfirst := t.first_le
  unfold total firstTotal
  omega

theorem le_lastTotal (t : Instant) : t.total ≤ lastTotal := by
  have hlast := t.le_last
  have hnanos := t.nanos_lt
  unfold total lastTotal
  omega

/-- Between the first and the last instant there is one for each nanosecond. -/
theorem exists_total_eq {n : Int} (hfirst : firstTotal ≤ n) (hlast : n ≤ lastTotal) :
    ∃ t : Instant, t.total = n := by
  unfold firstTotal at hfirst
  unfold lastTotal at hlast
  refine ⟨⟨n / 1000000000, (n % 1000000000).toNat, by omega, by omega, by omega⟩, ?_⟩
  simp only [total]
  omega

/-- Spans are added as numbers are, to all instants that are there. -/
theorem plusSeconds?_eq_some_iff_total {t e : Instant} {span : Int} :
    t.plusSeconds? span = some e ↔ e.total = t.total + span * 1000000000 := by
  have ht := t.firstTotal_le
  have ht' := t.le_lastTotal
  have he := e.firstTotal_le
  have he' := e.le_lastTotal
  have hnanos := t.nanos_lt
  have hnanos' := e.nanos_lt
  rw [plusSeconds?_eq_some_iff]
  unfold firstTotal lastTotal at *
  unfold longestSpan total at *
  omega

end Instant

namespace RefreshToken

variable {t : RefreshToken} {now later e : Instant}

/-- Where the token ends, in nanoseconds from the epoch. -/
def endTotal (t : RefreshToken) : Int := t.createdAt.total + t.lifetime * 1000000000

theorem expiresAt?_eq_some_iff : t.expiresAt? = some e ↔ e.total = t.endTotal :=
  Instant.plusSeconds?_eq_some_iff_total

theorem expiresAt?_eq_none_iff :
    t.expiresAt? = none ↔ t.endTotal < Instant.firstTotal ∨ Instant.lastTotal < t.endTotal := by
  constructor
  · intro hnone
    by_contra hin
    rw [not_or, Int.not_lt, Int.not_lt] at hin
    obtain ⟨e, he⟩ := Instant.exists_total_eq hin.1 hin.2
    rw [expiresAt?_eq_some_iff.2 he] at hnone
    cases hnone
  · intro hout
    rw [Option.eq_none_iff_forall_ne_some]
    intro e he
    have heq := expiresAt?_eq_some_iff.1 he
    have hfirst := e.firstTotal_le
    have hlast := e.le_lastTotal
    omega

/-- The token has an end, at or after the first instant, and now is not before it. -/
def HasEndedBy (t : RefreshToken) (now : Instant) : Prop :=
  Instant.firstTotal ≤ t.endTotal ∧ t.endTotal ≤ now.total

instance (t : RefreshToken) (now : Instant) : Decidable (t.HasEndedBy now) :=
  inferInstanceAs (Decidable (_ ∧ _))

/-- A token has expired from its end on, unless the end lies before the first instant. -/
theorem isExpiredAt_iff : t.isExpiredAt now = true ↔ t.HasEndedBy now := by
  unfold isExpiredAt HasEndedBy
  rw [Option.any_eq_true]
  constructor
  · rintro ⟨e, he, hle⟩
    have hle : e.total ≤ now.total := of_decide_eq_true hle
    have hfirst := e.firstTotal_le
    rw [expiresAt?_eq_some_iff] at he
    omega
  · rintro ⟨hfirst, hle⟩
    obtain ⟨e, he⟩ := Instant.exists_total_eq hfirst (Int.le_trans hle now.le_lastTotal)
    have hle : e ≤ now := by
      show e.total ≤ now.total
      omega
    exact ⟨e, expiresAt?_eq_some_iff.2 he, decide_eq_true hle⟩

/-- What has expired stays so. -/
theorem isExpiredAt_of_le (h : t.isExpiredAt now = true) (hle : now ≤ later) :
    t.isExpiredAt later = true := by
  have hle : now.total ≤ later.total := hle
  rw [isExpiredAt_iff] at h ⊢
  unfold HasEndedBy at h ⊢
  omega

namespace Policy

/-- A lifetime that is cut, and what it is cut to, end behind the last instant alike. -/
theorem lastTotal_lt_of_cut {seconds : Nat} (h : maxLifetime ≤ seconds) (createdAt : Instant) :
    Instant.lastTotal < createdAt.total + seconds * 1000000000 := by
  have hmax : maxLifetime = 9223372036854775807 := by decide
  have hfirst := createdAt.firstTotal_le
  unfold Instant.firstTotal at hfirst
  unfold Instant.lastTotal
  omega

/-- The end of a token under a policy is the one that was configured, or both are behind the last
instant. -/
theorem endTotal_issue (seconds quota : Nat) (id : RefreshTokenId) (owner : UserId)
    (f : Fingerprint) (createdAt : Instant) :
    let configured := createdAt.total + seconds * 1000000000
    let t := (ofSeconds seconds quota).issue id owner f createdAt
    t.endTotal = configured ∨ Instant.lastTotal < t.endTotal ∧ Instant.lastTotal < configured := by
  by_cases hcut : seconds ≤ maxLifetime
  · left
    simp only [endTotal, issue, lifetime_ofSeconds hcut]
  · have hle : maxLifetime ≤ seconds := Nat.le_of_not_le hcut
    have hlifetime : (ofSeconds seconds quota).lifetime = maxLifetime :=
      Int.min_eq_right (Int.ofNat_le.2 hle)
    right
    simp only [endTotal, issue, hlifetime]
    exact ⟨lastTotal_lt_of_cut (Nat.le_refl _) createdAt, lastTotal_lt_of_cut hle createdAt⟩

/-- A token that is issued has expired exactly from its creation and the configured seconds on. The
calendar has its end wherever it has that instant, and where it has none, no instant gets there. -/
theorem expiry_exact (seconds quota : Nat) (id : RefreshTokenId) (owner : UserId)
    (f : Fingerprint) (createdAt : Instant) :
    let configured := createdAt.total + seconds * 1000000000
    let t := (ofSeconds seconds quota).issue id owner f createdAt
    (∀ now : Instant, t.isExpiredAt now = true ↔ configured ≤ now.total) ∧
      (∀ e : Instant, t.expiresAt? = some e ↔ e.total = configured) ∧
      (t.expiresAt? = none ↔ ∀ now : Instant, now.total < configured) := by
  intro configured t
  have hstart : Instant.firstTotal ≤ configured := by
    have hfirst := createdAt.firstTotal_le
    omega
  have hend : t.endTotal = configured ∨ Instant.lastTotal < t.endTotal ∧
      Instant.lastTotal < configured := endTotal_issue seconds quota id owner f createdAt
  refine ⟨fun now => ?_, fun e => ?_, ?_⟩
  · have hlast := now.le_lastTotal
    rw [isExpiredAt_iff, HasEndedBy]
    omega
  · have hlast := e.le_lastTotal
    rw [expiresAt?_eq_some_iff]
    omega
  · rw [expiresAt?_eq_none_iff]
    constructor
    · intro hout now
      have hlast := now.le_lastTotal
      omega
    · intro hall
      by_contra hin
      have hlast : configured ≤ Instant.lastTotal := by omega
      obtain ⟨e, he⟩ := Instant.exists_total_eq hstart hlast
      have hlt := hall e
      omega

end Policy

end RefreshToken

end SessionAuth
