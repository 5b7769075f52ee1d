import SessionAuth.Config.Session

/-!
# Exact lifetimes

A lifetime of at most ten years is neither cut by the policy nor too long for the calendar, if the
calendar goes on for as long (`RefreshToken.livesFor_issue`).
-/

namespace SessionAuth

namespace Instant

variable {now e : Instant} {span longer : Int}

/-- Spans are added exactly, or not at all. -/
theorem plusSeconds?_eq_some_iff : now.plusSeconds? span = some e ↔
    (-longestSpan ≤ span ∧ span ≤ longestSpan) ∧
      e.seconds = now.seconds + span ∧ e.nanos = now.nanos := by
  obtain ⟨seconds, nanos, hnanos, hfirst, hlast⟩ := e
  unfold plusSeconds? of?
  constructor
  · intro h
    split at h
    next hspan =>
      split at h
      · cases h
        exact ⟨hspan, rfl, rfl⟩
      · cases h
    · cases h
  · rintro ⟨hspan, rfl, rfl⟩
    rw [if_pos hspan, dif_pos ⟨hnanos, hfirst, hlast⟩]

/-- A shorter span leads to an instant if a longer one does. -/
theorem exists_plusSeconds? (h : (now.plusSeconds? longer).isSome) (hpos : 0 ≤ span)
    (hle : span ≤ longer) : ∃ e, now.plusSeconds? span = some e ∧
      e.seconds = now.seconds + span ∧ e.nanos = now.nanos := by
  obtain ⟨last, hlast⟩ := Option.isSome_iff_exists.1 h
  obtain ⟨⟨-, hlongest⟩, hseconds, -⟩ := plusSeconds?_eq_some_iff.1 hlast
  have hfirst := now.first_le
  have hend := last.le_last
  have hspan : -longestSpan ≤ span ∧ span ≤ longestSpan := by
    unfold longestSpan at hlongest ⊢
    omega
  let e : Instant := ⟨now.seconds + span, now.nanos, now.nanos_lt, by omega, by omega⟩
  exact ⟨e, plusSeconds?_eq_some_iff.2 ⟨hspan, rfl, rfl⟩, rfl, rfl⟩

end Instant

namespace RefreshToken

/-- The token lives for a number of seconds from an instant on: no more, no less, and not for
ever. -/
structure LivesFor (t : RefreshToken) (now : Instant) (seconds : Nat) : Prop where
  lifetime : t.lifetime = seconds
  createdAt : t.createdAt = now
  expiresAt : ∃ e, t.expiresAt? = some e ∧ e.seconds = now.seconds + seconds ∧ e.nanos = now.nanos

theorem Policy.lifetime_ofSeconds {seconds : Nat} (h : seconds ≤ maxLifetime) (quota : Nat) :
    (ofSeconds seconds quota).lifetime = seconds :=
  Int.min_eq_left (Int.ofNat_le.2 h)

/-- A token that is issued lives for the lifetime that was configured. -/
theorem livesFor_issue {c : Config.Session} {now : Instant} {longest : Nat}
    (hlongest : (now.plusSeconds? longest).isSome) (hle : c.refreshLifetime ≤ longest)
    (id : RefreshTokenId) (owner : UserId) (f : Fingerprint) :
    (c.refreshPolicy.issue id owner f now).LivesFor now c.refreshLifetime := by
  obtain ⟨last, hlast⟩ := Option.isSome_iff_exists.1 hlongest
  obtain ⟨⟨-, hspan⟩, -⟩ := Instant.plusSeconds?_eq_some_iff.1 hlast
  have hmax : c.refreshLifetime ≤ maxLifetime := by
    have hvalue : maxLifetime = 9223372036854775807 := by decide
    unfold Instant.longestSpan at hspan
    omega
  have hlifetime : c.refreshPolicy.lifetime = c.refreshLifetime :=
    Policy.lifetime_ofSeconds hmax c.quota
  refine ⟨hlifetime, rfl, ?_⟩
  have hend : (c.refreshPolicy.issue id owner f now).expiresAt? =
      now.plusSeconds? c.refreshLifetime := congrArg now.plusSeconds? hlifetime
  rw [hend]
  exact Instant.exists_plusSeconds? hlongest (Int.natCast_nonneg _) (Int.ofNat_le.2 hle)

end RefreshToken

end SessionAuth
