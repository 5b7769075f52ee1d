/-!
# Points in time

An instant is a number of seconds since the start of 1970 and a fraction in nanoseconds, within
the years that the calendar of the program covers. Adding seconds may leave that range. The calendar
has a second form for instants within a leap second, with a fraction of one second or more. No clock
yields it, and it is left out.
-/

namespace SessionAuth

/-- A point in time of the covered range. -/
structure Instant where
  seconds : Int
  nanos : Nat
  nanos_lt : nanos < 1000000000
  first_le : -8334601228800 ≤ seconds
  le_last : seconds ≤ 8210266876799
deriving DecidableEq

namespace Instant

/-- The instant with these parts, if it is in the range. -/
def of? (seconds : Int) (nanos : Nat) : Option Instant :=
  if h : nanos < 1000000000 ∧ -8334601228800 ≤ seconds ∧ seconds ≤ 8210266876799 then
    some ⟨seconds, nanos, h.1, h.2.1, h.2.2⟩
  else none

/-- The start of 1970. -/
def epoch : Instant := ⟨0, 0, by decide, by decide, by decide⟩

instance : Inhabited Instant := ⟨epoch⟩

/-- Nanoseconds since the epoch, which order the instants. -/
def total (t : Instant) : Int := t.seconds * 1000000000 + t.nanos

instance : LE Instant := ⟨fun a b => a.total ≤ b.total⟩

instance (a b : Instant) : Decidable (a ≤ b) := inferInstanceAs (Decidable (a.total ≤ b.total))

/-- The longest span of seconds that can be added, either way. -/
def longestSpan : Int := 9223372036854775

/-- The instant `span` seconds later, unless the span or the result is out of range. -/
def plusSeconds? (t : Instant) (span : Int) : Option Instant :=
  if -longestSpan ≤ span ∧ span ≤ longestSpan then of? (t.seconds + span) t.nanos else none

end Instant

end SessionAuth
