namespace CanaryMetrics

/-!
# Instants

* `Instant` — a moment on the UTC time line: seconds from 1970-01-01T00:00:00Z and nanoseconds.
  Nanoseconds of 10⁹ and more stand for a leap second, which follows a second 59.
* `Instant.ofParts?` — the instant of a pair of numbers, when there is one.
* `Instant.ofParts?_eq_some_iff` — when that is.
-/

namespace Instant

/-- The first second of -262143-01-01. -/
def firstSecond : Int := -8334601228800

/-- The last second of +262142-12-31. -/
def lastSecond : Int := 8210266876799

/-- One billion, the number of nanoseconds in a second. -/
def nanosPerSecond : Nat := 1000000000

/-- The bound on the nanoseconds of a second: twice as high where a leap second can follow. -/
def nanosBound (seconds : Int) : Nat :=
  if seconds % 60 = 59 then 2 * nanosPerSecond else nanosPerSecond

end Instant

/-- A moment on the UTC time line, between the years -262143 and +262142. -/
structure Instant where
  /-- Whole seconds since 1970-01-01T00:00:00Z, rounded down. -/
  seconds : Int
  /-- Nanoseconds since the start of that second; 10⁹ and more in a leap second. -/
  nanos : Nat
  /-- The second is not before the first one. -/
  first_le : Instant.firstSecond ≤ seconds := by decide
  /-- The second is not after the last one. -/
  le_last : seconds ≤ Instant.lastSecond := by decide
  /-- There is a leap second after a second 59 only. -/
  nanos_lt : nanos < Instant.nanosBound seconds := by decide
deriving DecidableEq, Repr

namespace Instant

/-- The instant with these seconds and nanoseconds, if there is one. -/
def ofParts? (seconds : Int) (nanos : Nat) : Option Instant :=
  if h : firstSecond ≤ seconds ∧ seconds ≤ lastSecond ∧ nanos < nanosBound seconds then
    some ⟨seconds, nanos, h.1, h.2.1, h.2.2⟩
  else none

/-- Two instants with the same seconds and nanoseconds are the same instant. -/
@[ext]
theorem ext {s t : Instant} (hs : s.seconds = t.seconds) (hn : s.nanos = t.nanos) : s = t := by
  cases s; cases t; simp_all

/-- The parts of an instant give that instant. -/
@[simp]
theorem ofParts?_seconds_nanos (t : Instant) : ofParts? t.seconds t.nanos = some t := by
  simp [ofParts?, t.first_le, t.le_last, t.nanos_lt]

/-- A pair of numbers gives an instant exactly when it is the pair of that instant's parts. -/
theorem ofParts?_eq_some_iff {seconds : Int} {nanos : Nat} {t : Instant} :
    ofParts? seconds nanos = some t ↔ t.seconds = seconds ∧ t.nanos = nanos := by
  constructor
  · intro h
    unfold ofParts? at h
    split at h
    · cases h; exact ⟨rfl, rfl⟩
    · cases h
  · rintro ⟨rfl, rfl⟩
    exact ofParts?_seconds_nanos t

/-- Is the instant within a leap second? -/
def inLeapSecond (t : Instant) : Bool :=
  nanosPerSecond ≤ t.nanos

/-- A leap second follows a second 59. -/
theorem seconds_mod_of_inLeapSecond {t : Instant} (h : t.inLeapSecond = true) :
    t.seconds % 60 = 59 := by
  have hlt := t.nanos_lt
  simp only [inLeapSecond, decide_eq_true_eq] at h
  unfold nanosBound at hlt
  split at hlt
  · assumption
  · omega

/-! ### Unit test: where leap seconds can be -/

example : (ofParts? 59 1000000000).isSome = true ∧ ofParts? 60 1000000000 = none := by decide

end Instant

end CanaryMetrics
