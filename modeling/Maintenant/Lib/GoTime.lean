/-
  File:      Maintenant/Lib/GoTime.lean
  Subject:   TIMES AND DURATIONS OF THE GO STANDARD LIBRARY, as far as arithmetic on them goes.

  An instant is its number of nanoseconds since the Unix epoch; `unix` is `Time.Unix()`, the
  whole seconds (rounded down); a duration is an int64 number of nanoseconds, so
  `time.Duration(n) * time.Second` wraps around (`seconds`).
-/
import Mathlib.Algebra.Ring.Int.Defs
import Mathlib.Algebra.Ring.Nat

namespace GoTime

/-- An instant, in nanoseconds since the Unix epoch. -/
abbrev Time := Int

/-- `time.Second`. -/
def second : Int := 1000000000

/-- `time.Millisecond`. -/
def millisecond : Int := 1000000

/-- `time.Time{}`: the first of January of the year 1. -/
def zeroTime : Time := -62135596800 * second

/-- `Time.Unix()`: whole seconds, rounded down. -/
def unix (t : Time) : Int := t / second

/-- `time.Unix(s, 0)`. -/
def ofUnix (s : Int) : Time := s * second

/-- The int64 a mathematical integer wraps to. -/
def int64 (n : Int) : Int := Int.bmod n (2 ^ 64)

/-- `time.Duration(n) * time.Second`. -/
def seconds (n : Int) : Int := int64 (n * second)

/-- The seconds a duration can hold: the product with `time.Second` does not wrap. -/
def FitsDuration (n : Int) : Prop := -9223372036 ≤ n ∧ n ≤ 9223372036

variable {n : Int}

theorem int64_of_range (h1 : -(2 ^ 63) ≤ n) (h2 : n < 2 ^ 63) : int64 n = n := by
  unfold int64
  rw [Int.bmod_eq_of_le] <;> omega

theorem seconds_eq (h : FitsDuration n) : seconds n = n * second := by
  obtain ⟨h1, h2⟩ := h
  unfold seconds second
  apply int64_of_range <;> omega

theorem unix_mono {t u : Time} (h : t ≤ u) : unix t ≤ unix u :=
  Int.ediv_le_ediv (by decide) h

/-- Whole seconds pass through the rounding. -/
theorem unix_add_seconds (h : FitsDuration n) (t : Time) : unix (t + seconds n) = unix t + n := by
  rw [seconds_eq h]
  unfold unix second
  omega

end GoTime
