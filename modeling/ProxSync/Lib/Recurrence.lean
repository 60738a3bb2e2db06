import Mathlib
/-!
# Recurring instants

A recurrence is an unbounded set of instants with the function that finds the first of them from any
instant on. Whether some instant of the set falls into a stretch of time is read off that function.
-/
namespace ProxSync.Lib

universe u

/-- Instants that recur without end. -/
structure Recurrence (τ : Type u) [LinearOrder τ] where
  /-- The instants. -/
  fires : τ → Prop
  /-- The first of them from an instant on. -/
  next : τ → τ
  fires_next : ∀ start, fires (next start)
  le_next : ∀ start, start ≤ next start
  least : ∀ start instant, fires instant → start ≤ instant → next start ≤ instant

namespace Recurrence

variable {τ : Type u} [LinearOrder τ] {recurrence : Recurrence τ} {start stop instant : τ}

/-- The first instant comes before the end of a stretch exactly when the stretch has one. -/
theorem next_lt_iff : recurrence.next start < stop ↔
    ∃ instant, recurrence.fires instant ∧ start ≤ instant ∧ instant < stop := by
  constructor
  · exact fun before =>
      ⟨recurrence.next start, recurrence.fires_next start, recurrence.le_next start, before⟩
  · rintro ⟨instant, fires, after, before⟩
    exact (recurrence.least _ _ fires after).trans_lt before

/-- A stretch whose ends have the same first instant has none. -/
theorem not_fires_of_next_eq (same : recurrence.next start = recurrence.next stop)
    (fires : recurrence.fires instant) (after : start ≤ instant) : stop ≤ instant :=
  ((recurrence.le_next stop).trans same.ge).trans (recurrence.least _ _ fires after)

/-- The last instant of a stretch that has one. -/
structure IsLatest (recurrence : Recurrence τ) (start stop instant : τ) : Prop where
  fires : recurrence.fires instant
  after : start ≤ instant
  before : instant < stop
  latest : ∀ other, recurrence.fires other → start ≤ other → other < stop → other ≤ instant

/-- The multiples of a period. -/
def every (period : Nat) (pos : 0 < period) : Recurrence Nat where
  fires instant := period ∣ instant
  next start := (start + (period - 1)) / period * period
  fires_next _ := Nat.dvd_mul_left ..
  le_next start := by
    have := Nat.div_add_mod (start + (period - 1)) period
    have := Nat.mod_lt (start + (period - 1)) pos
    rw [Nat.mul_comm]
    omega
  least start instant := by
    rintro ⟨count, rfl⟩ after
    have below : (start + (period - 1)) / period < count + 1 := by
      rw [Nat.div_lt_iff_lt_mul pos, Nat.add_mul, Nat.mul_comm count]
      omega
    rw [Nat.mul_comm period]
    exact Nat.mul_le_mul_right period (Nat.le_of_lt_succ below)

end Recurrence

end ProxSync.Lib
