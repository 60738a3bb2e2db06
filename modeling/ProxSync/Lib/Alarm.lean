import Mathlib
/-!
# Alarms on a level

A level is observed again and again, and an observation may raise an alarm of its level. Where an
alarm is raised at every rise into an alarming level, every alarming level that the latest
observation is at was alarmed since the level was last below it; and where an alarm is only raised
at a rise, no level is alarmed twice without an observation below it in between.
-/
namespace ProxSync.Lib

universe u

/-- A level that was observed, and whether an alarm was raised at it. -/
structure Observation (Level : Type u) where
  level : Level
  alarmed : Bool

variable {Level : Type u} [LinearOrder Level] {baseline level : Level}
  {observation : Observation Level} {earlier : List (Observation Level)}

/-- The level before the next observation; there is a baseline before the first. -/
def levelBefore (baseline : Level) (earlier : List (Observation Level)) : Level :=
  earlier.head?.elim baseline Observation.level

/-- Whether an alarm was raised since the level was last below one. -/
def RaisedSince (level : Level) (observations : List (Observation Level)) : Prop :=
  ∃ observation ∈ observations.takeWhile fun observation => decide (level ≤ observation.level),
    observation.alarmed = true

/-- Every alarming level that is reached was alarmed since the level was last below it. -/
def Vigilant (baseline : Level) (alarming : Level → Prop)
    (observations : List (Observation Level)) : Prop :=
  ∀ level, alarming level → level ≤ levelBefore baseline observations →
    RaisedSince level observations

/-- An observation at a level keeps its alarms. -/
theorem raisedSince_cons (reached : level ≤ observation.level) :
    RaisedSince level (observation :: earlier) ↔
      observation.alarmed = true ∨ RaisedSince level earlier := by
  unfold RaisedSince
  rw [List.takeWhile_cons_of_pos (by simpa using reached), List.exists_mem_cons_iff]

/-- Without observations nothing is missed where the baseline is calm. -/
theorem vigilant_nil {alarming : Level → Prop} (calm : ∀ level ≤ baseline, ¬ alarming level) :
    Vigilant baseline alarming [] :=
  fun level alarms reached => absurd alarms (calm level reached)

/-- An alarm at every rise into an alarming level keeps the watch. -/
theorem Vigilant.cons {alarming : Level → Prop}
    (upward : ∀ lower higher, lower ≤ higher → alarming lower → alarming higher)
    (vigilant : Vigilant baseline alarming earlier)
    (alarmed : alarming observation.level → levelBefore baseline earlier < observation.level →
      observation.alarmed = true) :
    Vigilant baseline alarming (observation :: earlier) := by
  intro level alarms reached
  rw [raisedSince_cons reached]
  by_cases rises : levelBefore baseline earlier < observation.level
  · exact .inl (alarmed (upward level _ reached alarms) rises)
  · exact .inr (vigilant level alarms (reached.trans (le_of_not_gt rises)))

/-- Two alarms of one level have an observation below it in between, where the later one was raised
at a rise. -/
theorem exists_below {later first : Observation Level} {between : List (Observation Level)}
    (same : first.level = later.level)
    (rises : levelBefore baseline (between ++ first :: earlier) < later.level) :
    ∃ observation ∈ between, observation.level < later.level := by
  cases between with
  | nil => exact absurd same (ne_of_lt rises)
  | cons second rest => exact ⟨second, List.mem_cons_self, rises⟩

end ProxSync.Lib
