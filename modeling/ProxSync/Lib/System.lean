import Mathlib.Order.Basic
/-!
# Guarded transition systems

A system gives its initial states and a partial step for each label. A guard says which steps a
set of runs is restricted to, so the trivial guard describes every run. Invariants are proved
step by step over the guarded reachable states, one on top of another, and a list of labels is
executed by `runFrom`, which turns an evaluation into a reachable state.
-/
namespace ProxSync.Lib

universe u v

/-- Initial states and the partial step function of a labelled transition system. -/
structure System (σ : Type u) (Label : Type v) where
  /-- States a run may start from. -/
  init : σ → Prop
  /-- The state after a label, or nothing where the label is not enabled. -/
  step : σ → Label → Option σ

namespace System

variable {σ : Type u} {Label : Type v}

/-- The guard that restricts no step. -/
def unguarded : σ → Label → Prop := fun _ _ => True

instance (state : σ) (label : Label) : Decidable (unguarded state label) :=
  inferInstanceAs (Decidable True)

/-- States of the runs all of whose steps satisfy the guard. -/
inductive Reachable (system : System σ Label) (allow : σ → Label → Prop) : σ → Prop
  /-- Every initial state is reached. -/
  | start {state : σ} (initial : system.init state) : Reachable system allow state
  /-- An allowed step of a reached state reaches its result. -/
  | next {state after : σ} {label : Label} (reached : Reachable system allow state)
      (allowed : allow state label) (stepped : system.step state label = some after) :
      Reachable system allow after

/-- What a guarded step preserves, given facts already known of every reachable state. -/
structure Preserved (system : System σ Label) (allow : σ → Label → Prop) (known inv : σ → Prop) :
    Prop where
  /-- The initial states satisfy the invariant. -/
  start : ∀ state, system.init state → inv state
  /-- An allowed step from a state with the known facts keeps the invariant. -/
  next : ∀ state label after, known state → inv state → allow state label →
    system.step state label = some after → inv after

variable {system : System σ Label} {allow : σ → Label → Prop} {known inv : σ → Prop}

/-- A preserved predicate holds of every reachable state whose run keeps the known facts. -/
theorem Reachable.invariant {state : σ} (reached : system.Reachable allow state)
    (known_reached : ∀ state, system.Reachable allow state → known state)
    (preserved : system.Preserved allow known inv) : inv state := by
  induction reached with
  | start initial => exact preserved.start _ initial
  | next reached allowed stepped holds =>
    exact preserved.next _ _ _ (known_reached _ reached) holds allowed stepped

/-- A preserved predicate that needs no other fact holds of every reachable state. -/
theorem Reachable.invariant_alone {state : σ} (reached : system.Reachable allow state)
    (preserved : system.Preserved allow (fun _ => True) inv) : inv state :=
  reached.invariant (fun _ _ => trivial) preserved

/-- What is reached under a guard is reached under a weaker one. -/
theorem Reachable.mono {weaker : σ → Label → Prop} {state : σ}
    (reached : system.Reachable allow state)
    (weakens : ∀ state label, allow state label → weaker state label) :
    system.Reachable weaker state := by
  induction reached with
  | start initial => exact .start initial
  | next _ allowed stepped ih => exact .next ih (weakens _ _ allowed) stepped

/-- The steps of a system from one state on. -/
def startingAt (system : System σ Label) (state : σ) : System σ Label where
  init := (· = state)
  step := system.step

/-- What is reached from a reached state under its guard is reached under it. -/
theorem Reachable.onward {state after : σ} (reached : system.Reachable allow state)
    (onward : (system.startingAt state).Reachable allow after) :
    system.Reachable allow after := by
  induction onward with
  | start initial => exact initial ▸ reached
  | next _ allowed stepped ih => exact .next ih allowed stepped

/-- What is reached from a reached state is reached. -/
theorem Reachable.trans {state after : σ} {later : σ → Label → Prop}
    (reached : system.Reachable unguarded state)
    (onward : (system.startingAt state).Reachable later after) :
    system.Reachable unguarded after :=
  reached.onward (onward.mono fun _ _ _ => trivial)

section Running

variable [∀ state label, Decidable (allow state label)]

/-- Execute labels in order, stopping at the first one that is not allowed or not enabled. -/
def runFrom (system : System σ Label) (allow : σ → Label → Prop)
    [∀ state label, Decidable (allow state label)] (state : σ) : List Label → Option σ
  | [] => some state
  | label :: rest =>
    if allow state label then
      match system.step state label with
      | none => none
      | some after => runFrom system allow after rest
    else none

/-- An execution from a reachable state ends in a reachable state. -/
theorem runFrom_reachable {state after : σ} {labels : List Label}
    (reached : system.Reachable allow state)
    (executed : system.runFrom allow state labels = some after) :
    system.Reachable allow after := by
  induction labels generalizing state with
  | nil =>
    simp only [runFrom, Option.some.injEq] at executed
    exact executed ▸ reached
  | cons label rest ih =>
    unfold runFrom at executed
    by_cases allowed : allow state label
    · rw [if_pos allowed] at executed
      cases stepped : system.step state label with
      | none => simp [stepped] at executed
      | some middle =>
        simp only [stepped] at executed
        exact ih (.next reached allowed stepped) executed
    · simp [if_neg allowed] at executed

/-- An execution whose last state passes a test shows a reachable state that passes it. -/
theorem exists_of_runFrom {state : σ} (initial : system.init state) (labels : List Label)
    (test : σ → Bool)
    (passed : (system.runFrom allow state labels).any test = true) :
    ∃ after, system.Reachable allow after ∧ test after = true := by
  cases executed : system.runFrom allow state labels with
  | none => simp [executed] at passed
  | some after =>
    simp only [executed, Option.any_some] at passed
    exact ⟨after, runFrom_reachable (.start initial) executed, passed⟩

end Running

end System

end ProxSync.Lib
