import Mathlib.Logic.Basic
/-!
# Dealings with another party

One party asks another to do something under a name, and learns that the request was refused or
what became of the task it was taken on as. An answer may be lost, so that neither is learned. A
row that tells the outcome of a request is supported when the outcome was reported for its task,
when the request was refused, or when nobody asked.
-/
namespace ProxSync.Lib

/-- What was asked for and what was learned. -/
structure Dealings (Id Task Outcome : Type) where
  asked : Id → Prop
  refused : Id → Prop
  reported : Id → Task → Outcome → Prop

/-- The outcome of a request, with the task the request was taken on as. -/
structure Finding (Id Task Outcome : Type) where
  id : Id
  task : Option Task
  outcome : Outcome
  deriving DecidableEq

namespace Dealings

variable {Id Task Outcome Row : Type}

/-- The finding follows from what was learned. -/
inductive Supports (dealings : Dealings Id Task Outcome) (finding : Finding Id Task Outcome) : Prop
  | reported {task : Task} (known : finding.task = some task)
      (noted : dealings.reported finding.id task finding.outcome) : Supports dealings finding
  | refused (noted : dealings.refused finding.id) : Supports dealings finding
  | unasked (never : ¬ dealings.asked finding.id) : Supports dealings finding

/-- Every finding of a row follows from what was learned. -/
def Honest (dealings : Dealings Id Task Outcome) (rows : Row → Prop)
    (finding : Row → Option (Finding Id Task Outcome)) : Prop :=
  ∀ row, rows row → ∀ found, finding row = some found → dealings.Supports found

/-- Nothing learned is lost, and the request was not made in between. -/
structure Grows (before after : Dealings Id Task Outcome) (id : Id) : Prop where
  asked : after.asked id → before.asked id
  refused : before.refused id → after.refused id
  reported : ∀ task outcome, before.reported id task outcome → after.reported id task outcome

variable {before after dealings : Dealings Id Task Outcome} {rows later : Row → Prop}
  {finding : Row → Option (Finding Id Task Outcome)}

/-- What follows from less follows from more. -/
theorem Supports.grow {found : Finding Id Task Outcome} (supported : before.Supports found)
    (grows : Grows before after found.id) : after.Supports found := by
  cases supported with
  | reported known noted => exact .reported known (grows.reported _ _ noted)
  | refused noted => exact .refused (grows.refused noted)
  | unasked never => exact .unasked fun asked => never (grows.asked asked)

/-- Rows stay honest while more is learned and no row with a finding is asked for. -/
theorem Honest.grow (honest : before.Honest rows finding)
    (grows : ∀ row, rows row → ∀ found, finding row = some found → Grows before after found.id) :
    after.Honest rows finding :=
  fun row stored found tells => (honest row stored found tells).grow (grows row stored found tells)

/-- Rows stay honest where every finding was one before or follows from what was learned. -/
theorem Honest.carry (honest : dealings.Honest rows finding)
    (back : ∀ row, later row → ∀ found, finding row = some found →
      (∃ old, rows old ∧ finding old = some found) ∨ dealings.Supports found) :
    dealings.Honest later finding := by
  intro row stored found tells
  rcases back row stored found tells with ⟨old, oldStored, same⟩ | supported
  · exact honest old oldStored found same
  · exact supported

end Dealings

end ProxSync.Lib
