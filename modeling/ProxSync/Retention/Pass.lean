import ProxSync.Lib.System
import ProxSync.Retention.Safety
/-!
# A retention pass as its commits divide it

A pass writes its first decisions in one commit, then takes its candidates one by one: it judges a
candidate again and closes that transaction, waits for the agent, and writes the mark and the
decision in the next one. What is stored between two steps is what a crash would leave. Nobody else
writes marks or decisions while the pass holds the guard, but other writers go on; a pass that is
not disturbed ends with what `apply` computes.
-/
open ProxSync.Lib

namespace ProxSync.Retention

/-- How far a pass is. -/
inductive PassStage
  | deciding
  /-- The candidates that are left; without any, the pass is over. -/
  | judging (rest : List PlannedDecision)
  /-- A deletion is at the agent, with the policy that decided it. -/
  | deleting (current : RetentionPolicySnapshot) (plan : PlannedDecision)
    (rest : List PlannedDecision)
  /-- An error or the end of the process broke it off. -/
  | aborted

/-- How the agent answered the deletion of a copy. -/
structure Answer where
  backupId : Nat
  location : RetentionLocation
  reply : DeleteReply
  deriving DecidableEq

/-- A pass under way. -/
structure PassRun where
  pass : PassState
  /-- The classification the pass started from. -/
  planned : List PlannedDecision
  /-- The agent's answers so far, latest first. -/
  answers : List Answer
  stage : PassStage

/-- What a pass does next, or what happens to it. -/
inductive PassAction
  | decide
  | judge
  | answer
  | interfere (db : Database)
  | die

namespace PassRun

/-- A pass that has not begun. -/
def fresh (db : Database) : PassRun := ⟨⟨db, [], [], none⟩, [], [], .deciding⟩

/-- Break the pass off with an error. -/
def abort (run : PassRun) (message : String) : PassRun :=
  { run with pass := { run.pass with raised := some message }, stage := .aborted }

/-- Classify every copy in scope and settle what needs no deletion. -/
def decide (run : PassRun) (input : PassInput) : PassRun :=
  let initialPolicy := policy input.settings run.pass.db input.backupId
  match plans initialPolicy run.pass.db input.backupId with
  | .error message => run.abort message
  | .ok planned =>
    { run with
      pass := planned.foldl (settleStatic input initialPolicy) run.pass
      planned := planned
      stage := .judging (candidates initialPolicy planned) }

/-- Judge a candidate again, and ask the agent to delete it if it still is one. -/
def judge (run : PassRun) (input : PassInput) (original : PlannedDecision)
    (rest : List PlannedDecision) : PassRun :=
  match revalidateCandidate input run.pass.db original with
  | .error message => run.abort message
  | .ok (current, plan) =>
    if !plan.wouldDelete || current.dryRun then
      let projected := if plan.wouldDelete && current.dryRun then some plan.sizeBytes else none
      { run with
        pass := run.pass.settle input plan (render plan) current projected
        stage := .judging rest }
    else
      { run with
        pass := { run.pass with
          calls := ⟨plan.backup, plan.location, run.pass.db⟩ :: run.pass.calls }
        stage := .deleting current plan rest }

/-- The number of the request that is at the agent. -/
def pending (run : PassRun) : Nat := run.pass.calls.length - 1

/-- Write what the agent's answer says. -/
def answer (run : PassRun) (input : PassInput) (current : RetentionPolicySnapshot)
    (plan : PlannedDecision) (rest : List PlannedDecision) : PassRun :=
  let reply := input.agent run.pending
  let written := delete run.pass.db plan reply (input.clock run.pending)
  { run with
    pass := PassState.settle { run.pass with db := written.1 } input plan written.2 current none
    answers := ⟨plan.backup.id, plan.location, reply⟩ :: run.answers
    stage := .judging rest }

/-- The pass ended and answered. -/
def completed (run : PassRun) : Bool :=
  match run.stage with
  | .judging [] => true
  | _ => false

end PassRun

/-- The effect of one action, or nothing where it cannot happen. -/
def passStep (input : PassInput) (run : PassRun) : PassAction → Option PassRun
  | .decide =>
    match run.stage with
    | .deciding => some (run.decide input)
    | _ => none
  | .judge =>
    match run.stage with
    | .judging (original :: rest) => some (run.judge input original rest)
    | _ => none
  | .answer =>
    match run.stage with
    | .deleting current plan rest => some (run.answer input current plan rest)
    | _ => none
  | .interfere db => some { run with pass := { run.pass with db := db } }
  | .die => some { run with stage := .aborted }

/-- One pass from a database. -/
def passSystem (input : PassInput) (start : Database) : System PassRun PassAction where
  init run := run = .fresh start
  step := passStep input

/-- The enabled actions and their effects. -/
inductive PassMoves (input : PassInput) (run : PassRun) : PassAction → PassRun → Prop
  | misplanned {message : String} (here : run.stage = .deciding)
      (unknown : plans (policy input.settings run.pass.db input.backupId) run.pass.db
        input.backupId = .error message) :
      PassMoves input run .decide (run.abort message)
  | decide {planned : List PlannedDecision} (here : run.stage = .deciding)
      (classified : plans (policy input.settings run.pass.db input.backupId) run.pass.db
        input.backupId = .ok planned) :
      PassMoves input run .decide { run with
        pass := planned.foldl
          (settleStatic input (policy input.settings run.pass.db input.backupId)) run.pass
        planned := planned
        stage := .judging (candidates (policy input.settings run.pass.db input.backupId)
          planned) }
  | misjudged {original : PlannedDecision} {rest : List PlannedDecision} {message : String}
      (here : run.stage = .judging (original :: rest))
      (unknown : revalidateCandidate input run.pass.db original = .error message) :
      PassMoves input run .judge (run.abort message)
  | spare {original plan : PlannedDecision} {rest : List PlannedDecision}
      {current : RetentionPolicySnapshot} {projected : Option Int}
      (here : run.stage = .judging (original :: rest))
      (judged : revalidateCandidate input run.pass.db original = .ok (current, plan))
      (spared : plan.wouldDelete = false ∨ current.dryRun = true)
      (amount : projected =
        if plan.wouldDelete && current.dryRun then some plan.sizeBytes else none) :
      PassMoves input run .judge { run with
        pass := run.pass.settle input plan (render plan) current projected
        stage := .judging rest }
  | ask {original plan : PlannedDecision} {rest : List PlannedDecision}
      {current : RetentionPolicySnapshot} (here : run.stage = .judging (original :: rest))
      (judged : revalidateCandidate input run.pass.db original = .ok (current, plan))
      (deletes : plan.wouldDelete = true) (real : current.dryRun = false) :
      PassMoves input run .judge { run with
        pass := { run.pass with
          calls := ⟨plan.backup, plan.location, run.pass.db⟩ :: run.pass.calls }
        stage := .deleting current plan rest }
  | answer {plan : PlannedDecision} {rest : List PlannedDecision}
      {current : RetentionPolicySnapshot} (here : run.stage = .deleting current plan rest) :
      PassMoves input run .answer (run.answer input current plan rest)
  | interfere {db : Database} :
      PassMoves input run (.interfere db) { run with pass := { run.pass with db := db } }
  | die : PassMoves input run .die { run with stage := .aborted }

section Moves

variable {input : PassInput} {run after : PassRun} {action : PassAction}

/-- Every enabled action is one of the listed moves. -/
theorem passStep_moves (stepped : passStep input run action = some after) :
    PassMoves input run action after := by
  cases action with
  | decide =>
    unfold passStep at stepped
    cases here : run.stage with
    | deciding =>
      rw [here] at stepped
      obtain rfl := Option.some.inj stepped
      unfold PassRun.decide
      dsimp only
      cases classified : plans (policy input.settings run.pass.db input.backupId) run.pass.db
          input.backupId with
      | error message => exact .misplanned here classified
      | ok planned => exact .decide here classified
    | judging | deleting | aborted => simp [here] at stepped
  | judge =>
    unfold passStep at stepped
    dsimp only at stepped
    split at stepped
    · rename_i original rest here
      obtain rfl := Option.some.inj stepped
      unfold PassRun.judge
      cases judged : revalidateCandidate input run.pass.db original with
      | error message => exact .misjudged here judged
      | ok answer =>
        obtain ⟨current, plan⟩ := answer
        dsimp only
        by_cases spared : (!plan.wouldDelete || current.dryRun) = true
        · rw [if_pos spared]
          exact .spare here judged (by simpa using spared) rfl
        · rw [if_neg spared]
          simp only [Bool.or_eq_true, Bool.not_eq_eq_eq_not, Bool.not_true, not_or,
            Bool.not_eq_false, Bool.not_eq_true] at spared
          exact .ask here judged spared.1 spared.2
    · cases stepped
  | answer =>
    unfold passStep at stepped
    dsimp only at stepped
    split at stepped
    · rename_i current plan rest here
      exact Option.some.inj stepped ▸ .answer here
    · cases stepped
  | interfere db => exact Option.some.inj stepped ▸ .interfere
  | die => exact Option.some.inj stepped ▸ .die

end Moves

/-! ## Refinement of `apply` -/

/-- Whether an action is a step of the pass itself. -/
def PassAction.isOwn : PassAction → Bool
  | .decide | .judge | .answer => true
  | .interfere _ | .die => false

/-- Nobody else does anything while the pass runs. -/
def Undisturbed (_ : PassRun) (action : PassAction) : Prop := action.isOwn = true

instance (run : PassRun) (action : PassAction) : Decidable (Undisturbed run action) :=
  inferInstanceAs (Decidable (action.isOwn = true))

/-- What is left to do ends with what the whole pass computes. -/
def Computes (input : PassInput) (start : Database) (run : PassRun) : Prop :=
  match run.stage with
  | .deciding => run.pass = ⟨start, [], [], none⟩
  | .judging rest => run.pass.raised = none ∧
    rest.foldl (applyCandidate input) run.pass = applyPass input start
  | .deleting current plan rest => run.pass.raised = none ∧
    rest.foldl (applyCandidate input) (run.answer input current plan rest).pass =
      applyPass input start
  | .aborted => run.pass = applyPass input start

section Refinement

variable {input : PassInput} {start : Database} {run after : PassRun} {action : PassAction}

/-- A pass that raised does not judge any more candidates. -/
theorem foldl_applyCandidate_raised (chosen : List PlannedDecision) {state : PassState}
    (raised : state.raised.isSome = true) :
    chosen.foldl (applyCandidate input) state = state := by
  induction chosen with
  | nil => rfl
  | cons original rest ih =>
    have idle : applyCandidate input state original = state := by
      unfold applyCandidate
      rw [if_pos raised]
    rw [List.foldl_cons, idle]
    exact ih

/-- The first decisions raise nothing. -/
theorem foldl_settleStatic_raised (current : RetentionPolicySnapshot)
    (planned : List PlannedDecision) (state : PassState) :
    (planned.foldl (settleStatic input current) state).raised = state.raised := by
  induction planned generalizing state with
  | nil => rfl
  | cons plan rest ih =>
    have same : (settleStatic input current state plan).raised = state.raised := by
      unfold settleStatic
      repeat' split
      all_goals rfl
    rw [List.foldl_cons, ih, same]

/-- One own step of the pass keeps what it ends with. -/
theorem moves_computes (computes : Computes input start run) (own : Undisturbed run action)
    (moved : PassMoves input run action after) : Computes input start after := by
  cases moved with
  | @misplanned message here unknown =>
    simp only [Computes, here] at computes
    rw [computes] at unknown
    simp only [Computes, PassRun.abort, computes, applyPass, unknown]
  | @decide planned here classified =>
    simp only [Computes, here] at computes
    rw [computes] at classified
    refine ⟨?_, ?_⟩
    · rw [foldl_settleStatic_raised, computes]
    · simp only [computes, applyPass, classified]
  | @misjudged original rest message here unknown =>
    simp only [Computes, here, List.foldl_cons] at computes
    obtain ⟨calm, rest_⟩ := computes
    have raises : applyCandidate input run.pass original =
        { run.pass with raised := some message } := by
      simp [applyCandidate, calm, unknown]
    rw [raises, foldl_applyCandidate_raised _ rfl] at rest_
    exact rest_
  | @spare original plan rest current projected here judged spared amount =>
    simp only [Computes, here, List.foldl_cons] at computes
    obtain ⟨calm, rest_⟩ := computes
    have settles : applyCandidate input run.pass original =
        run.pass.settle input plan (render plan) current projected := by
      have skips : (!plan.wouldDelete || current.dryRun) = true := by simpa using spared
      simp [applyCandidate, calm, judged, skips, amount]
    exact ⟨calm, settles ▸ rest_⟩
  | @ask original plan rest current here judged deletes real =>
    simp only [Computes, here, List.foldl_cons] at computes
    obtain ⟨calm, rest_⟩ := computes
    refine ⟨calm, Eq.trans ?_ rest_⟩
    congr 1
    simp [applyCandidate, calm, judged, deletes, real, PassRun.answer, PassRun.pending]
  | @answer plan rest current here =>
    simp only [Computes, here] at computes
    exact computes
  | interfere | die => cases own

/-- A pass that nobody disturbs ends with what `apply` computes. -/
theorem pass_refines_apply (reached : (passSystem input start).Reachable Undisturbed run)
    (over_ : run.stage = .judging [] ∨ run.stage = .aborted) :
    run.pass = applyPass input start := by
  have computes : Computes input start run := by
    refine reached.invariant_alone ⟨?_, ?_⟩
    · rintro _ rfl
      exact rfl
    · exact fun _ _ _ _ computes own stepped =>
        moves_computes computes own (passStep_moves stepped)
  rcases over_ with done | broken
  · simp only [Computes, done] at computes
    exact computes.2
  · simp only [Computes, broken] at computes
    exact computes

end Refinement

end ProxSync.Retention
