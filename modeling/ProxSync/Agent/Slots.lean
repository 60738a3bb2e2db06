import ProxSync.Agent.Task
import ProxSync.Lib.Procedure
import ProxSync.Lib.System
/-!
# Slots of the agent

A backup, a restore and a transfer each take a slot when they are requested and give it back at the
end of the background execution of their task. An execution is a procedure whose commands and
journal writes may raise: whatever raises is caught, the task is closed as failed, and the slot is
released last. The slots are counted on every path. The journal write that closes a task may itself
raise while it cleans up after a failed write, and then the task is closed a second time.
-/
open ProxSync.Lib ProxSync.Lib.Proc

namespace ProxSync.Agent

/-- The slots. -/
inductive Slot
  | backup
  | restore
  | sync
  deriving DecidableEq, Repr

/-- What a command came to. -/
structure ProcessResult where
  exitCode : ℤ
  timedOut : Bool
  cancelled : Bool
  deriving DecidableEq, Repr

/-- Whether a command succeeded. -/
def ProcessResult.ok (result : ProcessResult) : Bool :=
  result.exitCode == 0 && !result.timedOut && !result.cancelled

/-- The steps of an execution. Those that change a task also write its journal file. -/
inductive Step
  | markRunning
  | updateProgress
  | finish (state : TaskState)
  | release (slot : Slot)
  | stopGuest
  | run
  | startGuest
  | collectArtifact
  | verify
  deriving DecidableEq, Repr

/-- What a step answers. -/
@[reducible] def Answer : Step → Type
  | .stopGuest | .run | .startGuest => ProcessResult
  | .verify => Bool
  | .markRunning | .updateProgress | .finish _ | .release _ | .collectArtifact => Unit

/-- An execution or a part of one. -/
abbrev Execution := Proc Step Answer Unit

/-- One step, with its answer. -/
def ask (step : Step) : Proc Step Answer (Answer step) := call step

/-- A step whose answer is not used. -/
def act (step : Step) (follow : Execution) : Execution := (ask step).andThen fun _ => follow

/-- Close a task. -/
def finish (state : TaskState) : Execution := act (.finish state) (.result ())

/-- Run the command of a task, and go on if it succeeded. -/
def runCommand (follow : Execution) : Execution :=
  (ask .run).andThen fun result =>
    if result.cancelled then finish .cancelled
    else if result.timedOut then finish .failed
    else if !result.ok then finish .failed
    else follow

/-- What a service executes for a request. -/
inductive SlotJob
  | backup
  | restore (stopFirst startAfter : Bool)
  | transfer (verifies : Bool)
  deriving DecidableEq, Repr

/-- The slot a job takes. -/
def SlotJob.slot : SlotJob → Slot
  | .backup => .backup
  | .restore _ _ => .restore
  | .transfer _ => .sync

/-- The execution of a backup before its handlers. -/
def backupBody : Execution :=
  act .markRunning (runCommand (act .collectArtifact (finish .success)))

/-- The command of a restore, with the start of the guest after it. -/
def restoreCommand (startAfter : Bool) : Execution :=
  act .updateProgress (runCommand
    (if startAfter then
      (ask .startGuest).andThen fun _ => finish .success
    else finish .success))

/-- The execution of a restore before its handlers. -/
def restoreBody (stopFirst startAfter : Bool) : Execution :=
  act .markRunning
    (if stopFirst then
      act .updateProgress ((ask .stopGuest).andThen fun result =>
        if !result.ok then finish .failed else restoreCommand startAfter)
    else restoreCommand startAfter)

/-- The execution of a transfer before its handlers. -/
def transferBody (verifies : Bool) : Execution :=
  act .markRunning (runCommand
    (if verifies then
      (ask .verify).andThen fun verified =>
        if !verified then finish .failed else finish .success
    else finish .success))

/-- The execution of a job before its handlers. -/
def SlotJob.body : SlotJob → Execution
  | .backup => backupBody
  | .restore stopFirst startAfter => restoreBody stopFirst startAfter
  | .transfer verifies => transferBody verifies

/-- The execution of a job: whatever raises closes the task as failed, and the slot is released. -/
def SlotJob.execute (job : SlotJob) : Execution :=
  (job.body.except (finish .failed)).ensure (act (.release job.slot) (.result ()))

/-! ## The agent -/

/-- What the steps of an execution have changed of its own. -/
structure Ledger where
  state : TaskState
  /-- The states the task was closed with. -/
  finished : List TaskState
  /-- The slots the execution gave back. -/
  releases : List Slot
  steps : Nat
  deriving DecidableEq, Repr

/-- The effect of a step on the ledger of its execution. -/
def record (ledger : Ledger) : Step → Ledger
  | .markRunning => { ledger with state := .running, steps := ledger.steps + 1 }
  | .finish state =>
    { ledger with state, finished := ledger.finished ++ [state], steps := ledger.steps + 1 }
  | .release slot =>
    { ledger with releases := ledger.releases ++ [slot], steps := ledger.steps + 1 }
  | _ => { ledger with steps := ledger.steps + 1 }

/-- A task the registry has created: its job, whether the request was accepted, its ledger, and what
is left to do of its execution. -/
structure Entry where
  job : SlotJob
  accepted : Bool
  ledger : Ledger
  rest : Execution

/-- Whether something is left to do of an execution. -/
def Entry.inFlight (entry : Entry) : Bool :=
  match entry.rest with
  | .await _ _ _ _ => true
  | _ => false

/-- The slots in use and the tasks of the registry. -/
structure AgentState where
  inUse : Slot → Nat
  entries : List Entry

namespace AgentState

/-- Take a slot. -/
def acquire (state : AgentState) (slot : Slot) : AgentState :=
  { state with inUse := Function.update state.inUse slot (state.inUse slot + 1) }

/-- Give a slot back. -/
def release (state : AgentState) (slot : Slot) : AgentState :=
  { state with inUse := Function.update state.inUse slot (state.inUse slot - 1) }

/-- The effect of a step on the slots. -/
def perform (state : AgentState) : Step → AgentState
  | .release slot => state.release slot
  | _ => state

end AgentState

/-- A task that was created. -/
def Ledger.created : Ledger := ⟨.queued, [], [], 0⟩

/-- What happens next: a request, refused or not and with a journal write that succeeds or not, or a
step of an execution that answers or raises. -/
inductive TaskEvent
  | request (job : SlotJob) (valid created : Bool)
  | answer (index : Nat) (reply : ∀ step, Answer step)
  | raise (index : Nat)

/-- Whether a step may raise. Releasing a slot is a decrement. -/
def mayRaise : Step → Bool
  | .release _ => false
  | _ => true

/-- Go on with an execution after one of its steps. -/
def AgentState.goOn (state : AgentState) (index : Nat) (entry : Entry) (step : Step)
    (rest : Execution) : AgentState :=
  let after := state.perform step
  { after with
    entries := after.entries.set index { entry with ledger := record entry.ledger step, rest } }

/-- The state after an event, or nothing where it cannot happen. -/
def agentStep (capacity : Slot → Nat) (state : AgentState) : TaskEvent → Option AgentState
  | .request job valid created =>
    if !valid then some state
    else if capacity job.slot ≤ state.inUse job.slot then some state
    else
      let acquired := state.acquire job.slot
      if created then
        some { acquired with entries := acquired.entries ++ [⟨job, true, .created, job.execute⟩] }
      else
        -- The task stays in the registry, but nothing executes it.
        some { acquired.release job.slot with
          entries := acquired.entries ++ [⟨job, false, ⟨.queued, [], [job.slot], 0⟩, .result ()⟩] }
  | .answer index reply =>
    match state.entries[index]? with
    | some entry =>
      match entry.rest with
      | .await _ step next _ => some (state.goOn index entry step (next (reply step)))
      | _ => none
    | none => none
  | .raise index =>
    match state.entries[index]? with
    | some entry =>
      match entry.rest with
      | .await _ step _ raised =>
        if mayRaise step then some (state.goOn index entry step raised) else none
      | _ => none
    | none => none

/-- An agent process. -/
def agent (capacity : Slot → Nat) : System AgentState TaskEvent where
  init state := state = ⟨fun _ => 0, []⟩
  step := agentStep capacity

/-! ## The stages of an execution -/

/-- Whether a step neither closes the task nor releases the slot. -/
def works : Step → Bool
  | .finish _ | .release _ => false
  | _ => true

section Stages

variable {quiet : Step → Prop} {during opened closed escaped final : Ledger → Prop}
variable {ledger : Ledger}

/-- Predicates on the ledger before a task is closed, after it was, and after the handler failed to
close it, that the steps of an execution lead through. -/
structure Stages (quiet : Step → Prop) (during opened closed escaped : Ledger → Prop) : Prop where
  during : ∀ ledger, opened ledger ∨ closed ledger ∨ escaped ledger → during ledger
  keeps : ∀ ledger step, opened ledger → works step = true → opened (record ledger step)
  closes : ∀ ledger state, opened ledger → state.isTerminal = true →
    closed (record ledger (.finish state))
  fails : ∀ ledger state, opened ledger → ¬ quiet (.finish state) →
    opened (record ledger (.finish state))
  escapes : ∀ ledger state, opened ledger → ¬ quiet (.finish state) →
    escaped (record ledger (.finish state))

/-- A step before the task is closed. -/
theorem Stages.ask (stages : Stages quiet during opened closed escaped) {step : Step}
    {onResult : Answer step → Ledger → Prop} (here : opened ledger)
    (working : works step = true)
    (follow : ∀ reply, onResult reply (record ledger step)) :
    (Agent.ask step).Runs record quiet during onResult opened ledger :=
  runs_call (stages.during _ (.inl here)) follow
    (fun _ => stages.keeps _ _ here working)

/-- Closing the task. -/
theorem Stages.finish (stages : Stages quiet during opened closed escaped) {state : TaskState}
    (here : opened ledger) (terminal : state.isTerminal = true) :
    (Agent.finish state).Runs record quiet during (fun _ => closed) opened ledger := by
  apply Runs.andThen
  exact runs_call (stages.during _ (.inl here)) (fun _ => stages.closes _ _ here terminal)
    (fun loud => stages.fails _ _ here loud)

/-- A step, and what follows it whatever it answers. -/
theorem Stages.act (stages : Stages quiet during opened closed escaped) {step : Step}
    {follow : Execution} (here : opened ledger) (working : works step = true)
    (runs : ∀ ledger, opened ledger →
      follow.Runs record quiet during (fun _ => closed) opened ledger) :
    (Agent.act step follow).Runs record quiet during (fun _ => closed) opened ledger := by
  apply Runs.andThen
  exact stages.ask here working
    (fun _ => runs _ (stages.keeps _ _ here working))

/-- The command of a task. -/
theorem Stages.runCommand (stages : Stages quiet during opened closed escaped) {follow : Execution}
    (here : opened ledger)
    (runs : ∀ ledger, opened ledger →
      follow.Runs record quiet during (fun _ => closed) opened ledger) :
    (Agent.runCommand follow).Runs record quiet during (fun _ => closed) opened ledger := by
  apply Runs.andThen
  apply stages.ask here rfl
  intro result
  have after : opened (record ledger .run) := stages.keeps _ _ here rfl
  split
  · exact stages.finish after rfl
  · split
    · exact stages.finish after rfl
    · split
      · exact stages.finish after rfl
      · exact runs _ after

/-- The execution of a job closes its task once, unless closing it raises. -/
theorem Stages.body (stages : Stages quiet during opened closed escaped) (job : SlotJob)
    (here : opened ledger) :
    job.body.Runs record quiet during (fun _ => closed) opened ledger := by
  cases job with
  | backup =>
    apply stages.act here rfl
    intro ledger here
    apply stages.runCommand here
    intro ledger here
    apply stages.act here rfl
    intro ledger here
    exact stages.finish here rfl
  | restore stopFirst startAfter =>
    have command : ∀ ledger, opened ledger →
        (restoreCommand startAfter).Runs record quiet during (fun _ => closed) opened ledger := by
      intro ledger here
      apply stages.act here rfl
      intro ledger here
      apply stages.runCommand here
      intro ledger here
      split
      · apply Runs.andThen
        apply stages.ask here rfl
        intro result
        exact stages.finish (stages.keeps _ _ here rfl) rfl
      · exact stages.finish here rfl
    apply stages.act here rfl
    intro ledger here
    split
    · apply stages.act here rfl
      intro ledger here
      apply Runs.andThen
      apply stages.ask here rfl
      intro result
      have after := stages.keeps _ .stopGuest here rfl
      split
      · exact stages.finish after rfl
      · exact command _ after
    · exact command _ here
  | transfer verifies =>
    apply stages.act here rfl
    intro ledger here
    apply stages.runCommand here
    intro ledger here
    split
    · apply Runs.andThen
      apply stages.ask here rfl
      intro verified
      have after := stages.keeps _ .verify here rfl
      split
      · exact stages.finish after rfl
      · exact stages.finish after rfl
    · exact stages.finish here rfl

/-- Whatever raises, the slot is released last. -/
theorem Stages.execute (stages : Stages quiet during opened closed escaped) (job : SlotJob)
    (silent : quiet (.release job.slot)) (here : opened ledger)
    (ends : ∀ ledger, closed ledger ∨ escaped ledger → final (record ledger (.release job.slot))) :
    job.execute.Runs record quiet during (fun _ => final) final ledger := by
  have releases : ∀ ledger, closed ledger ∨ escaped ledger →
      (Agent.act (.release job.slot) (.result ())).Runs record quiet during (fun _ => final) final
        ledger := by
    intro ledger done
    apply Runs.andThen
    exact runs_call (stages.during _ (.inr done)) (fun _ => ends _ done)
      (fun loud => absurd silent loud)
  have handled : ∀ ledger, opened ledger → (Agent.finish .failed).Runs record quiet during
      (fun _ => closed) escaped ledger := by
    intro ledger here
    apply Runs.andThen
    exact runs_call (stages.during _ (.inl here)) (fun _ => stages.closes _ _ here rfl)
      (fun loud => stages.escapes _ _ here loud)
  apply Runs.ensure
  apply Runs.except
  apply (stages.body job here).mono
  · exact fun _ ledger done => releases ledger (.inl done)
  · intro ledger here
    apply (handled ledger here).mono
    · exact fun _ ledger done => releases ledger (.inl done)
    · exact fun ledger done => releases ledger (.inr done)

end Stages

/-! ## How long an execution is -/

/-- Asking takes one step. -/
theorem within_ask (step : Step) : (ask step).Within 1 := within_call step

/-- Acting takes one step more than what follows. -/
theorem within_act {step : Step} {follow : Execution} {bound : Nat} (within : follow.Within bound) :
    (act step follow).Within (bound + 1) :=
  ((within_ask step).andThen fun _ => within).mono (by omega)

/-- Finishing takes one step. -/
theorem within_finish (state : TaskState) : (finish state).Within 1 := by
  have ended : (.result () : Execution).Within 0 := trivial
  exact within_act ended

/-- A command takes one step more than what follows. -/
theorem within_runCommand {follow : Execution} {bound : Nat} (within : follow.Within bound)
    (some : 0 < bound) : (runCommand follow).Within (bound + 1) := by
  have later : ∀ result : ProcessResult,
      (if result.cancelled then finish .cancelled
        else if result.timedOut then finish .failed
        else if !result.ok then finish .failed
        else follow).Within bound := by
    intro result
    split
    · exact (within_finish _).mono some
    · split
      · exact (within_finish _).mono some
      · split
        · exact (within_finish _).mono some
        · exact within
  exact ((within_ask .run).andThen later).mono (by omega)

/-- The execution of a job takes at most nine steps. -/
theorem within_execute (job : SlotJob) : job.execute.Within 9 := by
  have body : job.body.Within 7 := by
    cases job with
    | backup =>
      have collected := @within_act .collectArtifact _ _ (within_finish .success)
      exact (within_act (within_runCommand collected (by omega))).mono (by omega)
    | restore stopFirst startAfter =>
      have command : (restoreCommand startAfter).Within 4 := by
        have started : (if startAfter then
            (ask .startGuest).andThen fun _ => finish .success
            else finish .success).Within 2 := by
          split
          · exact (within_ask .startGuest).andThen fun _ => within_finish .success
          · exact (within_finish .success).mono (by omega)
        exact within_act (within_runCommand started (by omega))
      apply within_act
      split
      · apply within_act
        have stopped : ∀ result : ProcessResult,
            (if !result.ok then finish .failed else restoreCommand startAfter).Within 4 := by
          intro result
          split
          · exact (within_finish .failed).mono (by omega)
          · exact command
        exact (within_ask .stopGuest).andThen stopped
      · exact command.mono (by omega)
    | transfer verifies =>
      have verified : (if verifies then
          (ask .verify).andThen fun verified =>
            if !verified then finish .failed else finish .success
          else finish .success).Within 2 := by
        have compared : ∀ verified : Bool,
            (if !verified then finish .failed else finish .success).Within 1 := by
          intro verified
          split
          · exact within_finish .failed
          · exact within_finish .success
        split
        · exact (within_ask .verify).andThen compared
        · exact (within_finish .success).mono (by omega)
      exact (within_act (within_runCommand verified (by omega))).mono (by omega)
  have ended : (.result () : Execution).Within 0 := trivial
  exact ((body.except (within_finish .failed)).ensure (within_act ended)).mono (by omega)

/-! ## What every run keeps -/

variable {capacity : Slot → Nat} {state after : AgentState} {event : TaskEvent}

/-- Slots are in use exactly for the executions in flight and within their capacities, an execution
gives back its slot once and last, and it is over after at most nine steps. -/
structure Accounted (capacity : Slot → Nat) (state : AgentState) : Prop where
  inUse : ∀ slot, state.inUse slot =
    state.entries.countP fun entry => entry.inFlight && entry.job.slot = slot
  within : ∀ slot, state.inUse slot ≤ capacity slot
  released : ∀ entry ∈ state.entries,
    entry.ledger.releases = if entry.inFlight then [] else [entry.job.slot]
  finite : ∀ entry ∈ state.entries, entry.ledger.steps ≤ 9

/-- A task that is accepted and no longer executed was closed once, with its terminal state, and a
task that is executed was closed at most once. -/
def ClosedOnce (state : AgentState) : Prop :=
  ∀ entry ∈ state.entries, entry.accepted = true →
    entry.ledger.finished.length ≤ 1 ∧
      (entry.inFlight = false → ∃ last, last.isTerminal = true ∧
        entry.ledger.finished = [last] ∧ entry.ledger.state = last)

/-- Whether an event is not an exception of the journal write that closes a task. -/
def closesQuietly (state : AgentState) : TaskEvent → Bool
  | .raise index =>
    match state.entries[index]? with
    | some entry =>
      match entry.rest with
      | .await _ (.finish _) _ _ => false
      | _ => true
    | none => true
  | _ => true

/-- No journal write raises that closes a task. -/
def ClosesQuietly (state : AgentState) (event : TaskEvent) : Prop :=
  closesQuietly state event = true

instance (state : AgentState) (event : TaskEvent) : Decidable (ClosesQuietly state event) :=
  inferInstanceAs (Decidable (_ = true))

/-! ## Slots in every run -/

/-- The ledger while a slot is held. -/
def Holding (ledger : Ledger) : Prop := ledger.releases = []

/-- Whatever raises, a slot is held until its release. -/
theorem stages_holding : Stages (fun step => mayRaise step = false) Holding Holding Holding
    Holding where
  during _ there := by
    rcases there with here | here | here
    · exact here
    · exact here
    · exact here
  keeps ledger step here working := by
    cases step with
    | finish state => cases working
    | release slot => cases working
    | _ => exact here
  closes _ _ here _ := here
  fails _ _ here _ := here
  escapes _ _ here _ := here

/-- The ledger of a task that was closed once. -/
def Closed (ledger : Ledger) : Prop :=
  ∃ last, last.isTerminal = true ∧ ledger.finished = [last] ∧ ledger.state = last

/-- The ledger of a task that was closed at most once. -/
def AtMostOnce (ledger : Ledger) : Prop := ledger.finished.length ≤ 1

/-- Whether a step is not an exception of the journal write that closes a task. -/
def quietStep : Step → Bool
  | .finish _ | .release _ => true
  | _ => false

/-- When closing does not raise, a task is closed once. -/
theorem stages_closing : Stages (fun step => quietStep step = true) AtMostOnce
    (fun ledger => ledger.finished = []) Closed (fun _ => False) where
  during ledger there := by
    unfold AtMostOnce
    rcases there with here | ⟨last, -, here, -⟩ | here
    · rw [here]
      exact Nat.zero_le 1
    · rw [here]
      exact Nat.le_refl 1
    · exact here.elim
  keeps ledger step here working := by
    cases step with
    | finish state => cases working
    | release slot => cases working
    | _ => exact here
  closes ledger state here terminal := by
    refine ⟨state, terminal, ?_, rfl⟩
    show ledger.finished ++ [state] = [state]
    rw [here]
    rfl
  fails _ _ _ loud := absurd rfl loud
  escapes _ _ _ loud := absurd rfl loud

/-- What a run keeps of one execution. -/
structure Kept (entry : Entry) : Prop where
  /-- An accepted task releases its slot last, and a refused one has released it. -/
  releases : entry.rest.Runs record (fun step => mayRaise step = false) Holding
    (fun _ ledger => ledger.releases = [entry.job.slot])
    (fun ledger => ledger.releases = [entry.job.slot]) entry.ledger
  finite : entry.ledger.steps ≤ 9 ∧ entry.rest.Within (9 - entry.ledger.steps)

/-- A new execution holds its slot. -/
theorem kept_execute (job : SlotJob) : Kept ⟨job, true, .created, job.execute⟩ where
  releases := by
    have here : Holding .created := rfl
    apply stages_holding.execute job rfl here
    intro ledger done
    have held : ledger.releases = [] := by
      rcases done with held | held
      · exact held
      · exact held
    show ledger.releases ++ [job.slot] = [job.slot]
    rw [held]
    rfl
  finite := ⟨Nat.zero_le 9, within_execute job⟩

/-- A request that is refused by the registry has given its slot back. -/
theorem kept_refused (job : SlotJob) :
    Kept ⟨job, false, ⟨.queued, [], [job.slot], 0⟩, .result ()⟩ where
  releases := rfl
  finite := ⟨Nat.zero_le 9, trivial⟩

/-- A slot is held exactly while an execution is in flight. -/
theorem Kept.released {entry : Entry} (kept : Kept entry) :
    entry.ledger.releases = if entry.inFlight then [] else [entry.job.slot] := by
  obtain ⟨job, accepted, ledger, rest⟩ := entry
  have releases := kept.releases
  cases rest with
  | result value => exact releases
  | fail => exact releases
  | await handling step next raised => exact releases.1

/-- Every recorded step is counted. -/
theorem record_steps (ledger : Ledger) (step : Step) :
    (record ledger step).steps = ledger.steps + 1 := by
  cases step <;> rfl

/-- An execution that goes on after one of its steps is kept. -/
theorem Kept.goOn {job : SlotJob} {accepted handling : Bool} {ledger : Ledger} {step : Step}
    {next : Answer step → Execution} {raised rest : Execution}
    (kept : Kept ⟨job, accepted, ledger, .await handling step next raised⟩)
    (goes : (∃ reply, rest = next reply) ∨ (mayRaise step = true ∧ rest = raised)) :
    Kept ⟨job, accepted, record ledger step, rest⟩ := by
  obtain ⟨-, answered, failed⟩ := kept.releases
  obtain ⟨bounded, positive, short, shortRaised⟩ := kept.finite
  have steps := record_steps ledger step
  have some : 0 < 9 - ledger.steps := positive
  rcases goes with ⟨reply, rfl⟩ | ⟨loud, rfl⟩
  · constructor
    · exact answered reply
    · exact ⟨by simp only [steps]; omega,
        (short reply).mono (by simp only [steps]; exact Nat.le_of_eq (Nat.sub_sub _ _ _))⟩
  · constructor
    · apply failed
      intro silent
      have silent : mayRaise step = false := silent
      rw [loud] at silent
      cases silent
    · exact ⟨by simp only [steps]; omega,
        shortRaised.mono (by simp only [steps]; exact Nat.le_of_eq (Nat.sub_sub _ _ _))⟩

/-- What every reached state satisfies of the slots. -/
structure SlotsKept (capacity : Slot → Nat) (state : AgentState) : Prop where
  kept : ∀ entry ∈ state.entries, Kept entry
  inUse : ∀ slot, state.inUse slot =
    state.entries.countP fun entry => entry.inFlight && entry.job.slot = slot
  within : ∀ slot, state.inUse slot ≤ capacity slot

/-- A step releases a slot or changes none. -/
theorem release_or (step : Step) :
    (∃ slot, step = .release slot) ∨
      ((∀ ledger, (record ledger step).releases = ledger.releases) ∧
        ∀ state : AgentState, state.perform step = state) := by
  cases step with
  | release slot => exact .inl ⟨slot, rfl⟩
  | _ => exact .inr ⟨fun _ => rfl, fun _ => rfl⟩

/-- A step of an execution keeps the slots counted. -/
theorem slotsKept_goOn {index : Nat} {entry : Entry} {handling : Bool} {step : Step}
    {next : Answer step → Execution} {raised rest : Execution} (slots : SlotsKept capacity state)
    (here : state.entries[index]? = some entry)
    (awaits : entry.rest = .await handling step next raised)
    (goes : (∃ reply, rest = next reply) ∨ (mayRaise step = true ∧ rest = raised)) :
    SlotsKept capacity (state.goOn index entry step rest) := by
  obtain ⟨inside, found⟩ := List.getElem?_eq_some_iff.mp here
  have member : entry ∈ state.entries := found ▸ List.getElem_mem inside
  obtain ⟨job, accepted, ledger, body⟩ := entry
  simp only at awaits
  subst awaits
  have before := slots.kept _ member
  have after := before.goOn goes
  have holding : ledger.releases = [] := before.releases.1
  have released := after.released
  have kept : ∀ other ∈ state.entries.set index ⟨job, accepted, record ledger step, rest⟩,
      Kept other := by
    intro other inside
    rcases List.mem_or_eq_of_mem_set inside with old | rfl
    · exact slots.kept other old
    · exact after
  have counted : ∀ slot, (state.entries.set index ⟨job, accepted, record ledger step, rest⟩).countP
      (fun entry => entry.inFlight && entry.job.slot = slot) =
      state.inUse slot - (if job.slot = slot then 1 else 0) +
        if (⟨job, accepted, record ledger step, rest⟩ : Entry).inFlight && job.slot = slot then 1
        else 0 := by
    intro slot
    rw [List.countP_set inside, found, ← slots.inUse slot]
    simp [Entry.inFlight]
  have held : 0 < state.inUse job.slot := by
    rw [slots.inUse]
    apply List.countP_pos_iff.mpr
    exact ⟨_, member, by simp [Entry.inFlight]⟩
  rcases release_or step with ⟨slot, rfl⟩ | ⟨unchanged, performs⟩
  · have returned : (record ledger (.release slot)).releases = [slot] := by
      show ledger.releases ++ [slot] = [slot]
      rw [holding]
      rfl
    cases flying : (⟨job, accepted, record ledger (.release slot), rest⟩ : Entry).inFlight with
    | true =>
      rw [flying] at released
      exact absurd (returned.symm.trans released) (List.cons_ne_nil _ _)
    | false =>
      rw [flying] at released
      obtain rfl : slot = job.slot := List.singleton_inj.mp (returned.symm.trans released)
      constructor
      · exact kept
      · intro slot
        refine Eq.trans ?_ (counted slot).symm
        rw [flying]
        show Function.update state.inUse job.slot (state.inUse job.slot - 1) slot = _
        by_cases same : slot = job.slot
        · subst same
          rw [Function.update_self, if_pos rfl]
          rfl
        · rw [Function.update_of_ne same, if_neg (Ne.symm same)]
          rfl
      · intro slot
        show Function.update state.inUse job.slot (state.inUse job.slot - 1) slot ≤ _
        by_cases same : slot = job.slot
        · subst same
          rw [Function.update_self]
          exact (Nat.sub_le _ _).trans (slots.within _)
        · rw [Function.update_of_ne same]
          exact slots.within slot
  · have returned : (record ledger step).releases = [] := (unchanged ledger).trans holding
    cases flying : (⟨job, accepted, record ledger step, rest⟩ : Entry).inFlight with
    | false =>
      rw [flying] at released
      exact absurd (released.symm.trans returned) (List.cons_ne_nil _ _)
    | true =>
      constructor
      · intro other inside
        unfold AgentState.goOn at inside
        rw [performs] at inside
        exact kept other inside
      · intro slot
        unfold AgentState.goOn
        rw [performs]
        refine Eq.trans ?_ (counted slot).symm
        rw [flying, Bool.true_and]
        by_cases same : job.slot = slot
        · subst same
          rw [if_pos rfl, if_pos (decide_eq_true rfl)]
          show state.inUse job.slot = state.inUse job.slot - 1 + 1
          omega
        · rw [if_neg same, if_neg (by rw [decide_eq_false same]; exact Bool.false_ne_true)]
          rfl
      · unfold AgentState.goOn
        rw [performs]
        exact slots.within

/-- An execution that has not begun is in flight. -/
theorem inFlight_execute (job : SlotJob) :
    (⟨job, true, .created, job.execute⟩ : Entry).inFlight = true := by
  cases job <;> rfl

/-- A request keeps the slots counted. -/
theorem slotsKept_request {job : SlotJob} {valid created : Bool} (slots : SlotsKept capacity state)
    (stepped : agentStep capacity state (.request job valid created) = some after) :
    SlotsKept capacity after := by
  simp only [agentStep] at stepped
  split at stepped
  · obtain rfl := Option.some.inj stepped
    exact slots
  · split at stepped
    · obtain rfl := Option.some.inj stepped
      exact slots
    · rename_i free
      have within := slots.within job.slot
      split at stepped
      · obtain rfl := Option.some.inj stepped
        constructor
        · intro entry inside
          rcases List.mem_append.mp inside with old | new
          · exact slots.kept entry old
          · rw [List.mem_singleton.mp new]
            exact kept_execute job
        · intro slot
          show Function.update state.inUse job.slot (state.inUse job.slot + 1) slot =
            (state.entries ++ [(⟨job, true, .created, job.execute⟩ : Entry)]).countP _
          rw [List.countP_append, ← slots.inUse slot, List.countP_singleton, inFlight_execute,
            Bool.true_and]
          by_cases same : slot = job.slot
          · subst same
            rw [Function.update_self, if_pos (decide_eq_true rfl)]
          · rw [Function.update_of_ne same,
              if_neg (by rw [decide_eq_false (Ne.symm same)]; exact Bool.false_ne_true)]
            rfl
        · intro slot
          show Function.update state.inUse job.slot (state.inUse job.slot + 1) slot ≤ _
          by_cases same : slot = job.slot
          · subst same
            rw [Function.update_self]
            omega
          · rw [Function.update_of_ne same]
            exact slots.within slot
      · obtain rfl := Option.some.inj stepped
        have returned : ((state.acquire job.slot).release job.slot).inUse = state.inUse := by
          funext slot
          show Function.update (Function.update state.inUse job.slot (state.inUse job.slot + 1))
            job.slot _ slot = _
          by_cases same : slot = job.slot
          · subst same
            rw [Function.update_self]
            show Function.update state.inUse job.slot (state.inUse job.slot + 1) job.slot - 1 = _
            rw [Function.update_self]
            rfl
          · rw [Function.update_of_ne same, Function.update_of_ne same]
        constructor
        · intro entry inside
          rcases List.mem_append.mp inside with old | new
          · exact slots.kept entry old
          · rw [List.mem_singleton.mp new]
            exact kept_refused job
        · intro slot
          show ((state.acquire job.slot).release job.slot).inUse slot = _
          rw [returned, slots.inUse]
          show _ = (state.entries ++ [_]).countP _
          rw [List.countP_append, List.countP_singleton]
          rfl
        · intro slot
          show ((state.acquire job.slot).release job.slot).inUse slot ≤ _
          rw [returned]
          exact slots.within slot

/-- An event is a request or a step of an execution that answers or raises. -/
theorem agentStep_cases (stepped : agentStep capacity state event = some after) :
    (∃ job valid created, event = .request job valid created) ∨
    ∃ index entry handling step next raised rest, state.entries[index]? = some entry ∧
      entry.rest = .await handling step next raised ∧
      after = state.goOn index entry step rest ∧
      ((∃ reply, rest = next reply) ∨
        (mayRaise step = true ∧ rest = raised ∧ event = .raise index)) := by
  cases event with
  | request job valid created => exact .inl ⟨job, valid, created, rfl⟩
  | answer index reply =>
    simp only [agentStep] at stepped
    split at stepped
    · rename_i entry here
      split at stepped
      · rename_i handling step next raised awaits
        exact .inr ⟨index, entry, handling, step, next, raised, _, here, awaits,
          (Option.some.inj stepped).symm, .inl ⟨reply step, rfl⟩⟩
      · cases stepped
    · cases stepped
  | raise index =>
    simp only [agentStep] at stepped
    split at stepped
    · rename_i entry here
      split at stepped
      · rename_i handling step next raised awaits
        split at stepped
        · rename_i loud
          exact .inr ⟨index, entry, handling, step, next, raised, _, here, awaits,
            (Option.some.inj stepped).symm, .inr ⟨loud, rfl, rfl⟩⟩
        · cases stepped
      · cases stepped
    · cases stepped

/-- A step of the agent keeps the count of its slots. -/
theorem slotsKept_step (slots : SlotsKept capacity state)
    (stepped : agentStep capacity state event = some after) : SlotsKept capacity after := by
  rcases agentStep_cases stepped with ⟨job, valid, created, rfl⟩ |
    ⟨index, entry, handling, step, next, raised, rest, here, awaits, rfl, goes⟩
  · exact slotsKept_request slots stepped
  · apply slotsKept_goOn slots here awaits
    exact goes.imp_right fun loud => ⟨loud.1, loud.2.1⟩

/-- Whatever raises, the slots are accounted for in every reached state. -/
theorem accounted_of_reachable {allow : AgentState → TaskEvent → Prop}
    (reached : (agent capacity).Reachable allow state) : Accounted capacity state := by
  have slots : SlotsKept capacity state := by
    apply reached.invariant_alone
    constructor
    · rintro _ rfl
      exact ⟨fun _ inside => absurd inside List.not_mem_nil, fun _ => rfl, fun _ => Nat.zero_le _⟩
    · exact fun _ _ _ _ slots _ stepped => slotsKept_step slots stepped
  exact ⟨slots.inUse, slots.within, fun entry inside => (slots.kept entry inside).released,
    fun entry inside => (slots.kept entry inside).finite.1⟩

/-! ## Terminal states in every quiet run -/

/-- What a quiet run keeps of one accepted execution: its task will be closed once. -/
def Closes (entry : Entry) : Prop :=
  entry.accepted = true → entry.rest.Runs record (fun step => quietStep step = true) AtMostOnce
    (fun _ => Closed) Closed entry.ledger

/-- A job that begins closes. -/
theorem closes_execute (job : SlotJob) : Closes ⟨job, true, .created, job.execute⟩ := by
  intro _
  apply stages_closing.execute job rfl rfl
  rintro ledger (closed | escaped)
  · exact closed
  · exact escaped.elim

/-- A request keeps the tasks closed once. -/
theorem closes_request {job : SlotJob} {valid created : Bool}
    (closes : ∀ entry ∈ state.entries, Closes entry)
    (stepped : agentStep capacity state (.request job valid created) = some after) :
    ∀ entry ∈ after.entries, Closes entry := by
  simp only [agentStep] at stepped
  split at stepped
  · obtain rfl := Option.some.inj stepped
    exact closes
  · split at stepped
    · obtain rfl := Option.some.inj stepped
      exact closes
    · split at stepped
      · obtain rfl := Option.some.inj stepped
        intro entry inside
        rcases List.mem_append.mp inside with old | new
        · exact closes entry old
        · rw [List.mem_singleton.mp new]
          exact closes_execute job
      · obtain rfl := Option.some.inj stepped
        intro entry inside
        rcases List.mem_append.mp inside with old | new
        · exact closes entry old
        · rw [List.mem_singleton.mp new]
          intro accepted
          cases accepted

/-- A step in which no journal write raises that closes a task keeps the tasks closed once. -/
theorem closes_step (closes : ∀ entry ∈ state.entries, Closes entry)
    (allowed : ClosesQuietly state event) (stepped : agentStep capacity state event = some after) :
    ∀ entry ∈ after.entries, Closes entry := by
  rcases agentStep_cases stepped with ⟨job, valid, created, rfl⟩ |
    ⟨index, ⟨job, accepted, ledger, body⟩, handling, step, next, raised, rest, here, awaits, rfl,
      goes⟩
  · exact closes_request closes stepped
  · simp only at awaits
    subst awaits
    obtain ⟨inside, found⟩ := List.getElem?_eq_some_iff.mp here
    have before := closes _ (found ▸ List.getElem_mem inside)
    have kept : ∀ other ∈ state.entries.set index ⟨job, accepted, record ledger step, rest⟩,
        Closes other := by
      intro other member
      rcases List.mem_or_eq_of_mem_set member with old | rfl
      · exact closes other old
      · intro accepts
        obtain ⟨-, answered, failed⟩ := before accepts
        rcases goes with ⟨reply, rfl⟩ | ⟨loud, rfl, rfl⟩
        · exact answered reply
        · apply failed
          have quiet : closesQuietly state (.raise index) = true := allowed
          unfold closesQuietly at quiet
          simp only [here] at quiet
          intro silent
          have silent : quietStep step = true := silent
          cases step with
          | finish terminal => cases quiet
          | release slot => cases loud
          | _ => cases silent
    intro other member
    cases step with
    | _ => exact kept other member

/-- In every run in which no journal write raises that closes a task, the slots are accounted for
and every accepted task that is no longer executed has been closed once. -/
theorem accounted_and_closed (reached : (agent capacity).Reachable ClosesQuietly state) :
    Accounted capacity state ∧ ClosedOnce state := by
  have closes : ∀ entry ∈ state.entries, Closes entry := by
    apply reached.invariant_alone
    constructor
    · rintro _ rfl
      exact fun _ inside => absurd inside List.not_mem_nil
    · exact fun _ _ _ _ closes allowed stepped => closes_step closes allowed stepped
  refine ⟨accounted_of_reachable reached, fun entry inside accepted => ?_⟩
  have runs := closes entry inside accepted
  obtain ⟨job, accepts, ledger, rest⟩ := entry
  have once : ∀ {ledger : Ledger}, Closed ledger → ledger.finished.length ≤ 1 := by
    rintro ledger ⟨last, -, closed, -⟩
    rw [closed]
    exact Nat.le_refl 1
  cases rest with
  | result value => exact ⟨once runs, fun _ => runs⟩
  | fail => exact ⟨once runs, fun _ => runs⟩
  | await handling step next raised => exact ⟨runs.1, fun flying => (by cases flying)⟩

/-- Every command succeeds. -/
def succeeding : ∀ step, Answer step
  | .stopGuest | .run | .startGuest => ⟨0, false, false⟩
  | .verify => true
  | .markRunning | .updateProgress | .finish _ | .release _ | .collectArtifact => ()

/-- A backup succeeds while a second one is refused, and a restore whose first journal write raises
is closed as failed. -/
theorem accounted_and_closed_twice :
    ∃ state, (Accounted (fun _ => 1) state ∧ ClosedOnce state) ∧
      state.entries.map (fun entry => entry.ledger.finished) = [[.success], [.failed]] := by
  obtain ⟨state, reached, shown⟩ : ∃ state,
      (agent fun _ => 1).Reachable ClosesQuietly state ∧
        (state.entries.map (fun entry => entry.ledger.finished) == [[.success], [.failed]]) =
          true := by
    refine System.exists_of_runFrom rfl
      ([.request .backup true true, .request .backup true true,
        .request (.restore true true) true true, .raise 1] ++
        List.replicate 5 (.answer 0 succeeding) ++ List.replicate 2 (.answer 1 succeeding)) _ ?_
    decide
  exact ⟨state, accounted_and_closed reached, beq_iff_eq.mp shown⟩

/-- Whether an accepted task was closed as a success and then as a failure. -/
def closedTwice (state : AgentState) : Bool :=
  state.entries.any fun entry => entry.accepted && entry.ledger.finished == [.success, .failed]

/-- A backup that succeeded is closed again as failed when the journal write that closes it raises.
-/
theorem not_closedOnce_of_raise :
    ∃ state, (agent fun _ => 1).Reachable System.unguarded state ∧ ¬ ClosedOnce state := by
  obtain ⟨state, reached, shown⟩ : ∃ state,
      (agent fun _ => 1).Reachable System.unguarded state ∧ closedTwice state = true := by
    refine System.exists_of_runFrom rfl
      ([.request .backup true true] ++ List.replicate 3 (.answer 0 succeeding) ++ [.raise 0] ++
        List.replicate 2 (.answer 0 succeeding)) _ ?_
    decide
  refine ⟨state, reached, fun closed => ?_⟩
  obtain ⟨entry, stored, closings⟩ := List.any_eq_true.mp shown
  obtain ⟨accepted, twice⟩ := Bool.and_eq_true_iff.mp closings
  have once := (closed entry stored accepted).1
  rw [beq_iff_eq.mp twice] at once
  exact absurd once (by decide)

end ProxSync.Agent
