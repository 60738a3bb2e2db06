import ProxSync.Lib.Procedure
import ProxSync.Lib.System
/-!
# The loops of the queue workers

Four workers serve a queue each by the same loop: claim an item, execute it, and close the item if
its execution raises. An exception of a claim or of an execution is caught where it arises. The
calls that close an item are made by a handler and nothing catches theirs. The loops differ in what
they await to claim an item and to close one; an execution is any procedure.
-/
open ProxSync.Lib ProxSync.Lib.Proc

namespace ProxSync.Workers

/-- A transfer as the handler of its failure reads it. -/
structure TaskView where
  exhausted : Bool
  backupId : Option Nat
  deriving DecidableEq, Repr

/-- What a worker awaits of the database, of other workers and of the agent. -/
inductive Call
  | nextQueued
  | nextReady
  | nextConfirmed
  | nextNotification
  /-- The next restore that an earlier process left on the host. -/
  | nextResumed
  | enqueuePending
  | expirePending
  | flush
  | commit
  | getRun (runId : Nat)
  | forRun (runId : Nat)
  | getTask (taskId : Nat)
  | getBackup (backupId : Nat)
  | getRestore (restoreId : Nat)
  | getNotification (notificationId : Nat)
  /-- Queue a message in the transaction at hand. -/
  | emit
  /-- Any call of an execution. -/
  | execution (name : String)

/-- What a call is answered with. -/
@[reducible] def Reply : Call → Type
  | .nextQueued | .nextReady | .nextConfirmed | .nextNotification | .nextResumed => Option Nat
  -- A run that is there comes with whether it was cancelled from this process.
  | .getRun _ => Option Bool
  | .getTask _ => Option TaskView
  | .getRestore _ | .getNotification _ | .getBackup _ => Bool
  | .enqueuePending | .expirePending | .flush | .commit | .forRun _ | .emit | .execution _ => Unit

/-- A procedure of a worker. -/
abbrev Procedure := Proc Call Reply

/-- Await one call. -/
def ask (request : Call) : Procedure (Reply request) := call request

/-- A request that is sent is answered. -/
theorem completes_ask (request : Call) : (ask request).Completes := completes_call request

/-! ## Claims -/

/-- Commit what was read, and give a result. -/
def committed {α : Type} (value : α) : Procedure α :=
  (ask .commit).andThen fun _ => .result value

/-- Take an item off a queue: the item that was found is written and committed. -/
def take (found : Option Nat) : Procedure (Option Nat) :=
  match found with
  | none => committed none
  | some item => (ask .flush).andThen fun _ => committed (some item)

/-- The claim of the backup runner. -/
def claimNextRun : Procedure (Option Nat) := (ask .nextQueued).andThen take

/-- The claim of the transfer worker, which queues pending uploads first. -/
def claimNextTask : Procedure (Option Nat) :=
  (ask .enqueuePending).andThen fun _ => (ask .commit).andThen fun _ =>
    (ask .nextReady).andThen take

/-- Announce something in the transaction at hand, if messages are sent and this one is wanted. -/
def announce (wanted : Bool) : Procedure Unit := if wanted then ask .emit else .result ()

/-- The claim of the restore worker, which sweeps expired confirmations and follows what an earlier
process started first. -/
def claimNextRestore (notifies : Bool) : Procedure (Option Nat) :=
  (ask .expirePending).andThen fun _ => (ask .commit).andThen fun _ =>
    (ask .nextResumed).andThen fun
      | some restoreId => .result (some restoreId)
      | none => (ask .nextConfirmed).andThen fun
        | none => committed none
        | some restoreId => (ask .flush).andThen fun _ =>
          (announce notifies).andThen fun _ => committed (some restoreId)

/-- The claim of the notification worker. -/
def claimNextNotification : Procedure (Option Nat) := (ask .nextNotification).andThen take

/-! ## Closing an item -/

/-- Close a run that failed; a cancelled run is not announced. -/
def finaliseRun (notifies : Bool) (runId : Nat) : Procedure Unit :=
  (ask (.getRun runId)).andThen fun
    | none => ask .commit
    | some cancelled => (ask (.forRun runId)).andThen fun _ =>
      (announce (notifies && !cancelled)).andThen fun _ => ask .commit

/-- Read the backup of a transfer, if it has one. -/
def readBackup : Option Nat → Procedure Unit
  | none => .result ()
  | some backupId => (ask (.getBackup backupId)).andThen fun _ => .result ()

/-- Record that a transfer failed; it is announced once its attempts are used up. -/
def recordTransferFailure (notifies : Bool) (taskId : Nat) : Procedure Unit :=
  (ask (.getTask taskId)).andThen fun
    | none => ask .commit
    | some task => (readBackup task.backupId).andThen fun _ =>
      (announce (notifies && task.exhausted)).andThen fun _ => ask .commit

/-- Close a restore without an outcome. -/
def closeRestore (notifies : Bool) (restoreId : Nat) : Procedure Unit :=
  (ask (.getRestore restoreId)).andThen fun present =>
    (announce (notifies && present)).andThen fun _ => ask .commit

/-- Record that a message was not delivered. -/
def recordDeliveryFailure (notificationId : Nat) : Procedure Unit :=
  (ask (.getNotification notificationId)).andThen fun _ => ask .commit

section Completion

/-- An announcement completes. -/
theorem completes_announce (wanted : Bool) : (announce wanted).Completes := by
  cases wanted with
  | false => trivial
  | true => exact completes_ask .emit

/-- Finalising a run completes. -/
theorem completes_finaliseRun (notifies : Bool) (runId : Nat) :
    (finaliseRun notifies runId).Completes := by
  apply (completes_ask _).andThen
  intro found
  cases found with
  | none => exact completes_ask .commit
  | some cancelled =>
    apply (completes_ask _).andThen
    intro _
    exact (completes_announce _).andThen fun _ => completes_ask .commit

/-- Reading a backup completes. -/
theorem completes_readBackup (backupId : Option Nat) : (readBackup backupId).Completes := by
  cases backupId with
  | none => trivial
  | some backupId => exact (completes_ask (.getBackup backupId)).andThen fun _ => trivial

/-- Recording a failed transfer completes. -/
theorem completes_recordTransferFailure (notifies : Bool) (taskId : Nat) :
    (recordTransferFailure notifies taskId).Completes := by
  apply (completes_ask _).andThen
  intro found
  cases found with
  | none => exact completes_ask .commit
  | some task =>
    apply (completes_readBackup task.backupId).andThen
    intro _
    exact (completes_announce _).andThen fun _ => completes_ask .commit

/-- Closing a restore completes. -/
theorem completes_closeRestore (notifies : Bool) (restoreId : Nat) :
    (closeRestore notifies restoreId).Completes := by
  apply (completes_ask _).andThen
  intro present
  exact (completes_announce _).andThen fun _ => completes_ask .commit

/-- Recording a failed delivery completes. -/
theorem completes_recordDeliveryFailure (notificationId : Nat) :
    (recordDeliveryFailure notificationId).Completes :=
  (completes_ask _).andThen fun _ => completes_ask .commit

end Completion

/-! ## The loop -/

/-- What a loop awaits to claim an item, to execute it and to close it after a failure. -/
structure Worker where
  claim : Procedure (Option Nat)
  execute : Nat → Procedure Unit
  handle : Nat → Procedure Unit
  /-- Only a call that raises makes the handler fail. -/
  handles : ∀ item, (handle item).Completes

/-- The four workers. -/
inductive Kind
  | backupRunner
  | syncWorker
  | restoreWorker
  | notificationWorker
  deriving DecidableEq, Repr

/-- The loop of a worker with an execution; messages may be switched off. -/
def worker (notifies : Bool) (execute : Nat → Procedure Unit) : Kind → Worker
  | .backupRunner =>
    ⟨claimNextRun, execute, finaliseRun notifies, completes_finaliseRun notifies⟩
  | .syncWorker =>
    ⟨claimNextTask, execute, recordTransferFailure notifies,
      completes_recordTransferFailure notifies⟩
  | .restoreWorker =>
    ⟨claimNextRestore notifies, execute, closeRestore notifies, completes_closeRestore notifies⟩
  | .notificationWorker =>
    ⟨claimNextNotification, execute, recordDeliveryFailure, completes_recordDeliveryFailure⟩

/-- One turn of a loop. After a claim that fails or finds nothing the loop sleeps until the next
turn. -/
def turn (worker : Worker) : Procedure Unit :=
  (worker.claim.except (.result none)).andThen fun
    | none => .result ()
    | some item => (worker.execute item).except (worker.handle item).asHandler

/-- Where a loop is. -/
inductive Phase
  | head
  | turning (rest : Procedure Unit)
  | ended

/-- A loop and whether it was asked to stop. -/
structure State where
  phase : Phase
  stopping : Bool

/-- What may happen next. An answer answers whatever is awaited. -/
inductive Action
  | stop
  | turn
  | answer (reply : ∀ call, Reply call)
  | raise

/-- Where a loop is when something is left to do of its turn. -/
def resume : Procedure Unit → Phase
  | .result _ => .head
  | .fail => .ended
  | rest => .turning rest

/-- The effect of one action, or nothing where it cannot happen. -/
def step (worker : Worker) (state : State) : Action → Option State
  | .stop => some { state with stopping := true }
  | .turn =>
    match state.phase with
    | .head =>
      if state.stopping then some { state with phase := .ended }
      else some { state with phase := resume (Workers.turn worker) }
    | _ => none
  | .answer reply =>
    match state.phase with
    | .turning (.await _ request next _) =>
      some { state with phase := resume (next (reply request)) }
    | _ => none
  | .raise =>
    match state.phase with
    | .turning (.await _ _ _ raised) => some { state with phase := resume raised }
    | _ => none

/-- The loop of a worker that was started. -/
def system (worker : Worker) : System State Action where
  init state := state = ⟨.head, false⟩
  step := step worker

/-- Whether a loop has ended. -/
def Phase.isEnded : Phase → Bool
  | .ended => true
  | _ => false

/-- A loop ends only after it was asked to stop. -/
def Survives (state : State) : Prop := state.phase.isEnded = true → state.stopping = true

/-- Whether the loop awaits a call of the handler that closes a failed item. -/
def Phase.handling : Phase → Bool
  | .turning rest => rest.atHandler
  | _ => false

/-- Whether an action is not an exception of a call that closes a failed item. -/
def spares (state : State) : Action → Bool
  | .raise => !state.phase.handling
  | _ => true

/-- No call raises that closes an item whose execution failed. -/
def Spares (state : State) (action : Action) : Prop := spares state action = true

instance (state : State) (action : Action) : Decidable (Spares state action) :=
  inferInstanceAs (Decidable (_ = true))

/-! ## Survival -/

section Steps

variable {worker : Worker} {state after : State} {action : Action}

/-- One turn of a loop fails only where a call of the handler raises. -/
theorem shielded_turn (worker : Worker) : (turn worker).Shielded := by
  apply ((shielded_result none).except worker.claim).andThen
  intro claimed
  cases claimed with
  | none => trivial
  | some item => exact (worker.handles item).asHandler.except (worker.execute item)

/-- What every reached state satisfies while no call of the handler raises. -/
structure Sound (state : State) : Prop where
  survives : Survives state
  shielded : ∀ rest, state.phase = .turning rest → rest.Shielded

/-- A loop at its head is sound. -/
theorem sound_head (stopping : Bool) : Sound ⟨.head, stopping⟩ where
  survives ended := absurd ended Bool.false_ne_true
  shielded _ turning := Phase.noConfusion turning

/-- Going on with a shielded procedure does not end the loop. -/
theorem sound_resume {rest : Procedure Unit} (shielded : rest.Shielded) (stopping : Bool) :
    Sound ⟨resume rest, stopping⟩ := by
  cases rest with
  | result value => exact sound_head stopping
  | fail => exact shielded.elim
  | await handling request next raised =>
    constructor
    · exact fun ended => absurd ended Bool.false_ne_true
    · intro rest turning
      cases turning
      exact shielded

/-- A step in which no call of the handler raises keeps the state sound. -/
theorem step_sound (sound : Sound state) (allowed : Spares state action)
    (stepped : step worker state action = some after) : Sound after := by
  cases action with
  | stop =>
    obtain rfl := Option.some.inj stepped
    exact ⟨fun _ => rfl, sound.shielded⟩
  | turn =>
    simp only [step] at stepped
    split at stepped
    · split at stepped
      · rename_i stopping
        obtain rfl := Option.some.inj stepped
        exact ⟨fun _ => stopping, fun _ turning => Phase.noConfusion turning⟩
      · obtain rfl := Option.some.inj stepped
        exact sound_resume (shielded_turn worker) _
    · cases stepped
  | answer reply =>
    simp only [step] at stepped
    split at stepped
    · rename_i request next raised here
      obtain rfl := Option.some.inj stepped
      exact sound_resume ((sound.shielded _ here).1 (reply request)) _
    · cases stepped
  | raise =>
    simp only [step] at stepped
    split at stepped
    · rename_i handling request next raised here
      obtain rfl := Option.some.inj stepped
      have outside : handling = false := by
        simpa [Spares, spares, here, Phase.handling, Proc.atHandler] using allowed
      obtain escapes | shielded := (sound.shielded _ here).2
      · rw [outside] at escapes
        cases escapes
      · exact sound_resume shielded _
    · cases stepped

/-- Whatever raises in claims and executions, while no call raises that closes a failed item, the
loop of a worker ends only after it was asked to stop. -/
theorem loops_survive_of_spared {notifies : Bool} {execute : Nat → Procedure Unit} {kind : Kind}
    (reached : (system (Workers.worker notifies execute kind)).Reachable Spares state) :
    Survives state := by
  have sound : Sound state := by
    apply reached.invariant_alone
    constructor
    · rintro _ rfl
      exact sound_head false
    · exact fun _ _ _ _ sound allowed stepped => step_sound sound allowed stepped
  exact sound.survives

end Steps

/-- Every row that is asked for is there, and every queue has an item. -/
def present : ∀ call, Reply call
  | .nextQueued | .nextReady | .nextConfirmed | .nextNotification => some 7
  | .nextResumed => none
  | .getRun _ => some false
  | .getTask _ => some ⟨true, none⟩
  | .getRestore _ | .getNotification _ | .getBackup _ => true
  | .enqueuePending | .expirePending | .flush | .commit | .forRun _ | .emit | .execution _ => ()

/-- An execution that asks the agent once. -/
def oneCall (_ : Nat) : Procedure Unit := ask (.execution "agent")

/-- How many calls each worker awaits to claim an item. -/
def Kind.claimCalls : Kind → Nat
  | .backupRunner | .notificationWorker => 3
  | .syncWorker => 5
  | .restoreWorker => 6

/-- An item is claimed and its execution raises. -/
def failedItem (kind : Kind) : List Action :=
  .turn :: List.replicate kind.claimCalls (.answer present) ++ [.raise]

/-- The agent fails, the item is closed, and the loop goes on until it is stopped. -/
theorem loops_survive_failure :
    ∃ state, state.phase.isEnded = true ∧ Survives state := by
  obtain ⟨state, reached, shown⟩ : ∃ state,
      (system (worker false oneCall .backupRunner)).Reachable Spares state ∧
        state.phase.isEnded = true := by
    refine System.exists_of_runFrom rfl (failedItem .backupRunner ++
      [.answer present, .answer present, .answer present, .stop, .turn]) _ ?_
    decide
  exact ⟨state, shown, loops_survive_of_spared reached⟩

/-- Each of the four loops ends for good when the database fails again while the failure of an item
is recorded. -/
theorem failing_handler_ends (kind : Kind) : ∃ state,
    (system (worker false oneCall kind)).Reachable System.unguarded state ∧
      (state.phase.isEnded && !state.stopping) = true := by
  refine System.exists_of_runFrom rfl (failedItem kind ++ [.raise]) _ ?_
  cases kind <;> decide

/-- A loop ends without being asked to. -/
theorem failing_handler_ends_loop : ¬ ∀ kind notifies execute state,
    (system (worker notifies execute kind)).Reachable System.unguarded state → Survives state := by
  intro always
  obtain ⟨state, reached, shown⟩ := failing_handler_ends .backupRunner
  obtain ⟨ended, unstopped⟩ := Bool.and_eq_true_iff.mp shown
  have stopped := always .backupRunner false oneCall state reached ended
  rw [stopped] at unstopped
  cases unstopped

end ProxSync.Workers
