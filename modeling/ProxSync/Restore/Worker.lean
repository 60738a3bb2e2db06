import ProxSync.Runner.Executor
/-!
# The restore worker

The worker that drives confirmed restores onto the host, as a transition system over the restore
rows, what the worker is doing, the restores it adopted from an earlier process and a journal of
what it told the agent and what the agent told it. A backup that is only on Drive is downloaded
first. Requests, confirmations, cancellations, expiries, shutdown requests, crashes and restarts
interleave with the worker at every step.
-/
open ProxSync.Lib ProxSync.History
open ProxSync.Runner (StartReply TaskReply)

namespace ProxSync.Restore

/-- What the worker is configured with. -/
structure Config where
  agentUnreachableGraceSeconds : Nat
  deriving DecidableEq, Repr

/-- A confirmed restore as it is read out of the database. -/
structure RestorePlan where
  restoreId : Nat
  filename : String
  source : RestoreSource
  backupId : Nat
  deriving DecidableEq, Repr

/-- What a followed task is for. -/
inductive Goal
  | download (plan : RestorePlan)
  | restore (restoreId : Nat)
  deriving DecidableEq, Repr

/-- The restore a followed task is for. -/
def Goal.restoreId : Goal → Nat
  | .download plan => plan.restoreId
  | .restore restoreId => restoreId

/-- Where the worker is suspended. -/
inductive Phase
  | down
  | starting
  | recovering (pending : List Nat) (adoptable : List (Nat × String))
  | idle
  | sweeping
  | loading (restoreId : Nat)
  | fetching (plan : RestorePlan)
  | marking (plan : RestorePlan)
  | asking (plan : RestorePlan)
  | awaiting (plan : RestorePlan)
  | storing (restoreId : Nat) (taskId : String)
  | polling (goal : Goal) (taskId : String) (unreachableSince : Option Nat)
  | querying (goal : Goal) (taskId : String) (unreachableSince : Option Nat)
  | ended
  deriving DecidableEq

/-- The restore the worker is executing. -/
def Phase.current : Phase → Option Nat
  | .loading restoreId | .storing restoreId _ => some restoreId
  | .fetching plan | .marking plan | .asking plan | .awaiting plan => some plan.restoreId
  | .polling goal _ _ | .querying goal _ _ => some goal.restoreId
  | _ => none

/-- What the worker did and learned about the restores it started. -/
inductive Event
  | sent (restoreId : Nat)
  | refused (restoreId : Nat)
  | reported (restoreId : Nat) (taskId : String) (state : AgentTaskState)
  deriving DecidableEq, Repr

/-- The state of the dashboard as far as restores are concerned. -/
structure State where
  db : Database
  phase : Phase
  /-- Restores an earlier process left running, with their tasks. -/
  resume : List (Nat × String)
  stopping : Bool
  /-- Everything that happened, latest first. -/
  journal : List Event

/-- Why a start request is not sent at all: the agent counts as unreachable, or the dashboard is not
set up for it. -/
inductive Unsent
  | paused (detail : String)
  | misconfigured (detail : String)
  deriving DecidableEq, Repr

/-- What may happen next. -/
inductive Action
  | request (id backupId : Nat) (source : RestoreSource)
  | confirm (id : Nat) (source : RestoreSource)
  | cancel (id : Nat) (now : Instant)
  | expire (id : Nat) (now : Instant)
  | changeBackups (history : Table BackupHistory.id)
  | boot
  | crash
  | stop
  | scan
  | interruptPending (now : Instant)
  | adopt
  | turn
  | claim (now : Instant)
  | load (now : Instant)
  | download (enabled : Bool) (reply : StartReply) (now : Instant)
  | markLocal
  | send
  | refuseToSend (reason : Unsent) (now : Instant)
  | startReply (reply : StartReply) (now : Instant)
  | storeTask
  | query
  | taskReply (reply : TaskReply) (now : Instant) (clock : Nat)
  | pollStop
  | raise (now : Instant)
  | die
  | exitLoop

/-! ## Messages -/

/-- The error of a restore whose archive is gone. -/
def missingMessage : String := "The backup this restore refers to no longer has an artifact."

/-- The error of a restore whose archive cannot be fetched. -/
def driveDisabledMessage : String :=
  "This backup exists only on Google Drive, but Drive sync is disabled, so the " ++
  "archive cannot be fetched."

/-- The error of a restore whose start was not answered. -/
def lostMessage (detail : String) : String :=
  s!"The agent could not be reached while starting this restore ({detail}). " ++
  "The request may still have arrived — check the guest on the node before running it again."

/-- The error of a restore whose task the agent forgot. -/
def forgottenMessage : String :=
  "The agent no longer has a record of this task, so the restore's outcome cannot be " ++
  "established. Check the guest on the node before running it again."

/-- The error of a restore whose task stopped answering. -/
def unreachableMessage (waited : Nat) (detail : String) : String :=
  s!"The agent stopped answering for {waited}s while this restore " ++
  s!"was running ({detail}). Its outcome is unknown — check the " ++
  "guest on the node before running it again."

/-- The error of a restore whose start was not confirmed before a restart. -/
def restartMessage : String :=
  "The dashboard restarted before the agent confirmed this restore. It was not " ++
  "retried automatically, because the request may still have reached the host. " ++
  "Check the guest on the node before running it again."

/-- The error of a restore whose execution failed unexpectedly. -/
def crashMessage : String :=
  "The restore executor failed unexpectedly. The target guest may be in a " ++
  "partial state — check the node before running this again."

/-- The error of a restore that was cancelled before it started. -/
def cancelMessage : String := "Cancelled before it started"

/-- The error of a restore that nobody confirmed. -/
def expiryMessage : String := "The confirmation window closed before it was confirmed"

/-- The stored text of a task state. -/
def stateText : AgentTaskState → String
  | .success => "success"
  | .failed => "failed"
  | .cancelled => "cancelled"
  | .interrupted => "interrupted"
  | .other text => text

/-- A text that is not empty. -/
def filledText (text : Option String) : Option String := text.filter fun text => text != ""

/-- The error of a restore whose download did not succeed. -/
def downloadMessage (task : AgentTask) : String :=
  (filledText task.error).getD s!"The download ended in state '{stateText task.state}'"

/-- The warnings of a task, as they are shown on its row. -/
def warningText (result : JsonDict) : Option String :=
  match result.get? "warnings" with
  | some (.list (item :: items)) =>
    some (String.ofList ((String.intercalate "; " (item :: items)).toList.take 2000))
  | _ => none

/-! ## Reads and writes -/

/-- The restore status of a reported state; an unknown state counts as failed. -/
def restoreStatus : AgentTaskState → RestoreStatus
  | .success => .success
  | .failed => .failed
  | .cancelled => .cancelled
  | .interrupted => .interrupted
  | .other _ => .failed

/-- A restore as it is requested. -/
def requested (id backupId : Nat) (source : RestoreSource) : RestoreHistory where
  id := id
  backupId := backupId
  source := source
  status := .pendingConfirmation
  agentTaskId := none
  startedAt := none
  finishedAt := none
  errorMessage := none

/-- Authorise a restore, from where its archive was found. -/
def authorise (source : RestoreSource) (record : RestoreHistory) : RestoreHistory :=
  { record with status := .confirmed, source := source }

/-- An authorised restore keeps its id. -/
theorem authorise_id (source : RestoreSource) (record : RestoreHistory) :
    (authorise source record).id = record.id := rfl

/-- Take a confirmed restore off the queue. -/
def claim (now : Instant) (record : RestoreHistory) : RestoreHistory :=
  { record with status := .running, startedAt := record.startedAt.or (some now) }

/-- A claimed restore keeps its id. -/
theorem claim_id (now : Instant) (record : RestoreHistory) :
    (claim now record).id = record.id := rfl

/-- Close a restore without an outcome from the agent. -/
def closeRestore (status : RestoreStatus) (message : String) (now : Instant)
    (record : RestoreHistory) : RestoreHistory :=
  { record with status := status, errorMessage := some message, finishedAt := some now }

/-- A closed restore keeps its id. -/
theorem closeRestore_id (status : RestoreStatus) (message : String) (now : Instant)
    (record : RestoreHistory) : (closeRestore status message now record).id = record.id := rfl

/-- Keep the task the agent accepted the request as. -/
def attachTask (taskId : String) (record : RestoreHistory) : RestoreHistory :=
  { record with agentTaskId := some taskId }

/-- A restore with a task keeps its id. -/
theorem attachTask_id (taskId : String) (record : RestoreHistory) :
    (attachTask taskId record).id = record.id := rfl

/-- Record the terminal state of a task. -/
def recordOutcome (task : AgentTask) (now : Instant) (record : RestoreHistory) : RestoreHistory :=
  { record with
    status := restoreStatus task.state
    finishedAt := task.finishedAt.or (some now)
    errorMessage := (filledText task.error).or (warningText task.result) }

/-- A restore with an outcome keeps its id. -/
theorem recordOutcome_id (task : AgentTask) (now : Instant) (record : RestoreHistory) :
    (recordOutcome task now record).id = record.id := rfl

/-- Rewrite one restore. -/
def setRestore (db : Database) (id : Nat) (update : RestoreHistory → RestoreHistory)
    (keeps : ∀ record, (update record).id = record.id) : Database :=
  { db with restores := db.restores.modify id update keeps }

/-- The oldest confirmed restore. -/
def nextConfirmed (db : Database) : Option RestoreHistory :=
  db.restores.rows.find? fun record => record.status == .confirmed

/-- The restores a restart has to reconcile. -/
def runningRestores (db : Database) : List RestoreHistory :=
  db.restores.rows.filter fun record => record.status == .running

/-! ## Steps -/

namespace State

/-- Suspend the worker somewhere else. -/
def goto (state : State) (phase : Phase) : State := { state with phase := phase }

/-- Write the database and suspend the worker somewhere else. -/
def commit (state : State) (db : Database) (phase : Phase) : State :=
  { state with db := db, phase := phase }

/-- Note that something happened. -/
def note (state : State) (event : Event) : State :=
  { state with journal := event :: state.journal }

/-- Whether requests are served: a process is up and its recovery is over. -/
def serving (state : State) : Bool :=
  match state.phase with
  | .down | .starting | .recovering _ _ => false
  | _ => true

/-- Close a restore and wait for the next one. -/
def close (state : State) (restoreId : Nat) (status : RestoreStatus) (message : String)
    (now : Instant) : State :=
  state.commit (setRestore state.db restoreId (closeRestore status message now) fun _ => rfl) .idle

/-- Adopt a restore of an earlier process, or claim a confirmed one. -/
def claim (state : State) (now : Instant) : State :=
  match state.resume with
  | (restoreId, taskId) :: rest =>
    { state with resume := rest, phase := .polling (.restore restoreId) taskId none }
  | [] =>
    match nextConfirmed state.db with
    | none => state.goto .idle
    | some record =>
      state.commit (setRestore state.db record.id (Restore.claim now) fun _ => rfl)
        (.loading record.id)

/-- Read the plan of a claimed restore, or the reason there is none. -/
def load (state : State) (restoreId : Nat) (now : Instant) : State :=
  match state.db.restores.get restoreId with
  | none => state.goto .idle
  | some record =>
    match (state.db.history.get record.backupId).bind BackupHistory.filename with
    | none => state.close restoreId .failed missingMessage now
    | some filename =>
      let plan : RestorePlan := ⟨record.id, filename, record.source, record.backupId⟩
      if record.source = .gdrive then state.goto (.fetching plan) else state.goto (.asking plan)

/-- Fetch an archive that is only on Drive. -/
def download (state : State) (plan : RestorePlan) (enabled : Bool) (reply : StartReply)
    (now : Instant) : State :=
  if enabled then
    match reply with
    | .accepted accepted => state.goto (.polling (.download plan) accepted.taskId none)
    | .refused detail | .lost detail => state.close plan.restoreId .failed detail now
  else state.close plan.restoreId .failed driveDisabledMessage now

/-- What polling does when the agent did not answer with the task. -/
def agentSilent (config : Config) (state : State) (goal : Goal) (taskId : String)
    (unreachableSince : Option Nat) (detail : String) (now : Instant) (clock : Nat) : State :=
  let since := Runner.State.silentSince unreachableSince clock
  let waited := clock - since
  if config.agentUnreachableGraceSeconds * 1000000 < waited then
    state.close goal.restoreId .interrupted (unreachableMessage (waited / 1000000) detail) now
  else state.goto (.polling goal taskId (some since))

/-- What the worker does with a task that is over. -/
def taskOver (state : State) (task : AgentTask) (now : Instant) : Goal → State
  | .restore restoreId =>
    state.commit (setRestore state.db restoreId (recordOutcome task now) fun _ => rfl) .idle
  | .download plan =>
    if task.state = .success then state.goto (.marking plan)
    else state.close plan.restoreId .failed (downloadMessage task) now

/-- What polling does with the agent's answer about a task. -/
def taskReply (config : Config) (state : State) (goal : Goal) (taskId : String)
    (unreachableSince : Option Nat) (reply : TaskReply) (now : Instant) (clock : Nat) : State :=
  match reply with
  | .notFound _ => state.close goal.restoreId .interrupted forgottenMessage now
  | .error detail | .unavailable detail =>
    state.agentSilent config goal taskId unreachableSince detail now clock
  | .task task =>
    if task.state.isTerminal then
      (state.note (.reported goal.restoreId taskId task.state)).taskOver task now goal
    else state.goto (.polling goal taskId none)

end State

/-- The effect of one action, or nothing where it cannot happen. -/
def step (config : Config) (state : State) : Action → Option State
  | .request id backupId source =>
    if fresh : ∀ other ∈ state.db.restores, other.id < id then
      let restores := state.db.restores.insert (requested id backupId source) fresh
      some (state.commit { state.db with restores } state.phase)
    else none
  | .confirm id source =>
    match state.db.restores.get id with
    | none => none
    | some record =>
      if record.status = .pendingConfirmation then
        some (state.commit (setRestore state.db id (authorise source) fun _ => rfl) state.phase)
      else none
  | .cancel id now =>
    match state.db.restores.get id with
    | none => none
    | some record =>
      if record.status = .pendingConfirmation ∨ record.status = .confirmed then
        let cancelled := closeRestore .cancelled cancelMessage now
        some (state.commit (setRestore state.db id cancelled fun _ => rfl) state.phase)
      else none
  | .expire id now =>
    match state.db.restores.get id with
    | none => none
    | some record =>
      if record.status = .pendingConfirmation then
        let expired := closeRestore .expired expiryMessage now
        some (state.commit (setRestore state.db id expired fun _ => rfl) state.phase)
      else none
  | .changeBackups history => some (state.commit { state.db with history } state.phase)
  | .boot =>
    match state.phase with
    | .down => some { state with phase := .starting, resume := [], stopping := false }
    | _ => none
  | .crash => some (state.goto .down)
  | .stop => if state.serving then some { state with stopping := true } else none
  | .scan =>
    match state.phase with
    | .starting =>
      let rows := runningRestores state.db
      some (state.goto (.recovering
        ((rows.filter fun record => record.agentTaskId.isNone).map RestoreHistory.id)
        (rows.filterMap fun record => record.agentTaskId.map fun taskId => (record.id, taskId))))
    | _ => none
  | .interruptPending now =>
    match state.phase with
    | .recovering (restoreId :: pending) adoptable =>
      let interrupted := closeRestore .interrupted restartMessage now
      some (state.commit (setRestore state.db restoreId interrupted fun _ => rfl)
        (.recovering pending adoptable))
    | _ => none
  | .adopt =>
    match state.phase with
    | .recovering [] adoptable =>
      some { state with resume := adoptable, phase := .idle, stopping := false }
    | _ => none
  | .turn =>
    match state.phase with
    | .idle => if state.stopping then none else some (state.goto .sweeping)
    | _ => none
  | .claim now =>
    match state.phase with
    | .sweeping => some (state.claim now)
    | _ => none
  | .load now =>
    match state.phase with
    | .loading restoreId => some (state.load restoreId now)
    | _ => none
  | .download enabled reply now =>
    match state.phase with
    | .fetching plan => some (state.download plan enabled reply now)
    | _ => none
  | .markLocal =>
    match state.phase with
    | .marking plan =>
      let history :=
        state.db.history.modify plan.backupId markLocalCopyPresent markLocalCopyPresent_id
      some (state.commit { state.db with history } (.asking plan))
    | _ => none
  | .send =>
    match state.phase with
    | .asking plan => some ((state.goto (.awaiting plan)).note (.sent plan.restoreId))
    | _ => none
  | .refuseToSend reason now =>
    match state.phase with
    | .asking plan =>
      match reason with
      | .paused detail => some (state.close plan.restoreId .interrupted (lostMessage detail) now)
      | .misconfigured detail => some (state.close plan.restoreId .failed detail now)
    | _ => none
  | .startReply reply now =>
    match state.phase with
    | .awaiting plan =>
      match reply with
      | .accepted accepted => some (state.goto (.storing plan.restoreId accepted.taskId))
      | .refused detail =>
        some ((state.close plan.restoreId .failed detail now).note (.refused plan.restoreId))
      | .lost detail => some (state.close plan.restoreId .interrupted (lostMessage detail) now)
    | _ => none
  | .storeTask =>
    match state.phase with
    | .storing restoreId taskId =>
      some (state.commit (setRestore state.db restoreId (attachTask taskId) fun _ => rfl)
        (.polling (.restore restoreId) taskId none))
    | _ => none
  | .query =>
    match state.phase with
    | .polling goal taskId since =>
      if state.stopping then none else some (state.goto (.querying goal taskId since))
    | _ => none
  | .taskReply reply now clock =>
    match state.phase with
    | .querying goal taskId since => some (state.taskReply config goal taskId since reply now clock)
    | _ => none
  | .pollStop =>
    match state.phase with
    | .polling _ _ _ => if state.stopping then some (state.goto .idle) else none
    | _ => none
  | .raise now =>
    match state.phase with
    | .sweeping => some (state.goto .idle)
    | phase => phase.current.map fun restoreId =>
      state.close restoreId .interrupted crashMessage now
  | .die => if state.phase.current.isSome then some (state.goto .ended) else none
  | .exitLoop =>
    match state.phase with
    | .idle => if state.stopping then some (state.goto .ended) else none
    | _ => none

/-- The worker of a new installation, under every schedule of its environment. -/
def system (config : Config) : System State Action where
  init state := state = ⟨.empty, .down, [], false, []⟩
  step := step config

end ProxSync.Restore
