import ProxSync.Lib.System
import ProxSync.History.Artifact
/-!
# The run executor

The executor of backup runs as a transition system over the database, what the executor is doing,
its in-memory set of cancelled runs, the cancel requests in flight and a journal of what it told
the agent and what the agent told it. A step is what happens between two suspension points: one
transaction, one request, one reply, or one turn of the loop over the targets of a run. Shutdown
requests, crashes, restarts, cancel requests and the writers of finished history rows interleave
with the executor at every step.
-/
open ProxSync.Lib ProxSync.Retention ProxSync.History

namespace ProxSync.Runner

/-- How many running rows a restart looks at. -/
def recoveryScanLimit : Nat := 1000

/-- The options of a run that the executor branches on. -/
structure RunOptions where
  storage : String
  upload : Bool
  deriving DecidableEq, Repr

/-- What the executor is configured with: how long an unanswering agent is waited for, and the
validation of stored options, which rejects what does not fit their schema. -/
structure Config where
  agentUnreachableGraceSeconds : Nat
  validateOptions : JsonDict → Option RunOptions

/-- A run as it is read out of the database. -/
structure RunPlan where
  options : RunOptions
  targets : List ResolvedTarget
  /-- Guests the run already finished. -/
  completed : List GuestKey
  /-- Guests whose row was still running, with the row. -/
  adoptable : List (GuestKey × Nat)
  deriving DecidableEq

/-- The target being backed up and the targets after it. -/
structure Work where
  runId : Nat
  plan : RunPlan
  target : ResolvedTarget
  rest : List ResolvedTarget
  deriving DecidableEq

/-- The agent's answer to a request it takes on. -/
structure AgentTaskAccepted where
  taskId : String
  correlationId : Option String
  deriving DecidableEq, Repr

/-- How the end of a run was reached. -/
inductive RunExit
  | normal
  | cancelled
  | crashed
  deriving DecidableEq, Repr

/-- Where the executor is suspended. -/
inductive Phase
  | down
  | starting
  | recovering (pending : List Nat) (adoptable : List (Nat × String))
  | idle
  | claiming (runId : Nat)
  | claimed (runId : Nat)
  | opening (work : Work)
  | asking (work : Work) (backupId : Nat)
  | awaiting (work : Work) (backupId : Nat)
  | storing (work : Work) (backupId : Nat) (accepted : AgentTaskAccepted)
  | polling (work : Work) (backupId : Nat) (taskId : String) (unreachableSince : Option Nat)
  | querying (work : Work) (backupId : Nat) (taskId : String) (unreachableSince : Option Nat)
  | finalising (runId : Nat) (error : Option String)
  | committing (runId : Nat) (error : Option String) (status : RunStatus) (exit : RunExit)
  | ended
  deriving DecidableEq

/-- How far a cancel request has come. -/
inductive RequestStage
  | sawQueued
  | sawRunning
  | marked
  deriving DecidableEq, Repr

/-- What the executor did and learned, as far as it can be seen from outside. -/
inductive Event
  | sent (runId : Nat) (guest : GuestKey) (backupId : Nat)
  | refused (backupId : Nat)
  | reported (backupId : Nat) (taskId : String) (state : AgentTaskState)
  | cancelAccepted (runId : Nat)
  | finalised (runId : Nat) (status : RunStatus) (exit : RunExit)
  deriving DecidableEq, Repr

/-- The state of the dashboard as far as runs are concerned. -/
structure State where
  db : Database
  phase : Phase
  /-- Runs whose cancellation was requested from this process. -/
  cancelled : List Nat
  stopping : Bool
  requests : List (Nat × RequestStage)
  /-- Everything that happened, latest first. -/
  journal : List Event

/-- The agent's answer to a start request. -/
inductive StartReply
  | accepted (accepted : AgentTaskAccepted)
  | refused (detail : String)
  | lost (detail : String)
  deriving DecidableEq, Repr

/-- The agent's answer to a question about a task. -/
inductive TaskReply
  | task (task : AgentTask)
  | notFound (detail : String)
  | error (detail : String)
  | unavailable (detail : String)
  deriving DecidableEq

/-- A write to a history row by a route or another worker. -/
inductive HistoryWrite
  | deleteLocal (now : Instant)
  | retain (location : RetentionLocation) (now : Instant)
  | upload (status : UploadStatus)
  | recordUpload (result : UploadResult)
  | verify (result : VerifyResult) (now : Instant)
  | present
  | lock (locked : Bool)
  deriving DecidableEq

/-- What may happen next. -/
inductive Action
  | createRun (id : Nat) (jobId : Option Nat) (trigger : TriggerType) (targets : Targets)
      (options : Option JsonDict)
  | importFile (id : Nat) (artifact : AgentArtifact)
  | changeRestores (restores : Table RestoreHistory.id)
  | writeHistory (id : Nat) (write : HistoryWrite)
  | boot
  | crash
  | stop
  | scan
  | interruptPending (now : Instant)
  | recoverTask (reply : TaskReply) (now : Instant)
  | requeue
  | claimRead
  | claimCommit (now : Instant)
  | loadPlan (now : Instant)
  | openBackup (id : Nat) (now : Instant)
  | send
  | refuseToSend (detail : String) (now : Instant)
  | startReply (reply : StartReply) (now : Instant)
  | storeTask
  | query
  | taskReply (reply : TaskReply) (now : Instant) (clock : Nat)
  | pollStop
  | raise
  | decide
  | finalise (now : Instant)
  | exitLoop
  | cancelRead (runId : Nat)
  | cancelCommit (runId : Nat) (now : Instant)
  | cancelMark (runId : Nat)
  | cancelReturn (runId : Nat)

/-- The error a crashed execution leaves on its run. -/
def crashMessage : String := "The run executor failed unexpectedly"

/-- The error of a row whose request was not confirmed before a restart. -/
def restartMessage : String :=
  "The dashboard restarted before the agent confirmed this backup. It was not " ++
  "retried automatically, because the request may still have reached the host. " ++
  "Check the node, then run it again if needed."

/-- The error of a row whose task the agent forgot. -/
def forgottenMessage : String :=
  "The agent no longer has a record of this task, so its outcome cannot be " ++
  "established. Check the node's dump directory before running it again."

/-- The error of a row whose task stopped answering. -/
def unreachableMessage (waited : Nat) (detail : String) : String :=
  s!"The agent stopped answering for {waited}s while this backup " ++
  s!"was running ({detail}). Its outcome is unknown — check the " ++
  "host before retrying."

/-! ## Reads and writes of the executor -/

/-- Rows of a run, by id. -/
def forRun (db : Database) (runId : Nat) : List BackupHistory :=
  db.history.rows.filter fun record => record.runId == some runId

/-- The status of a stored run. -/
def runStatus (db : Database) (runId : Nat) : Option RunStatus :=
  (db.runs.get runId).map BackupRun.status

/-- The oldest queued run. -/
def nextQueued (db : Database) : Option BackupRun :=
  db.runs.rows.find? fun run => run.status == .queued

/-- The running rows a restart looks at, newest first. -/
def runningRows (db : Database) : List BackupHistory :=
  (orderNewestFirst (db.history.rows.filter fun record => record.status == .running)).take
    recoveryScanLimit

/-- Rewrite one run. -/
def setRun (db : Database) (runId : Nat) (update : BackupRun → BackupRun)
    (keeps : ∀ run, (update run).id = run.id) : Database :=
  { db with runs := db.runs.modify runId update keeps }

/-- Rewrite one history row. -/
def setRecord (db : Database) (id : Nat) (update : BackupHistory → BackupHistory)
    (keeps : ∀ record, (update record).id = record.id) : Database :=
  { db with history := db.history.modify id update keeps }

/-- Count a finished guest on its run. -/
def bump (succeeded : Bool) (run : BackupRun) : BackupRun :=
  if succeeded then { run with guestSucceeded := run.guestSucceeded + 1 }
  else { run with guestFailed := run.guestFailed + 1 }

/-- Counting keeps the run's id. -/
theorem bump_id (succeeded : Bool) (run : BackupRun) : (bump succeeded run).id = run.id := by
  cases succeeded <;> rfl

/-- Count a finished guest on a stored run. -/
def bumpCounters (db : Database) (runId : Nat) (succeeded : Bool) : Database :=
  setRun db runId (bump succeeded) (bump_id succeeded)

/-- Close a row without an outcome and count it on its run. -/
def closeBackup (db : Database) (backupId : Nat) (status : BackupStatus) (message : String)
    (now : Instant) : Database :=
  match db.history.get backupId with
  | none => db
  | some record =>
    let closed := setRecord db backupId (History.closeBackup status message now) fun _ => rfl
    match record.runId with
    | none => closed
    | some runId => bumpCounters closed runId false

/-- Whether another row of the same storage carries the row's filename. -/
def nameTaken (db : Database) (record : BackupHistory) : Bool :=
  record.filename.isSome && db.history.rows.any fun other =>
    other.id != record.id && other.storage == record.storage && other.filename == record.filename

/-- Record a task's outcome and count it on a run. Nothing is returned where the unique names of
a storage reject the write. -/
def recordOutcome (db : Database) (backupId runId : Nat) (task : AgentTask) (upload : Bool)
    (now : Instant) : Option Database :=
  match db.history.get backupId with
  | none => some db
  | some record =>
    if nameTaken db (History.recordOutcome task upload now record) then none
    else
      let recorded := setRecord db backupId (History.recordOutcome task upload now)
        (recordOutcome_id task upload now)
      some (bumpCounters recorded runId (task.state.backupStatus == .success))

/-- The terminal status of a run, from its rows. -/
def summariseRun (run : BackupRun) (records : List BackupHistory) : RunStatus :=
  let succeeded := records.countP fun record => record.status == .success
  let cancelled := records.countP fun record => record.status == .cancelled
  if records.isEmpty then .failed
  else if 0 < cancelled ∧ succeeded = 0 then .cancelled
  else if succeeded = run.guestTotal then .success
  else if succeeded = 0 then (if 0 < cancelled then .cancelled else .failed)
  else .partialSuccess

/-- Validate the stored options of a run. -/
def runOptions (config : Config) (run : BackupRun) : Option RunOptions :=
  config.validateOptions (run.options.getD .empty)

/-- The plan of a run: its targets, the guests it finished, and the rows it left running. -/
def runPlan (options : RunOptions) (run : BackupRun) (records : List BackupHistory) : RunPlan where
  options := options
  targets := run.targets.list
  completed := (records.filter fun record => record.status.isTerminal).map BackupHistory.key
  -- The last row of a guest wins.
  adoptable := ((records.filter fun record => record.status == .running).map
    fun record => (record.key, record.id)).reverse

/-- The run a recovered row belonged to, and whether it was meant to be uploaded. -/
def contextFor (config : Config) (db : Database) (backupId : Nat) : Option (Nat × Bool) :=
  match ((db.history.get backupId).bind BackupHistory.runId).bind db.runs.get with
  | none => some (0, false)
  | some run => (runOptions config run).map fun options => (run.id, options.upload)

/-- The turn of the target loop up to its next suspension: stop between two guests, break at a
cancelled run, skip finished guests, or take up the next one. -/
def resumeLoop (runId : Nat) (plan : RunPlan) (cancelled : List Nat) (stopping : Bool) :
    List ResolvedTarget → Phase
  | [] => .finalising runId none
  | target :: rest =>
    if stopping then .idle
    else if runId ∈ cancelled then .finalising runId none
    else if target.key ∈ plan.completed then resumeLoop runId plan cancelled stopping rest
    else .opening ⟨runId, plan, target, rest⟩

/-- A run as it is created. -/
def queuedRun (id : Nat) (jobId : Option Nat) (trigger : TriggerType) (targets : Targets)
    (options : Option JsonDict) : BackupRun where
  id := id
  jobId := jobId
  trigger := trigger
  status := .queued
  guestTotal := targets.list.length
  guestSucceeded := 0
  guestFailed := 0
  targets := targets
  options := options
  startedAt := none
  finishedAt := none
  errorMessage := none

/-- Take a run off the queue; the start of a resumed run is kept. -/
def claim (now : Instant) (run : BackupRun) : BackupRun :=
  { run with status := .running, startedAt := run.startedAt.or (some now) }

/-- Put a run that was in flight back on the queue. -/
def requeued (run : BackupRun) : BackupRun :=
  if run.status = .running then { run with status := .queued } else run

/-- Requeueing keeps the run's id. -/
theorem requeued_id (run : BackupRun) : (requeued run).id = run.id := by
  unfold requeued
  split <;> rfl

/-- Note that a run is under way, where that was not noted. -/
def started (now : Instant) (run : BackupRun) : BackupRun :=
  { run with startedAt := run.startedAt.or (some now) }

/-- Write the outcome of a run. -/
def finished (status : RunStatus) (error : Option String) (now : Instant) (run : BackupRun) :
    BackupRun :=
  { run with
    status := status, finishedAt := some now, errorMessage := error.or run.errorMessage }

/-! ## Writers of finished rows -/

/-- Whether the writer finds the row in a state it acts on. -/
def HistoryWrite.applies (db : Database) (record : BackupHistory) : HistoryWrite → Bool
  | .deleteLocal _ => record.status != .running && !record.retentionLocked &&
      !hasActiveRestore db record.id && record.filename.isSome
  | .retain location _ => hasCopy location record && !record.retentionLocked &&
      !hasActiveRestore db record.id &&
      (location == .remoteCopy || (localUploadBlocker record).isNone)
  | .lock _ => true
  | _ => record.filename.isSome

/-- The row after the write. -/
def HistoryWrite.write : HistoryWrite → BackupHistory → BackupHistory
  | .deleteLocal now => deleteLocalArtifact now
  | .retain location now => markDeletedRow location now
  | .upload status => setUploadStatus status
  | .recordUpload result => History.recordUpload result
  | .verify result now => applyVerification result now
  | .present => markLocalCopyPresent
  | .lock locked => setRetentionLock locked

/-- A write keeps the id of its row. -/
theorem HistoryWrite.write_id (write : HistoryWrite) (record : BackupHistory) :
    (write.write record).id = record.id := by
  cases write with
  | deleteLocal => rfl
  | retain location now => exact markDeletedRow_id location now record
  | upload => rfl
  | recordUpload result => exact recordUpload_id result record
  | verify result now =>
    simp only [HistoryWrite.write, applyVerification]
    split <;> rfl
  | present => rfl
  | lock => rfl

/-! ## Steps -/

namespace State

/-- Suspend the executor somewhere else. -/
def goto (state : State) (phase : Phase) : State := { state with phase := phase }

/-- Write the database and suspend the executor somewhere else. -/
def commit (state : State) (db : Database) (phase : Phase) : State :=
  { state with db := db, phase := phase }

/-- Note that something happened. -/
def note (state : State) (event : Event) : State :=
  { state with journal := event :: state.journal }

/-- The next phase once the current target of some work is done with. -/
def nextTarget (state : State) (work : Work) : Phase :=
  resumeLoop work.runId work.plan state.cancelled state.stopping work.rest

/-- Whether requests are served: a process is up and its recovery is over. -/
def serving (state : State) : Bool :=
  match state.phase with
  | .down | .starting | .recovering _ _ => false
  | _ => true

/-- Close the row of some work and go on with the next target. -/
def close (state : State) (work : Work) (backupId : Nat) (status : BackupStatus)
    (message : String) (now : Instant) : State :=
  state.commit (closeBackup state.db backupId status message now) (state.nextTarget work)

/-- Give up on a run after an unexpected failure. -/
def crashed (state : State) (runId : Nat) : State :=
  state.goto (.finalising runId (some crashMessage))

/-- What recovery does with the agent's answer about a task. -/
def recoverTask (config : Config) (state : State) (backupId : Nat) (taskId : String)
    (rest : List (Nat × String)) (reply : TaskReply) (now : Instant) : Option State :=
  match reply with
  | .notFound _ =>
    some (state.commit (closeBackup state.db backupId .interrupted forgottenMessage now)
      (.recovering [] rest))
  | .error _ | .unavailable _ => some (state.goto (.recovering [] rest))
  | .task task =>
    if task.state.isTerminal then
      match contextFor config state.db backupId with
      | none => none
      | some (runId, upload) =>
        (recordOutcome state.db backupId runId task upload now).map fun db =>
          (state.commit db (.recovering [] rest)).note (.reported backupId taskId task.state)
    else some (state.goto (.recovering [] rest))

/-- Create the history row of a guest, or pick up the one a previous process left. -/
def openBackup (state : State) (work : Work) (id : Nat) (now : Instant) : Option State :=
  match (work.plan.adoptable.lookup work.target.key).bind state.db.history.get with
  | some adopted =>
    match adopted.agentTaskId with
    | some taskId => some (state.goto (.polling work adopted.id taskId none))
    | none => some (state.goto (.asking work adopted.id))
  | none =>
    let record := BackupHistory.create id (some work.runId) work.target work.plan.options.storage
      (if work.plan.options.upload then .pending else .notRequired) now
    if fresh : ∀ other ∈ state.db.history, other.id < id then
      let history := state.db.history.insert record fresh
      some (state.commit { state.db with history } (.asking work id))
    else none

/-- Since when the agent has not answered; a first failure at zero counts as none. -/
def silentSince (unreachableSince : Option Nat) (clock : Nat) : Nat :=
  match unreachableSince with
  | none | some 0 => clock
  | some since => since

/-- What polling does when the agent did not answer with the task. -/
def agentSilent (config : Config) (state : State) (work : Work) (backupId : Nat) (taskId : String)
    (unreachableSince : Option Nat) (detail : String) (now : Instant) (clock : Nat) : State :=
  let since := silentSince unreachableSince clock
  let waited := clock - since
  if config.agentUnreachableGraceSeconds * 1000000 < waited then
    state.close work backupId .interrupted (unreachableMessage (waited / 1000000) detail) now
  else state.goto (.polling work backupId taskId (some since))

/-- What polling does with the agent's answer about a task. -/
def taskReply (config : Config) (state : State) (work : Work) (backupId : Nat) (taskId : String)
    (unreachableSince : Option Nat) (reply : TaskReply) (now : Instant) (clock : Nat) : State :=
  match reply with
  | .notFound detail | .error detail | .unavailable detail =>
    state.agentSilent config work backupId taskId unreachableSince detail now clock
  | .task task =>
    if task.state.isTerminal then
      let noted := state.note (.reported backupId taskId task.state)
      match recordOutcome state.db backupId work.runId task work.plan.options.upload now with
      | none => noted.crashed work.runId
      | some db => noted.commit db (state.nextTarget work)
    else state.goto (.polling work backupId taskId none)

/-- Where an unexpected failure of the executor leads, if one can happen. -/
def raise (state : State) : Option State :=
  match state.phase with
  | .claiming _ => some (state.goto .idle)
  | .claimed runId | .finalising runId none | .committing runId none _ _ =>
    some (state.crashed runId)
  | .opening work | .asking work _ | .awaiting work _ | .storing work _ _ |
    .polling work _ _ _ | .querying work _ _ _ => some (state.crashed work.runId)
  | .finalising _ (some _) | .committing _ (some _) _ _ => some (state.goto .ended)
  | _ => none

/-- Read a claimed run and enter its target loop. -/
def loadPlan (config : Config) (state : State) (runId : Nat) (now : Instant) : State :=
  match state.db.runs.get runId with
  | none => state.goto .idle
  | some run =>
    match runOptions config run with
    | none => state.crashed runId
    | some options =>
      let plan := runPlan options run (forRun state.db runId)
      let cancelled := state.cancelled.filter fun other => other != runId
      { state with
        db := setRun state.db runId (started now) fun _ => rfl
        cancelled := cancelled
        phase := resumeLoop runId plan cancelled state.stopping plan.targets }

/-- Work out the status a run ends with. -/
def decide (state : State) (runId : Nat) (error : Option String) : State :=
  match state.db.runs.get runId with
  | none => state.goto .idle
  | some run =>
    if runId ∈ state.cancelled then state.goto (.committing runId error .cancelled .cancelled)
    else if error.isSome then state.goto (.committing runId error .failed .crashed)
    else state.goto (.committing runId error (summariseRun run (forRun state.db runId)) .normal)

/-- Write the status a run ends with and forget its cancellation. -/
def finalise (state : State) (runId : Nat) (error : Option String) (status : RunStatus)
    (exit : RunExit) (now : Instant) : State :=
  let db := setRun state.db runId (finished status error now) fun _ => rfl
  { state with
    db := db, phase := .idle
    cancelled := state.cancelled.filter fun other => other != runId
    journal := .finalised runId status exit :: state.journal }

/-- The read of a cancel request; a run that is over is refused. -/
def cancelRead (state : State) (runId : Nat) : Option State :=
  match state.db.runs.get runId with
  | none => none
  | some run =>
    match run.status with
    | .queued => some { state with requests := (runId, .sawQueued) :: state.requests }
    | .running => some { state with requests := (runId, .sawRunning) :: state.requests }
    | _ => none

end State

/-- The effect of one action, or nothing where it cannot happen. -/
def step (config : Config) (state : State) : Action → Option State
  | .createRun id jobId trigger targets options =>
    if fresh : (∀ other ∈ state.db.runs, other.id < id) ∧ targets.list ≠ [] then
      let runs := state.db.runs.insert (queuedRun id jobId trigger targets options) fresh.1
      some (state.commit { state.db with runs } state.phase)
    else none
  | .importFile id artifact =>
    if fresh : ∀ other ∈ state.db.history, other.id < id then
      let history := state.db.history.insert (importRow id artifact) fresh
      some (state.commit { state.db with history } state.phase)
    else none
  | .changeRestores restores => some (state.commit { state.db with restores } state.phase)
  | .writeHistory id write =>
    match state.db.history.get id with
    | none => none
    | some record =>
      if write.applies state.db record then
        some (state.commit (setRecord state.db id write.write write.write_id) state.phase)
      else none
  | .boot =>
    match state.phase with
    | .down => some { state with phase := .starting, cancelled := [], stopping := false }
    | _ => none
  | .crash => some { state with phase := .down, requests := [] }
  | .stop => if state.serving then some { state with stopping := true } else none
  | .scan =>
    match state.phase with
    | .starting =>
      let rows := runningRows state.db
      some (state.goto (.recovering
        ((rows.filter fun record => record.agentTaskId.isNone).map BackupHistory.id)
        (rows.filterMap fun record => record.agentTaskId.map fun taskId => (record.id, taskId))))
    | _ => none
  | .interruptPending now =>
    match state.phase with
    | .recovering (backupId :: pending) adoptable =>
      some (state.commit (closeBackup state.db backupId .interrupted restartMessage now)
        (.recovering pending adoptable))
    | _ => none
  | .recoverTask reply now =>
    match state.phase with
    | .recovering [] ((backupId, taskId) :: rest) =>
      state.recoverTask config backupId taskId rest reply now
    | _ => none
  | .requeue =>
    match state.phase with
    | .recovering [] [] =>
      let runs := state.db.runs.map requeued requeued_id
      some { state with db := { state.db with runs }, phase := .idle, stopping := false }
    | _ => none
  | .claimRead =>
    match state.phase with
    | .idle =>
      if state.stopping then none
      else (nextQueued state.db).map fun run => state.goto (.claiming run.id)
    | _ => none
  | .claimCommit now =>
    match state.phase with
    | .claiming runId =>
      some (state.commit (setRun state.db runId (claim now) fun _ => rfl) (.claimed runId))
    | _ => none
  | .loadPlan now =>
    match state.phase with
    | .claimed runId => some (state.loadPlan config runId now)
    | _ => none
  | .openBackup id now =>
    match state.phase with
    | .opening work => state.openBackup work id now
    | _ => none
  | .send =>
    match state.phase with
    | .asking work backupId =>
      some ((state.goto (.awaiting work backupId)).note
        (.sent work.runId work.target.key backupId))
    | _ => none
  | .refuseToSend detail now =>
    match state.phase with
    | .asking work backupId => some (state.close work backupId .failed detail now)
    | _ => none
  | .startReply reply now =>
    match state.phase with
    | .awaiting work backupId =>
      match reply with
      | .accepted accepted => some (state.goto (.storing work backupId accepted))
      | .refused detail =>
        some ((state.close work backupId .failed detail now).note (.refused backupId))
      | .lost detail => some (state.close work backupId .failed detail now)
    | _ => none
  | .storeTask =>
    match state.phase with
    | .storing work backupId accepted =>
      let stored := setRecord state.db backupId
        (History.storeTask accepted.taskId accepted.correlationId) fun _ => rfl
      some (state.commit stored (.polling work backupId accepted.taskId none))
    | _ => none
  | .query =>
    match state.phase with
    | .polling work backupId taskId since =>
      if state.stopping then none else some (state.goto (.querying work backupId taskId since))
    | _ => none
  | .taskReply reply now clock =>
    match state.phase with
    | .querying work backupId taskId since =>
      some (state.taskReply config work backupId taskId since reply now clock)
    | _ => none
  | .pollStop =>
    match state.phase with
    | .polling work _ _ _ =>
      if state.stopping then some (state.goto (state.nextTarget work)) else none
    | _ => none
  | .raise => state.raise
  | .decide =>
    match state.phase with
    | .finalising runId error => some (state.decide runId error)
    | _ => none
  | .finalise now =>
    match state.phase with
    | .committing runId error status exit => some (state.finalise runId error status exit now)
    | _ => none
  | .exitLoop =>
    match state.phase with
    | .idle => if state.stopping then some (state.goto .ended) else none
    | _ => none
  | .cancelRead runId => if state.serving then state.cancelRead runId else none
  | .cancelCommit runId now =>
    if (runId, RequestStage.sawQueued) ∈ state.requests then
      let cancel := finished .cancelled (some "Cancelled before it started") now
      some ({ state with
        db := setRun state.db runId cancel fun _ => rfl
        requests := state.requests.erase (runId, .sawQueued) }.note (.cancelAccepted runId))
    else none
  | .cancelMark runId =>
    if (runId, RequestStage.sawRunning) ∈ state.requests then
      some { state with
        cancelled := runId :: state.cancelled
        requests := (runId, .marked) :: state.requests.erase (runId, .sawRunning) }
    else none
  | .cancelReturn runId =>
    if (runId, RequestStage.marked) ∈ state.requests then
      some ({ state with requests := state.requests.erase (runId, .marked) }.note
        (.cancelAccepted runId))
    else none

/-- The executor of a new installation, under every schedule of its environment. -/
def system (config : Config) : System State Action where
  init state := state = ⟨.empty, .down, [], false, [], []⟩
  step := step config

/-! ## A short schedule -/

/-- A configuration that takes every stored option object for the same options. -/
def plainConfig : Config := ⟨300, fun _ => some ⟨"backup-hdd", false⟩⟩

/-- One guest. -/
def oneGuest : Targets := ⟨[⟨101, .vm, "web", "pve"⟩], by decide⟩

/-- Two guests. -/
def twoGuests : Targets := ⟨[⟨101, .vm, "web", "pve"⟩, ⟨102, .lxc, "db", "pve"⟩], by decide⟩

/-- A process that is up and has put everything back on the queue. -/
def startUp : List Action := [.boot, .scan, .requeue]

/-- A run over the targets that the executor has claimed. -/
def claimRun (targets : Targets) : List Action :=
  .createRun 1 none .manual targets none :: startUp ++ [.claimRead, .claimCommit 10]

/-- The start request of the run's first guest. -/
def askAgent (targets : Targets) : List Action :=
  claimRun targets ++ [.loadPlan 11, .openBackup 1 12, .send]

/-- The agent takes the request on and is asked about the task. -/
def askedTask (targets : Targets) : List Action :=
  askAgent targets ++ [.startReply (.accepted ⟨"task-1", none⟩) 13, .storeTask, .query]

/-- A task that produced an archive. -/
def archived (filename : String) : AgentTask :=
  ⟨.success, some 20, none, .singleton "filename" (.str filename)⟩

/-- The first guest is backed up. -/
def firstDone (targets : Targets) : List Action :=
  askedTask targets ++ [.taskReply (.task (archived "vzdump-qemu-101.vma.zst")) 20 0]

end ProxSync.Runner
