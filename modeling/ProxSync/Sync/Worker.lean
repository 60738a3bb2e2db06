import ProxSync.Lib.System
import ProxSync.History.Artifact
import ProxSync.History.Lifecycle
/-!
# The transfer queue

The sync worker, the requests that queue, cancel and retry transfers, and the other writers of the
rows they are about, as a transition system over the whole tables. A request holds the retention
guard from its first read to its commit, and so do the writes of the worker that move an upload;
but the worker scans for pending uploads, picks a transfer, marks it running and notes the agent's
task without the guard. So the state keeps what a request or the worker has read and not yet
written, and every step in between may be taken by somebody else.
-/
open ProxSync.Lib ProxSync.Retention ProxSync.History

namespace ProxSync.Sync

/-- The Drive settings the transfers read. The validator admits letters, digits, dots, underscores
and dashes in a remote name. -/
structure DriveSettings extends TransferConfig where
  enabled : Bool
  /-- A remote name is not empty and holds no colon. -/
  named : remoteName ≠ "" ∧ ':' ∉ remoteName.toList

/-- An object on a remote. -/
structure RemoteObject where
  remote : String
  path : String
  filename : String
  deriving DecidableEq, Repr

/-- How far the worker is with the transfer it holds. -/
inductive Stage
  /-- Read from the queue with its attempt counter, and not yet written back. -/
  | selected (attempt : Nat)
  | claimed
  | loaded (object : RemoteObject)
  | sent (object : RemoteObject)
  | accepted (agentTaskId : String)
  | following (agentTaskId : String)
  deriving DecidableEq, Repr

/-- Whether the transfer was marked running. -/
def Stage.isClaimed : Stage → Bool
  | .selected _ => false
  | _ => true

/-- Where the worker is suspended. -/
inductive Phase
  | down
  | idle
  /-- Scanning for pending uploads: the rows left to check, and those found without a transfer. -/
  | scanning (config : TransferConfig) (rest fresh : List Nat)
  | claiming
  | holding (taskId : Nat) (stage : Stage)
  | ended
  deriving DecidableEq

/-- The transfer the worker holds. -/
def Phase.held : Phase → Option Nat
  | .holding taskId _ => some taskId
  | _ => none

/-- The backups the worker is about to queue a transfer for. -/
def Phase.fresh : Phase → List Nat
  | .scanning _ _ fresh => fresh
  | _ => []

/-- A request that holds the guard, with what it read. -/
inductive Request
  | upload (backupId : Nat) (config : TransferConfig)
  | importArtifact (artifact : AgentArtifact) (config : TransferConfig)
  | cancel (read : SyncTask)
  | retry (read : SyncTask)
  deriving DecidableEq

/-- What the agent is asked to do with a remote object that is already there. -/
inductive RemoteCall
  | verification
  | download
  | removal
  deriving DecidableEq, Repr

/-- What happened to transfers and remote objects. -/
inductive Event
  | enqueued (taskId uploadRetry : Nat)
  | retried (taskId : Nat)
  | started (taskId : Nat) (object : RemoteObject)
  /-- A transfer attempt ended in a recorded success or failure. -/
  | completed (taskId : Nat)
  | addressed (call : RemoteCall) (backupId : Nat) (object : RemoteObject)
  deriving DecidableEq, Repr

/-- The dashboard as far as transfers are concerned. -/
structure State where
  drive : DriveSettings
  history : Table BackupHistory.id
  tasks : Table SyncTask.id
  /-- The request that holds the retention guard. -/
  request : Option Request
  phase : Phase
  /-- Everything that happened, latest first. -/
  journal : List Event

/-- What may happen next. A request takes the guard where it is named, after its reads and checks,
and gives it back at `commit` or `abort`. -/
inductive Action
  | configure (drive : DriveSettings)
  | arrive (record : BackupHistory)
  | verifyBackup (backupId : Nat) (result : VerifyResult) (now : Instant)
  | download (backupId : Nat)
  | markLocalCopyPresent (backupId : Nat)
  | deleteLocalArtifact (backupId : Nat) (now : Instant)
  | retain (location : RetentionLocation) (backupId : Nat) (now : Instant)
  | enqueueUpload (backupId : Nat) (force : Bool)
  | enqueueUploadByFilename (artifact : AgentArtifact) (force : Bool)
  | cancelTask (taskId : Nat)
  | retryTask (taskId : Nat)
  | abort
  | commit (now : Instant)
  | crash
  | recover
  | halt
  | turn
  | check
  | enqueuePending
  | select (taskId : Nat)
  | wait
  | claim
  | load (now : Instant)
  | send
  | accept (agentTaskId : String)
  | attach
  | recordSuccess (finishedAt : Instant) (verification : Option (Option String × Option Int))
  | recordFailure (message : String) (now : Instant)
  | raise

/-! ## Addresses of remote calls -/

/-- The object a verification looks at. -/
def verifyTarget (drive : DriveSettings) (record : BackupHistory) : Option RemoteObject :=
  if drive.enabled then
    record.filename.map fun filename => ⟨drive.remoteName, drive.folder, filename⟩
  else none

/-- The object a restore downloads. -/
def downloadTarget (drive : DriveSettings) (record : BackupHistory) : Option RemoteObject :=
  if drive.enabled then
    record.filename.map fun filename => ⟨drive.remoteName, drive.folder, filename⟩
  else none

/-- The object retention removes. -/
def removalTarget (record : BackupHistory) : Option RemoteObject :=
  (remoteTarget record).bind fun target =>
    record.filename.map fun filename => ⟨target.1, target.2, filename⟩

/-- A remote copy retention may remove: an uploaded object that is named and was not removed. -/
def removableRemote (drive : DriveSettings) (record : BackupHistory) : Bool :=
  remoteExists record && !record.retentionLocked && drive.enabled && (removalTarget record).isSome

/-! ## Reads and writes -/

/-- A column of an `UPDATE`: it is written only where the value differs from the one read. -/
def netWrite {α : Type} [DecidableEq α] (read written current : α) : α :=
  if written = read then current else written

/-- Cancel a transfer that was read as queued or running. -/
def cancelledTask (now : Instant) (read current : SyncTask) : SyncTask :=
  { current with
    status := .cancelled
    finishedAt := netWrite read.finishedAt (some now) current.finishedAt
    errorMessage := netWrite read.errorMessage (some "Cancelled by operator") current.errorMessage }

/-- A cancelled task keeps its id. -/
theorem cancelledTask_id (now : Instant) (read current : SyncTask) :
    (cancelledTask now read current).id = current.id := rfl

/-- Put a transfer back on the queue, whatever its status was when it was read. -/
def retriedTask (read current : SyncTask) : SyncTask :=
  { current with
    status := netWrite read.status .queued current.status
    attempt := netWrite read.attempt 1 current.attempt
    errorMessage := netWrite read.errorMessage none current.errorMessage
    finishedAt := netWrite read.finishedAt none current.finishedAt
    agentTaskId := netWrite read.agentTaskId none current.agentTaskId }

/-- A retried task keeps its id. -/
theorem retriedTask_id (read current : SyncTask) : (retriedTask read current).id = current.id := rfl

/-- Mark a transfer running that was read with an attempt counter. -/
def claimedTask (attempt : Nat) (current : SyncTask) : SyncTask :=
  { current with status := .running, attempt := attempt + 1 }

/-- A claimed task keeps its id. -/
theorem claimedTask_id (attempt : Nat) (current : SyncTask) :
    (claimedTask attempt current).id = current.id := rfl

/-- Fail a transfer whose backup is gone. -/
def vanishedTask (now : Instant) (current : SyncTask) : SyncTask :=
  { current with
    status := .failed, finishedAt := some now
    errorMessage := some "The backup this transfer refers to no longer exists" }

/-- A task whose backup vanished keeps its id. -/
theorem vanishedTask_id (now : Instant) (current : SyncTask) :
    (vanishedTask now current).id = current.id := rfl

/-- Note the agent's task of a transfer. -/
def attachedTask (agentTaskId : String) (current : SyncTask) : SyncTask :=
  { current with agentTaskId := some agentTaskId }

/-- A task with one of the agent keeps its id. -/
theorem attachedTask_id (agentTaskId : String) (current : SyncTask) :
    (attachedTask agentTaskId current).id = current.id := rfl

/-- Close a transfer that succeeded. -/
def succeededTask (finishedAt : Instant) (current : SyncTask) : SyncTask :=
  { current with status := .success, finishedAt := some finishedAt, errorMessage := none }

/-- A task that succeeded keeps its id. -/
theorem succeededTask_id (finishedAt : Instant) (current : SyncTask) :
    (succeededTask finishedAt current).id = current.id := rfl

/-- What a finished transfer tells about its object. -/
def uploadResult (task : SyncTask) (finishedAt : Instant)
    (verification : Option (Option String × Option Int)) : UploadResult :=
  ⟨finishedAt, task.remoteName, task.remotePath, verification⟩

/-- A verification keeps the id of its row. -/
theorem applyVerification_id (result : VerifyResult) (now : Instant) (record : BackupHistory) :
    (applyVerification result now record).id = record.id := by
  unfold applyVerification
  split <;> rfl

/-- A transfer that has used up its attempts. -/
def exhausted (task : SyncTask) : Bool := decide (task.maxAttempts ≤ task.attempt)

/-- Whether a queued or running transfer names a backup. -/
def activeForBackup (tasks : Table SyncTask.id) (backupId : Nat) : Bool :=
  tasks.rows.any fun task => task.backupId == some backupId && SyncTask.isActive task

/-- A successful backup whose artifact still has to reach the remote. -/
def awaitsUpload (record : BackupHistory) : Bool :=
  record.status == .success && record.uploadStatus == .pending && record.filename.isSome &&
    record.localDeletedAt.isNone

/-- The oldest backups awaiting upload. -/
def awaitingUpload (history : Table BackupHistory.id) : List Nat :=
  ((history.rows.filter awaitsUpload).take 100).map BackupHistory.id

namespace State

/-- Suspend the worker somewhere else. -/
def goto (state : State) (phase : Phase) : State := { state with phase := phase }

/-- Note that something happened. -/
def note (state : State) (event : Event) : State :=
  { state with journal := event :: state.journal }

/-- Give the guard back. -/
def release (state : State) : State := { state with request := none }

/-- Rewrite a stored transfer. -/
def setTask (state : State) (taskId : Nat) (update : SyncTask → SyncTask)
    (keeps : ∀ task, (update task).id = task.id) : State :=
  { state with tasks := state.tasks.modify taskId update keeps }

/-- Rewrite a stored row. -/
def setRow (state : State) (backupId : Nat) (update : BackupHistory → BackupHistory)
    (keeps : ∀ record, (update record).id = record.id) : State :=
  { state with history := state.history.modify backupId update keeps }

/-- Move the upload of the row a transfer names, if it names one. -/
def setUpload (state : State) (backupId : Option Nat) (status : UploadStatus) : State :=
  match backupId with
  | none => state
  | some backupId => state.setRow backupId (setUploadStatus status) (setUploadStatus_id _)

/-- Queue a transfer of a backup under the next id. -/
def enqueue (state : State) (config : TransferConfig) (backupId : Nat) : State :=
  { state with
    tasks := state.tasks.append (queuedTask · backupId config) fun _ => rfl
    journal := .enqueued state.tasks.nextKey config.uploadRetry :: state.journal }

/-- Whether a process is up and its recovery is over. -/
def serving (state : State) : Bool := state.phase != .down

/-- Whether the guard can be taken. -/
def free (state : State) : Bool := state.request.isNone && state.serving

/-- Take the guard. -/
def hold (state : State) (request : Request) : State := { state with request := some request }

/-- Call the agent about the remote object of a backup. -/
def address (state : State) (call : RemoteCall) (backupId : Nat) (object : RemoteObject) : State :=
  state.note (.addressed call backupId object)

/-- The commit of the request that holds the guard. -/
def commit (state : State) (now : Instant) : Request → State
  | .upload backupId config => (state.enqueue config backupId).setUpload (some backupId) .pending
  | .importArtifact artifact config =>
    { state with history := state.history.append (importRow · artifact) fun _ => rfl }.enqueue
      config state.history.nextKey
  | .cancel read =>
    (state.setTask read.id (cancelledTask now read) (cancelledTask_id _ _)).setUpload read.backupId
      .failed
  | .retry read =>
    ((state.setTask read.id (retriedTask read) (retriedTask_id _)).setUpload read.backupId
      .pending).note (.retried read.id)

/-- Read the plan of a claimed transfer and mark its row uploading, or fail the transfer. -/
def load (state : State) (taskId : Nat) (now : Instant) : State :=
  match state.tasks.get taskId with
  | none => state.goto .idle
  | some task =>
    match task.backupId.bind state.history.get with
    | none => (state.setTask taskId (vanishedTask now) (vanishedTask_id _)).goto .idle
    | some record =>
      match record.filename with
      | none => (state.setTask taskId (vanishedTask now) (vanishedTask_id _)).goto .idle
      | some filename =>
        let object : RemoteObject := ⟨task.remoteName.getD "", task.remotePath.getD "", filename⟩
        (state.setRow record.id (setUploadStatus .uploading) (setUploadStatus_id _)).goto
          (.holding taskId (.loaded object))

/-- Close a transfer that succeeded and record what it uploaded. -/
def recordSuccess (state : State) (taskId : Nat) (finishedAt : Instant)
    (verification : Option (Option String × Option Int)) : State :=
  match state.tasks.get taskId with
  | none => state.goto .idle
  | some task =>
    let closed := state.setTask taskId (succeededTask finishedAt) (succeededTask_id _)
    let recorded :=
      match task.backupId with
      | none => closed
      | some backupId =>
        closed.setRow backupId (recordUpload (uploadResult task finishedAt verification))
          (recordUpload_id _)
    (recorded.note (.completed taskId)).goto .idle

/-- Queue a failed transfer again, or give it up. -/
def recordFailure (state : State) (taskId : Nat) (message : String) (now : Instant) : State :=
  match state.tasks.get taskId with
  | none => state.goto .idle
  | some task =>
    let closed := state.setTask taskId (Lifecycle.afterFailure message now)
      (Lifecycle.afterFailure_id message now)
    let status := if exhausted task then UploadStatus.failed else .pending
    ((closed.setUpload task.backupId status).note (.completed taskId)).goto .idle

end State

/-- A row as the runner or an import leaves it: nothing was uploaded and nothing removed. -/
structure Unsent (record : BackupHistory) : Prop where
  unnamed : record.remotePath = none
  status : record.uploadStatus = .pending ∨ record.uploadStatus = .notRequired

instance (record : BackupHistory) : Decidable (Unsent record) :=
  decidable_of_iff (record.remotePath = none ∧
    (record.uploadStatus = .pending ∨ record.uploadStatus = .notRequired))
    ⟨fun both => ⟨both.1, both.2⟩, fun unsent => ⟨unsent.unnamed, unsent.status⟩⟩

namespace State

/-- Take the guard for an upload of a row, or refuse it. -/
def enqueueUpload (state : State) (record : BackupHistory) (force : Bool) : Option State :=
  if state.drive.enabled = true ∧ record.status = .success ∧ record.filename.isSome = true ∧
      record.localDeletedAt = none ∧ activeForBackup state.tasks record.id = false ∧
      (record.uploadStatus = .uploaded → force = true) then
    some (state.hold (.upload record.id state.drive.toTransferConfig))
  else none

/-- Change a row under the guard. -/
def updateRow (state : State) (backupId : Nat) (allowed : BackupHistory → Bool)
    (update : BackupHistory → BackupHistory) (keeps : ∀ record, (update record).id = record.id) :
    Option State :=
  match state.history.get backupId with
  | none => none
  | some record =>
    if state.free = true ∧ allowed record = true then
      some (state.setRow backupId update keeps)
    else none

end State

/-- A local copy an operator may delete. -/
def deletableLocal (record : BackupHistory) : Bool :=
  record.status != .running && !record.retentionLocked && record.filename.isSome

/-- The effect of one action, or nothing where it cannot happen. -/
def step (state : State) : Action → Option State
  | .configure drive => if state.free then some { state with drive } else none
  | .arrive record =>
    if fresh : ∀ other ∈ state.history, other.id < record.id then
      if Unsent record then some { state with history := state.history.insert record fresh }
      else none
    else none
  | .verifyBackup backupId result now =>
    match state.history.get backupId with
    | none => none
    | some record =>
      match verifyTarget state.drive record with
      | none => none
      | some object =>
        if state.free then
          some ((state.setRow backupId (applyVerification result now)
            (applyVerification_id result now)).address .verification backupId object)
        else none
  | .download backupId =>
    match (state.history.get backupId).bind (downloadTarget state.drive) with
    | none => none
    | some object => some (state.address .download backupId object)
  | .markLocalCopyPresent backupId =>
    state.updateRow backupId (fun _ => true) markLocalCopyPresent markLocalCopyPresent_id
  | .deleteLocalArtifact backupId now =>
    state.updateRow backupId deletableLocal (deleteLocalArtifact now) (deleteLocalArtifact_id _)
  | .retain .localCopy backupId now =>
    state.updateRow backupId (hasCopy .localCopy) (markDeletedRow .localCopy now)
      (markDeletedRow_id .localCopy now)
  | .retain .remoteCopy backupId now =>
    match state.history.get backupId with
    | none => none
    | some record =>
      match removalTarget record with
      | none => none
      | some object =>
        if state.free ∧ removableRemote state.drive record then
          some ((state.setRow backupId (markDeletedRow .remoteCopy now)
            (markDeletedRow_id .remoteCopy now)).address .removal backupId object)
        else none
  | .enqueueUpload backupId force =>
    match state.history.get backupId with
    | none => none
    | some record => if state.free then state.enqueueUpload record force else none
  | .enqueueUploadByFilename artifact force =>
    if state.free then
      match matched state.history artifact.filename with
      | some record => state.enqueueUpload record force
      | none =>
        if state.drive.enabled then
          some (state.hold (.importArtifact artifact state.drive.toTransferConfig))
        else none
    else none
  | .cancelTask taskId =>
    match state.tasks.get taskId with
    | none => none
    | some task =>
      if state.free ∧ SyncTask.isActive task then some (state.hold (.cancel task)) else none
  | .retryTask taskId =>
    match state.tasks.get taskId with
    | none => none
    | some task => if state.free then some (state.hold (.retry task)) else none
  | .abort => if state.request.isSome then some state.release else none
  | .commit now => state.request.map fun request => (state.commit now request).release
  | .crash => some (state.release.goto .down)
  | .recover =>
    match state.phase with
    | .down => some { state with tasks := Lifecycle.requeueAll state.tasks, phase := .idle }
    | _ => none
  | .halt => if state.serving then some (state.goto .ended) else none
  | .turn =>
    match state.phase with
    | .idle =>
      if state.drive.enabled then
        some (state.goto
          (.scanning state.drive.toTransferConfig (awaitingUpload state.history) []))
      else some (state.goto .claiming)
    | _ => none
  | .check =>
    match state.phase with
    | .scanning config (backupId :: rest) fresh =>
      if activeForBackup state.tasks backupId then some (state.goto (.scanning config rest fresh))
      else some (state.goto (.scanning config rest (fresh ++ [backupId])))
    | _ => none
  | .enqueuePending =>
    match state.phase with
    | .scanning config [] fresh =>
      some ((fresh.foldl (fun queued backupId => queued.enqueue config backupId) state).goto
        .claiming)
    | _ => none
  | .select taskId =>
    match state.phase, state.tasks.get taskId with
    | .claiming, some task =>
      if task.status = .queued then some (state.goto (.holding taskId (.selected task.attempt)))
      else none
    | _, _ => none
  | .wait =>
    match state.phase with
    | .claiming => some (state.goto .idle)
    | _ => none
  | .claim =>
    match state.phase with
    | .holding taskId (.selected attempt) =>
      some ((state.setTask taskId (claimedTask attempt) (claimedTask_id _)).goto
        (.holding taskId .claimed))
    | _ => none
  | .load now =>
    match state.phase with
    | .holding taskId .claimed => if state.free then some (state.load taskId now) else none
    | _ => none
  | .send =>
    match state.phase with
    | .holding taskId (.loaded object) =>
      some ((state.note (.started taskId object)).goto (.holding taskId (.sent object)))
    | _ => none
  | .accept agentTaskId =>
    match state.phase with
    | .holding taskId (.sent _) => some (state.goto (.holding taskId (.accepted agentTaskId)))
    | _ => none
  | .attach =>
    match state.phase with
    | .holding taskId (.accepted agentTaskId) =>
      some ((state.setTask taskId (attachedTask agentTaskId) (attachedTask_id _)).goto
        (.holding taskId (.following agentTaskId)))
    | _ => none
  | .recordSuccess finishedAt verification =>
    match state.phase with
    | .holding taskId (.following _) =>
      if state.free then some (state.recordSuccess taskId finishedAt verification) else none
    | _ => none
  | .recordFailure message now =>
    -- A refused or lost start, a failed or forgotten task, and any exception all end here.
    match state.phase with
    | .holding taskId stage =>
      if state.free ∧ stage.isClaimed then some (state.recordFailure taskId message now) else none
    | _ => none
  | .raise =>
    match state.phase with
    | .scanning _ _ _ | .claiming | .holding _ (.selected _) => some (state.goto .idle)
    | _ => none

/-- The transfers of a new installation, under any Drive settings. -/
def system : System State Action where
  init state := ∃ drive, state = ⟨drive, .empty, .empty, none, .down, []⟩
  step := step

/-- The Drive settings of a new installation, switched on. -/
def gdrive : DriveSettings := ⟨⟨"gdrive", "proxsync/dump", 3⟩, true, by decide⟩

/-- A run may start under them. -/
theorem gdrive_initial : system.init ⟨gdrive, .empty, .empty, none, .down, []⟩ := ⟨gdrive, rfl⟩

/-- A backup whose upload the worker queued and claimed. -/
def claimedUpload : List Action :=
  [.arrive Lifecycle.awaitingUpload.row, .recover, .turn, .check, .enqueuePending, .select 1,
    .claim]

end ProxSync.Sync
