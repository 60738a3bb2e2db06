import ProxSync.Retention.Repository
/-!
# Writers of a history row

Every function of the backup runner, the backup and sync services and the two transfer workers
that writes a `backup_history` row, as a function of the row. None of them touches the id, the
run or the guest of the row.
-/
namespace ProxSync.History

/-- The state an agent reports for a task. -/
inductive AgentTaskState
  | success
  | failed
  | cancelled
  | interrupted
  | other (text : String)
  deriving DecidableEq, Repr

/-- A task that will not change any more. -/
def AgentTaskState.isTerminal : AgentTaskState → Bool
  | .other _ => false
  | _ => true

/-- The history status of a reported state; an unknown state counts as failed. -/
def AgentTaskState.backupStatus : AgentTaskState → BackupStatus
  | .success => .success
  | .failed => .failed
  | .cancelled => .cancelled
  | .interrupted => .interrupted
  | .other _ => .failed

/-- A task as the agent reports it. -/
structure AgentTask where
  state : AgentTaskState
  finishedAt : Option Instant
  error : Option String
  result : JsonDict
  deriving DecidableEq

/-- A text field of a result. -/
def textField (result : JsonDict) (key : String) : Option String :=
  match result.get? key with
  | some (.str text) => some text
  | _ => none

/-- An integer field of a result; a truth value is an integer too. -/
def integerField (result : JsonDict) (key : String) : Option Int :=
  match result.get? key with
  | some (.int number) => some number
  | some (.bool flag) => some (if flag then 1 else 0)
  | _ => none

/-- Copy the artifact a task produced onto its row; absent fields keep what the row has. -/
def applyArtifact (result : JsonDict) (record : BackupHistory) : BackupHistory :=
  { record with
    filename := (textField result "filename").or record.filename
    localPath := (textField result "path").or record.localPath
    sizeBytes := (integerField result "size_bytes").or record.sizeBytes
    checksumSha256 := (textField result "checksum_sha256").or record.checksumSha256 }

/-- Record the terminal state of a task. -/
def recordOutcome (task : AgentTask) (upload : Bool) (now : Instant) (record : BackupHistory) :
    BackupHistory :=
  let status := task.state.backupStatus
  let closed := { record with
    status := status, finishedAt := task.finishedAt.or (some now), errorMessage := task.error }
  if status = .success then
    let produced := applyArtifact task.result closed
    if upload then produced else { produced with uploadStatus := .notRequired }
  else { closed with uploadStatus := .notRequired }

/-- Close a row without an outcome from the agent. -/
def closeBackup (status : BackupStatus) (message : String) (now : Instant)
    (record : BackupHistory) : BackupHistory :=
  { record with
    status := status, errorMessage := some message, finishedAt := some now
    uploadStatus := .notRequired }

/-- Keep the task the agent accepted the request as. -/
def storeTask (taskId : String) (correlationId : Option String) (record : BackupHistory) :
    BackupHistory :=
  { record with agentTaskId := some taskId, correlationId := correlationId }

/-- Pin or unpin a row. -/
def setRetentionLock (locked : Bool) (record : BackupHistory) : BackupHistory :=
  { record with retentionLocked := locked }

/-- The remote copy the manual delete and the restore preflight look for. -/
def remoteUsable (record : BackupHistory) : Bool :=
  record.uploadStatus == .uploaded && record.remotePath.isSome && record.remoteDeletedAt.isNone

/-- The local copy: a file that was not removed. -/
def localPresent (record : BackupHistory) : Bool :=
  record.filename.isSome && record.localDeletedAt.isNone

/-- Mark the local artifact removed by an operator. -/
def deleteLocalArtifact (now : Instant) (record : BackupHistory) : BackupHistory :=
  { record with
    localDeletedAt := some now
    status := if remoteUsable record then .success else .deleted }

/-- A row whose local copy is deleted keeps its id. -/
theorem deleteLocalArtifact_id (now : Instant) (record : BackupHistory) :
    (deleteLocalArtifact now record).id = record.id := rfl

/-- The artifact is on the host again. -/
def markLocalCopyPresent (record : BackupHistory) : BackupHistory :=
  { record with localDeletedAt := none }

/-- A row whose local copy is back keeps its id. -/
theorem markLocalCopyPresent_id (record : BackupHistory) :
    (markLocalCopyPresent record).id = record.id := rfl

/-- Move the upload to another state. -/
def setUploadStatus (status : UploadStatus) (record : BackupHistory) : BackupHistory :=
  { record with uploadStatus := status }

/-- A row with another upload status keeps its id. -/
theorem setUploadStatus_id (status : UploadStatus) (record : BackupHistory) :
    (setUploadStatus status record).id = record.id := rfl

/-- What a finished transfer says about the remote object. -/
structure UploadResult where
  finishedAt : Instant
  remoteName : Option String
  remotePath : Option String
  /-- Digest and size of the object, when the transfer was verified. -/
  verification : Option (Option String × Option Int)
  deriving DecidableEq, Repr

/-- Record a finished transfer. -/
def recordUpload (result : UploadResult) (record : BackupHistory) : BackupHistory :=
  let uploaded := { record with
    uploadStatus := .uploaded
    uploadedAt := some result.finishedAt
    remotePath := some (result.remoteName.getD "None" ++ ":" ++ result.remotePath.getD "None") }
  match result.verification with
  | none => uploaded
  | some (checksum, size) => { uploaded with remoteChecksum := checksum, remoteSizeBytes := size }

/-- What a verification of the remote object found. -/
structure VerifyResult where
  verified : Bool
  remoteSizeBytes : Option Int
  remoteMd5 : Option String
  deriving DecidableEq, Repr

/-- Record a verification, including one that found the copy missing. -/
def applyVerification (result : VerifyResult) (now : Instant) (record : BackupHistory) :
    BackupHistory :=
  if result.verified then
    { record with
      uploadStatus := .uploaded
      remoteSizeBytes := result.remoteSizeBytes
      remoteChecksum := result.remoteMd5
      uploadedAt := record.uploadedAt.or (some now) }
  else
    { record with
      remoteSizeBytes := result.remoteSizeBytes
      uploadStatus := if record.uploadStatus = .uploaded then .failed else record.uploadStatus }

end ProxSync.History
