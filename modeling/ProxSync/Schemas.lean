import Mathlib
import ProxSync.Lib.Table
/-!
# Vocabularies and rows

The closed vocabularies of the dashboard with their stored texts, and the rows of its tables.
Identifiers are positive counters, instants are microseconds of one clock, and sizes are
integers because the database bounds none of them. A row keeps the columns that the modelled
functions read or write; guest ownership, modes, durations and logging columns are left out.
-/
open ProxSync.Lib

namespace ProxSync

/-- Microseconds since a fixed origin. -/
abbrev Instant := Nat

/-- The two kinds of guest. -/
inductive GuestType
  | vm
  | lxc
  deriving DecidableEq, Repr

/-- The stored text of a guest type. -/
def GuestType.value : GuestType → String
  | .vm => "vm"
  | .lxc => "lxc"

/-- What asked for a run. -/
inductive TriggerType
  | schedule
  | manual
  | api
  deriving DecidableEq, Repr

/-- Lifecycle of a backup run. -/
inductive RunStatus
  | queued
  | running
  | success
  | partialSuccess
  | failed
  | cancelled
  | skippedAgentUnavailable
  deriving DecidableEq, Repr

/-- A run that is neither waiting nor in flight. -/
def RunStatus.isTerminal (status : RunStatus) : Bool :=
  !(status == .queued || status == .running)

/-- Lifecycle of a backup history row. -/
inductive BackupStatus
  | running
  | success
  | failed
  | cancelled
  | interrupted
  | deleted
  deriving DecidableEq, Repr

/-- Every status of a history row but `running` is final for the executor. -/
def BackupStatus.isTerminal (status : BackupStatus) : Bool := status != .running

/-- What is known of the remote copy of a backup. -/
inductive UploadStatus
  | notRequired
  | pending
  | uploading
  | uploaded
  | failed
  deriving DecidableEq, Repr

/-- The stored text of an upload status. -/
def UploadStatus.value : UploadStatus → String
  | .notRequired => "not_required"
  | .pending => "pending"
  | .uploading => "uploading"
  | .uploaded => "uploaded"
  | .failed => "failed"

/-- Lifecycle of a transfer. -/
inductive SyncStatus
  | queued
  | running
  | success
  | failed
  | cancelled
  deriving DecidableEq, Repr

/-- Where a restore takes its archive from. -/
inductive RestoreSource
  | localCopy
  | gdrive
  deriving DecidableEq, Repr

/-- Lifecycle of a restore. -/
inductive RestoreStatus
  | pendingConfirmation
  | confirmed
  | running
  | success
  | failed
  | cancelled
  | interrupted
  | expired
  deriving DecidableEq, Repr

/-- A restore that can no longer run. -/
def RestoreStatus.isTerminal (status : RestoreStatus) : Bool :=
  !(status == .pendingConfirmation || status == .confirmed || status == .running)

/-- States in which the source artifact must not be deleted underneath the restore. -/
def RestoreStatus.blocksRetention (status : RestoreStatus) : Bool :=
  status == .pendingConfirmation || status == .confirmed || status == .running

/-- The two places a copy of a backup can be. -/
inductive RetentionLocation
  | localCopy
  | remoteCopy
  deriving DecidableEq, Repr

/-- The stored text of a location. -/
def RetentionLocation.value : RetentionLocation → String
  | .localCopy => "local"
  | .remoteCopy => "remote"

/-- What retention did with one copy. -/
inductive RetentionAction
  | evaluated
  | kept
  | deletedLocal
  | deletedRemote
  | skipped
  | failed
  deriving DecidableEq, Repr

/-- A decoded JSON value. Of an array only the texts of its items are looked at, and no modelled
function looks inside a fraction or an object, so those keep their text. -/
inductive JsonValue
  | null
  | bool (value : Bool)
  | int (value : Int)
  | str (value : String)
  | list (items : List String)
  | other (text : String)
  deriving DecidableEq, Repr

/-- A decoded JSON object: values under distinct keys. -/
structure JsonDict where
  entries : List (String × JsonValue)
  /-- No key occurs twice. -/
  distinct : (entries.map Prod.fst).Nodup
  deriving DecidableEq

namespace JsonDict

/-- The object without keys. -/
def empty : JsonDict := ⟨[], by simp⟩

/-- The object with one key. -/
def singleton (key : String) (value : JsonValue) : JsonDict :=
  ⟨[(key, value)], List.nodup_singleton key⟩

/-- The value under a key, if the key is present. -/
def get? (dict : JsonDict) (key : String) : Option JsonValue := dict.entries.lookup key

/-- Whether a key is present, whatever its value. -/
def contains (dict : JsonDict) (key : String) : Bool := (dict.get? key).isSome

end JsonDict

/-- A guest is named by its id and its kind. -/
abbrev GuestKey := Nat × GuestType

instance : LawfulBEq GuestKey := inferInstanceAs (LawfulBEq (Nat × GuestType))

/-- A target of a run as it was resolved against the inventory. -/
structure ResolvedTarget where
  vmid : Nat
  guestType : GuestType
  guestName : String
  node : String
  deriving DecidableEq, Repr

/-- The guest a target names. -/
def ResolvedTarget.key (target : ResolvedTarget) : GuestKey := (target.vmid, target.guestType)

/-- A frozen target list: no guest is named twice. -/
structure Targets where
  list : List ResolvedTarget
  /-- Each guest is named at most once. -/
  distinct : (list.map ResolvedTarget.key).Nodup
  deriving DecidableEq

/-- One execution of a job, or one manual trigger. -/
structure BackupRun where
  id : Nat
  jobId : Option Nat
  trigger : TriggerType
  status : RunStatus
  guestTotal : Nat
  guestSucceeded : Nat
  guestFailed : Nat
  targets : Targets
  /-- The stored options object, if there is one. -/
  options : Option JsonDict
  startedAt : Option Instant
  finishedAt : Option Instant
  errorMessage : Option String
  deriving DecidableEq

/-- One backup artifact, or the attempt at one. -/
structure BackupHistory where
  id : Nat
  /-- The run that made the backup; an imported file has none. -/
  runId : Option Nat
  vmid : Nat
  guestType : GuestType
  guestName : String
  node : String
  storage : String
  /-- Archive name on the host, once known. -/
  filename : Option String
  localPath : Option String
  sizeBytes : Option Int
  checksumSha256 : Option String
  status : BackupStatus
  /-- The agent's task, once it accepted the request. -/
  agentTaskId : Option String
  startedAt : Option Instant
  finishedAt : Option Instant
  errorMessage : Option String
  uploadStatus : UploadStatus
  uploadedAt : Option Instant
  remotePath : Option String
  remoteSizeBytes : Option Int
  remoteChecksum : Option String
  retentionLocked : Bool
  localDeletedAt : Option Instant
  remoteDeletedAt : Option Instant
  correlationId : Option String
  deriving DecidableEq, Repr

/-- A history row as the repository creates it: running, and without an artifact. -/
def BackupHistory.create (id : Nat) (runId : Option Nat) (target : ResolvedTarget)
    (storage : String) (uploadStatus : UploadStatus) (startedAt : Instant) : BackupHistory where
  id := id
  runId := runId
  vmid := target.vmid
  guestType := target.guestType
  guestName := target.guestName
  node := target.node
  storage := storage
  filename := none
  localPath := none
  sizeBytes := none
  checksumSha256 := none
  status := .running
  agentTaskId := none
  startedAt := some startedAt
  finishedAt := none
  errorMessage := none
  uploadStatus := uploadStatus
  uploadedAt := none
  remotePath := none
  remoteSizeBytes := none
  remoteChecksum := none
  retentionLocked := false
  localDeletedAt := none
  remoteDeletedAt := none
  correlationId := none

/-- The guest a history row belongs to. -/
def BackupHistory.key (record : BackupHistory) : GuestKey := (record.vmid, record.guestType)

/-- One rclone transfer. -/
structure SyncTask where
  id : Nat
  backupId : Option Nat
  status : SyncStatus
  /-- The agent's task, once it accepted the request. -/
  agentTaskId : Option String
  remoteName : Option String
  remotePath : Option String
  attempt : Nat
  maxAttempts : Nat
  errorMessage : Option String
  finishedAt : Option Instant
  deriving DecidableEq, Repr

/-- A restore request and its outcome. -/
structure RestoreHistory where
  id : Nat
  backupId : Nat
  source : RestoreSource
  status : RestoreStatus
  /-- The agent's task, once it accepted the request. -/
  agentTaskId : Option String
  startedAt : Option Instant
  finishedAt : Option Instant
  errorMessage : Option String
  deriving DecidableEq, Repr

/-- The retention counts of a scheduled job. -/
structure BackupJob where
  id : Nat
  keepLocal : Int
  keepRemote : Int
  deriving DecidableEq, Repr

/-- Retention counts within the accepted bounds: a policy always keeps a local copy. -/
structure KeepCounts where
  keepLocal : Nat
  keepRemote : Nat
  localBounds : 1 ≤ keepLocal ∧ keepLocal ≤ 365
  remoteBound : keepRemote ≤ 365
  deriving DecidableEq

/-- The retention section of the settings. -/
structure RetentionSettings where
  keep : KeepCounts
  dryRun : Bool
  storageWarningPercent : Nat
  storageCriticalPercent : Nat
  warningBounds : 50 ≤ storageWarningPercent ∧ storageWarningPercent ≤ 99
  criticalBounds : storageWarningPercent < storageCriticalPercent ∧ storageCriticalPercent ≤ 100

/-- The Google Drive settings that retention reads. -/
structure GDriveSettings where
  enabled : Bool
  remoteName : String
  folder : String
  deleteRemoteOnRetention : Bool

/-- Where the counts of a policy come from. -/
inductive RetentionSource
  | global
  | job
  | legacyJob
  | unresolved
  deriving DecidableEq, Repr

/-- The complete deletion policy used for one evaluation. -/
structure RetentionPolicySnapshot where
  keep : KeepCounts
  retentionSource : RetentionSource
  policyResolved : Bool
  policyBlockReason : Option String
  policyRunId : Option Nat
  policyJobId : Option Nat
  dryRun : Bool
  storageWarningPercent : Nat
  storageCriticalPercent : Nat
  gdriveEnabled : Bool
  deleteRemoteOnRetention : Bool
  remoteName : String
  remoteFolder : String
  triggerBackupId : Option Nat
  deriving DecidableEq

/-- The count a policy applies to the copies at a location. -/
def RetentionPolicySnapshot.keepAt (policy : RetentionPolicySnapshot) :
    RetentionLocation → Nat
  | .localCopy => policy.keep.keepLocal
  | .remoteCopy => policy.keep.keepRemote

/-- One audited retention decision, with the policy that produced it. -/
structure RetentionEvent where
  backupId : Nat
  vmid : Nat
  guestType : GuestType
  action : RetentionAction
  reason : String
  policySnapshot : RetentionPolicySnapshot
  location : RetentionLocation
  effectiveKeep : Nat
  freedBytes : Int
  dryRun : Bool
  correlationId : Option String
  deriving DecidableEq

/-- The tables the modelled components share. -/
structure Database where
  jobs : Table BackupJob.id
  runs : Table BackupRun.id
  history : Table BackupHistory.id
  syncTasks : Table SyncTask.id
  restores : Table RestoreHistory.id
  /-- Audited decisions, oldest first. -/
  retentionEvents : List RetentionEvent

/-- The tables of a new installation. -/
def Database.empty : Database := ⟨.empty, .empty, .empty, .empty, .empty, []⟩

end ProxSync
