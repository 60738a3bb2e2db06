import Mathlib.Data.List.Sort
import ProxSync.Lib.Ranking
import Mathlib.Data.List.Dedup
import ProxSync.Schemas
/-!
# Queries and marks of the retention repository

Which copies of a guest exist at each location and in which order they are ranked, which run
and job a policy is read from, and the two marks that record a removed copy. The repository of
the source returns detached projections of rows; values are immutable here, so the row itself
is the projection.
-/
open ProxSync.Lib

namespace ProxSync.Retention

/-- A detached history row, as the repository hands it to the service. -/
abbrev RetentionBackup := BackupHistory

/-- Undated rows sort after dated ones. -/
def missingTimestamp (record : RetentionBackup) : Nat := if record.startedAt.isNone then 1 else 0

/-- The start of a dated row. -/
def startedKey (record : RetentionBackup) : Nat := record.startedAt.getD 0

/-- Newest first: dated rows before undated ones, later starts first, larger ids first. -/
def newestFirst (first second : RetentionBackup) : Bool :=
  decide (missingTimestamp first < missingTimestamp second ∨
    (missingTimestamp first = missingTimestamp second ∧
      (startedKey second < startedKey first ∨
        (startedKey second = startedKey first ∧ second.id < first.id))))

/-- A row never precedes one that precedes it. -/
theorem newestFirst_asymmetric (first second : RetentionBackup)
    (before : newestFirst first second = true) : newestFirst second first = false := by
  simp only [newestFirst, decide_eq_true_eq, decide_eq_false_iff_not] at before ⊢
  omega

/-- Of two rows with different ids one precedes the other. -/
theorem newestFirst_total {first second : RetentionBackup} (different : first.id ≠ second.id)
    (unordered : newestFirst second first = false) : newestFirst first second = true := by
  simp only [newestFirst, decide_eq_true_eq, decide_eq_false_iff_not] at unordered ⊢
  omega

/-- The order in which no row is preceded by a later one. -/
abbrev NotAfter (first second : RetentionBackup) : Prop := newestFirst second first = false

instance : Std.Total NotAfter where
  total first second := by
    by_contra neither
    simp only [NotAfter, not_or, Bool.not_eq_false] at neither
    simp [newestFirst_asymmetric _ _ neither.1] at neither

instance : IsTrans RetentionBackup NotAfter where
  trans first second third before after := by
    simp only [NotAfter, newestFirst, decide_eq_false_iff_not] at before after ⊢
    omega

/-- Rows in the order of the retention queries. -/
def orderNewestFirst (records : List RetentionBackup) : List RetentionBackup :=
  records.insertionSort NotAfter

/-- Ordering keeps the rows. -/
theorem orderNewestFirst_perm (records : List RetentionBackup) :
    (orderNewestFirst records).Perm records :=
  List.perm_insertionSort _ _

/-- Rows with distinct ids are ordered strictly. -/
theorem orderNewestFirst_sorted {records : List RetentionBackup}
    (distinct : records.Pairwise fun first second => first.id ≠ second.id) :
    (orderNewestFirst records).Pairwise fun first second => newestFirst first second = true := by
  have apart : (orderNewestFirst records).Pairwise fun first second => first.id ≠ second.id :=
    ((orderNewestFirst_perm records).pairwise_iff (fun different => different.symm)).mpr distinct
  have weak : (orderNewestFirst records).Pairwise NotAfter := List.pairwise_insertionSort _ _
  exact (apart.and weak).imp fun both => newestFirst_total both.1 both.2

/-- A local copy: a successful row whose file was not removed. -/
def localExists (record : BackupHistory) : Bool :=
  record.status == .success && record.localDeletedAt.isNone && record.filename.isSome

/-- A remote copy: an uploaded object that was not removed. Rows already marked deleted count,
because old rows lost that status together with their local copy. -/
def remoteExists (record : BackupHistory) : Bool :=
  (record.status == .success || record.status == .deleted) && record.uploadStatus == .uploaded &&
    record.remoteDeletedAt.isNone && record.remotePath.isSome && record.filename.isSome

/-- Whether a row has a copy at a location. -/
def hasCopy (location : RetentionLocation) (record : BackupHistory) : Bool :=
  match location with
  | .localCopy => localExists record
  | .remoteCopy => remoteExists record

/-- A copy at either location. -/
def existingCopyClause (record : BackupHistory) : Bool :=
  localExists record || remoteExists record

/-- The guest of a backup. -/
def guestForBackup (db : Database) (backupId : Nat) : Option GuestKey :=
  (db.history.get backupId).map BackupHistory.key

/-- The copies of a guest at a location, newest first. -/
def copiesForGuest (db : Database) (location : RetentionLocation) (guest : GuestKey) :
    List RetentionBackup :=
  orderNewestFirst (db.history.rows.filter fun record =>
    record.key == guest && hasCopy location record)

/-- The local copies of a guest. -/
def localForGuest (db : Database) (guest : GuestKey) : List RetentionBackup :=
  copiesForGuest db .localCopy guest

/-- The remote copies of a guest. -/
def remoteForGuest (db : Database) (guest : GuestKey) : List RetentionBackup :=
  copiesForGuest db .remoteCopy guest

/-- The newest row of a trigger's guest that still has a copy. -/
def canonicalTriggerBackupId (db : Database) (backupId : Nat) : Option Nat :=
  match guestForBackup db backupId with
  | none => none
  | some guest =>
    (orderNewestFirst (db.history.rows.filter fun record =>
      record.key == guest && existingCopyClause record)).head?.map BackupHistory.id

/-- Guests in query order: by id, then by the text of their kind. -/
def guestBefore (first second : GuestKey) : Bool :=
  decide (first.1 < second.1) || (first.1 == second.1 && decide (first.2.value ≤ second.2.value))

/-- The guests that have a copy anywhere. -/
def guestKeys (db : Database) : List GuestKey :=
  ((db.history.rows.filter existingCopyClause).map BackupHistory.key).dedup.insertionSort
    (fun first second => guestBefore first second = true)

/-- Whether a restore that still needs the artifact names a backup. -/
def hasActiveRestore (db : Database) (backupId : Nat) : Bool :=
  db.restores.rows.any fun restore => restore.backupId == backupId && restore.status.blocksRetention

/-- The provenance a policy is resolved from. -/
structure RetentionPolicyContext where
  runId : Nat
  trigger : TriggerType
  jobId : Option Nat
  options : Option JsonDict
  jobKeepLocal : Option Int
  jobKeepRemote : Option Int

/-- The run of a backup and the surviving job of that run. -/
def retentionPolicyContext (db : Database) (backupId : Nat) : Option RetentionPolicyContext := do
  let record ← db.history.get backupId
  let run ← record.runId.bind db.runs.get
  let job := run.jobId.bind db.jobs.get
  some {
    runId := run.id, trigger := run.trigger, jobId := run.jobId, options := run.options
    jobKeepLocal := job.map BackupJob.keepLocal, jobKeepRemote := job.map BackupJob.keepRemote }

/-- A row is deleted only once neither location holds a copy. -/
def refreshStatus (record : BackupHistory) : BackupHistory :=
  let localCopy := record.localDeletedAt.isNone && record.filename.isSome
  let remoteCopy := record.remotePath.isSome && record.remoteDeletedAt.isNone
  { record with status := if localCopy || remoteCopy then .success else .deleted }

/-- Record the removal of the local copy, once. -/
def markLocalDeletedRow (deletedAt : Instant) (record : BackupHistory) : BackupHistory :=
  if record.localDeletedAt.isSome then record
  else refreshStatus { record with localDeletedAt := some deletedAt }

/-- Record the removal of the remote copy, once. -/
def markRemoteDeletedRow (deletedAt : Instant) (record : BackupHistory) : BackupHistory :=
  if record.remoteDeletedAt.isSome then record
  else refreshStatus { record with remoteDeletedAt := some deletedAt }

/-- Record the removal of the copy at a location. -/
def markDeletedRow (location : RetentionLocation) (deletedAt : Instant) :
    BackupHistory → BackupHistory :=
  match location with
  | .localCopy => markLocalDeletedRow deletedAt
  | .remoteCopy => markRemoteDeletedRow deletedAt

/-- A mark keeps the row's id. -/
@[simp] theorem markDeletedRow_id (location : RetentionLocation) (deletedAt : Instant)
    (record : BackupHistory) : (markDeletedRow location deletedAt record).id = record.id := by
  cases location <;>
    simp only [markDeletedRow, markLocalDeletedRow, markRemoteDeletedRow, refreshStatus] <;>
    split <;> rfl

/-- Mark the copy of a stored row at a location as removed; an unknown id changes nothing. -/
def markDeleted (db : Database) (location : RetentionLocation) (backupId : Nat)
    (deletedAt : Instant) : Database :=
  let history := db.history.modify backupId (markDeletedRow location deletedAt)
    (markDeletedRow_id location deletedAt)
  { db with history }

/-- The rows after a mark: the marked row and every other one. -/
theorem mem_markDeleted {db : Database} {location : RetentionLocation} {backupId : Nat}
    {deletedAt : Instant} {record : BackupHistory} :
    record ∈ (markDeleted db location backupId deletedAt).history ↔
      (∃ old ∈ db.history, old.id = backupId ∧ record = markDeletedRow location deletedAt old) ∨
        (record ∈ db.history ∧ record.id ≠ backupId) :=
  Table.mem_modify (markDeletedRow_id location deletedAt)

end ProxSync.Retention
