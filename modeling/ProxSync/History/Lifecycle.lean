import ProxSync.Lib.System
import ProxSync.History.Writers
import ProxSync.Retention.Classify
/-!
# The status of a row after its backup succeeded

One history row with the transfers and the restore that name it, from the moment its backup was
recorded as successful. The routes, the sync worker, retention and the restore worker write the
row one after the other, because every one of these writes holds the retention guard. The status
of the row is meant to say whether any copy is left; the writers that remove a copy recompute it
and the writers that move the upload do not, so it is right as long as no transfer or
verification gives or takes the remote copy of a row without a local one.
-/
open ProxSync.Lib ProxSync.Retention

namespace ProxSync.History

/-- A row, its transfers, and what is under way for it. -/
structure Lifecycle where
  row : BackupHistory
  tasks : Table SyncTask.id
  /-- The transfer the sync worker is carrying out. -/
  lane : Option Nat
  /-- Number of restores that still need the artifact. -/
  restoring : Nat

/-- The configured destination and retry allowance of a transfer. -/
structure TransferConfig where
  remoteName : String
  folder : String
  uploadRetry : Nat
  deriving DecidableEq, Repr

/-- A write to the row, its transfers or its restore. -/
inductive Write
  | enqueueUpload (id : Nat) (config : TransferConfig) (force : Bool)
  | enqueuePending (id : Nat) (config : TransferConfig)
  | claim (id : Nat)
  | load
  | recordSuccess (finishedAt : Instant) (verification : Option (Option String × Option Int))
  | recordFailure (message : String) (now : Instant)
  | recoverTransfers
  | cancelTask (id : Nat) (now : Instant)
  | retryTask (id : Nat)
  | verify (result : VerifyResult) (now : Instant)
  | lock (locked : Bool)
  | deleteLocal (now : Instant)
  | retain (location : RetentionLocation) (now : Instant)
  | requestRestore (onHost : Bool)
  | downloaded
  | closeRestore

/-- A transfer as it is queued. -/
def queuedTask (id backupId : Nat) (config : TransferConfig) : SyncTask where
  id := id
  backupId := some backupId
  status := .queued
  agentTaskId := none
  remoteName := some config.remoteName
  remotePath := some config.folder
  attempt := 0
  maxAttempts := config.uploadRetry + 1
  errorMessage := none
  finishedAt := none

/-- A transfer that is queued or running. -/
def SyncTask.isActive (task : SyncTask) : Bool := task.status == .queued || task.status == .running

namespace Lifecycle

/-- Add a queued transfer under a new id. -/
def addTask (state : Lifecycle) (id : Nat) (config : TransferConfig) : Option Lifecycle :=
  if fresh : ∀ other ∈ state.tasks, other.id < id then
    let task := queuedTask id state.row.id config
    some { state with tasks := state.tasks.insert task fresh }
  else none

/-- Rewrite a stored transfer. -/
def setTask (state : Lifecycle) (id : Nat) (update : SyncTask → SyncTask)
    (keeps : ∀ task, (update task).id = task.id) : Lifecycle :=
  { state with tasks := state.tasks.modify id update keeps }

/-- Rewrite the row. -/
def setRow (state : Lifecycle) (update : BackupHistory → BackupHistory) : Lifecycle :=
  { state with row := update state.row }

/-- A transfer that ran out of attempts fails; the others wait for another. -/
def afterFailure (message : String) (now : Instant) (task : SyncTask) : SyncTask :=
  let noted := { task with errorMessage := some (truncate 2000 message) }
  if task.maxAttempts ≤ task.attempt then
    { noted with status := .failed, finishedAt := some now }
  else { noted with status := .queued }

/-- A failed transfer keeps its id. -/
theorem afterFailure_id (message : String) (now : Instant) (task : SyncTask) :
    (afterFailure message now task).id = task.id := by
  unfold afterFailure
  dsimp only
  split <;> rfl

/-- A transfer that was running when the process died waits again. -/
def afterRestart (task : SyncTask) : SyncTask :=
  if task.status = .running then
    { task with
      status := .queued, attempt := task.attempt - 1
      errorMessage := some "Re-queued after the dashboard restarted mid-transfer" }
  else task

/-- Re-queue every running transfer. -/
def requeueAll (tasks : Table SyncTask.id) : Table SyncTask.id where
  rows := tasks.rows.map afterRestart
  ascending := by
    have same : ∀ task, (afterRestart task).id = task.id := by
      intro task
      unfold afterRestart
      split <;> rfl
    simpa [List.pairwise_map, same] using tasks.ascending

/-- The effect of one write, or nothing where the route or worker refuses it. -/
def step (state : Lifecycle) : Write → Option Lifecycle
  | .enqueueUpload id config force =>
    if state.row.status = .success ∧ localPresent state.row = true ∧
        (∀ task ∈ state.tasks, SyncTask.isActive task = false) ∧
        (state.row.uploadStatus = .uploaded → force = true) then
      (state.addTask id config).map fun queued => queued.setRow (setUploadStatus .pending)
    else none
  | .enqueuePending id config =>
    if state.row.status = .success ∧ localPresent state.row = true ∧
        state.row.uploadStatus = .pending ∧
        (∀ task ∈ state.tasks, SyncTask.isActive task = false) then
      state.addTask id config
    else none
  | .claim id =>
    match state.lane, state.tasks.get id with
    | none, some task =>
      if task.status = .queued then
        some ({ state with lane := some id }.setTask id
          (fun task => { task with status := .running, attempt := task.attempt + 1 }) fun _ => rfl)
      else none
    | _, _ => none
  | .load =>
    match state.lane with
    | none => none
    | some id =>
      if state.row.filename.isSome then some (state.setRow (setUploadStatus .uploading))
      else some ({ state with lane := none }.setTask id
        (fun task => { task with
          status := .failed
          errorMessage := some "The backup this transfer refers to no longer exists" })
        fun _ => rfl)
  | .recordSuccess finishedAt verification =>
    match state.lane.bind fun id => state.tasks.get id with
    | none => none
    | some task =>
      let result : UploadResult := ⟨finishedAt, task.remoteName, task.remotePath, verification⟩
      some (({ state with lane := none }.setTask task.id
        (fun task => { task with
          status := .success, finishedAt := some finishedAt, errorMessage := none })
        fun _ => rfl).setRow (recordUpload result))
  | .recordFailure message now =>
    match state.lane.bind fun id => state.tasks.get id with
    | none => none
    | some task =>
      let exhausted := decide (task.maxAttempts ≤ task.attempt)
      some (({ state with lane := none }.setTask task.id (afterFailure message now)
        (afterFailure_id message now)).setRow
          (setUploadStatus (if exhausted then .failed else .pending)))
  | .recoverTransfers => some { state with lane := none, tasks := requeueAll state.tasks }
  | .cancelTask id now =>
    match state.tasks.get id with
    | none => none
    | some task =>
      if SyncTask.isActive task then
        some ((state.setTask id
          (fun task => { task with
            status := .cancelled, finishedAt := some now
            errorMessage := some "Cancelled by operator" })
          fun _ => rfl).setRow (setUploadStatus .failed))
      else none
  | .retryTask id =>
    match state.tasks.get id with
    | none => none
    | some _ =>
      some ((state.setTask id
        (fun task => { task with
          status := .queued, attempt := 1, errorMessage := none, finishedAt := none
          agentTaskId := none })
        fun _ => rfl).setRow (setUploadStatus .pending))
  | .verify result now =>
    if state.row.filename.isSome then some (state.setRow (applyVerification result now)) else none
  | .lock locked => some (state.setRow (setRetentionLock locked))
  | .deleteLocal now =>
    if state.row.status ≠ .running ∧ state.row.retentionLocked = false ∧
        state.restoring = 0 ∧ state.row.filename.isSome then
      some (state.setRow (deleteLocalArtifact now))
    else none
  | .retain location now =>
    if hasCopy location state.row ∧ state.row.retentionLocked = false ∧ state.restoring = 0 ∧
        (location = .localCopy → localUploadBlocker state.row = none) then
      some (state.setRow (markDeletedRow location now))
    else none
  | .requestRestore onHost =>
    if state.row.status = .success ∧ (onHost ∨ remoteUsable state.row) then
      some { state with restoring := state.restoring + 1 }
    else none
  | .downloaded => if 0 < state.restoring then some (state.setRow markLocalCopyPresent) else none
  | .closeRestore =>
    if 0 < state.restoring then some { state with restoring := state.restoring - 1 } else none

/-- A row as the runner or an import leaves it when its backup succeeded. -/
structure FreshlyRecorded (row : BackupHistory) : Prop where
  succeeded : row.status = .success
  named : row.filename.isSome = true
  onHost : row.localDeletedAt = none
  unsent : row.remotePath = none
  unremoved : row.remoteDeletedAt = none
  upload : row.uploadStatus = .pending ∨ row.uploadStatus = .notRequired

/-- The runner leaves such a row when the agent reports success and names the archive. -/
theorem recordOutcome_freshlyRecorded (id : Nat) (runId : Option Nat) (target : ResolvedTarget)
    (storage taskId : String) (correlationId : Option String) (startedAt now : Instant)
    (upload : Bool) (task : AgentTask) (succeeded : task.state = .success)
    (named : (textField task.result "filename").isSome = true) :
    FreshlyRecorded (recordOutcome task upload now (storeTask taskId correlationId
      (BackupHistory.create id runId target storage (if upload then .pending else .notRequired)
        startedAt))) := by
  cases upload <;>
    constructor <;>
    simp [recordOutcome, succeeded, AgentTaskState.backupStatus, applyArtifact, storeTask,
      BackupHistory.create, named]

/-- The writes to a row after its backup succeeded, from the row its recording left. -/
def system : System Lifecycle Write where
  init state := FreshlyRecorded state.row ∧ state.tasks = .empty ∧ state.lane = none ∧
    state.restoring = 0
  step := step

/-- The status says whether any copy is left. -/
def StatusAgrees (row : BackupHistory) : Prop :=
  row.status = if localPresent row || remoteUsable row then .success else .deleted

/-- A write that moves the upload away from `uploaded` finds a local copy, or no remote copy. -/
def TakesNoRemote (row : BackupHistory) : Prop :=
  localPresent row = true ∨ remoteUsable row = false

/-- A write that moves the upload to `uploaded` finds a local copy, or gives no remote copy that
was not there: it is there already, it is not named, or its removal stays recorded. -/
def GivesNoRemote (row : BackupHistory) (named : Bool) : Prop :=
  localPresent row = true ∨ remoteUsable row = true ∨ named = false ∨
    row.remoteDeletedAt.isSome = true

/-- No transfer or verification gives or takes the remote copy of a row without a local one. -/
def KeepsRemote (state : Lifecycle) : Write → Prop
  | .load | .recordFailure _ _ | .cancelTask _ _ | .retryTask _ => TakesNoRemote state.row
  | .recordSuccess _ _ => GivesNoRemote state.row true
  | .verify result _ =>
    if result.verified then GivesNoRemote state.row state.row.remotePath.isSome
    else TakesNoRemote state.row
  | _ => True

/-- What every reachable state satisfies while the writes keep the remote copy. -/
structure Consistent (state : Lifecycle) : Prop where
  agrees : StatusAgrees state.row
  named : state.row.filename.isSome = true
  /-- A row that was never to be uploaded has no remote path. -/
  exempt : state.row.uploadStatus = .notRequired → state.row.remotePath = none
  /-- A row that a restore needs is not deleted. -/
  needed : 0 < state.restoring → state.row.status = .success

/-- A recorded row is consistent. -/
theorem FreshlyRecorded.consistent {state : Lifecycle} (fresh : FreshlyRecorded state.row)
    (idle : state.restoring = 0) : Consistent state where
  agrees := by
    simp [StatusAgrees, fresh.succeeded, localPresent, fresh.named, fresh.onHost]
  named := fresh.named
  exempt := fun _ => fresh.unsent
  needed := by simp [idle]

/-- A write that leaves the status alone keeps it right when a local copy is present or the
remote copy stays as usable as it was. -/
theorem StatusAgrees.carry {row after : BackupHistory} (agrees : StatusAgrees row)
    (status : after.status = row.status) (same : localPresent after = localPresent row)
    (remote : localPresent row = true ∨ remoteUsable after = remoteUsable row) :
    StatusAgrees after := by
  rw [StatusAgrees, status, same, agrees]
  rcases remote with present | unchanged
  · simp [present]
  · rw [unchanged]

/-- Moving the upload away from `uploaded` keeps the status right when it takes no copy. -/
theorem statusAgrees_setUploadStatus {row : BackupHistory} {status : UploadStatus}
    (moved : status ≠ .uploaded) (agrees : StatusAgrees row) (takes : TakesNoRemote row) :
    StatusAgrees (setUploadStatus status row) := by
  refine agrees.carry rfl rfl (takes.imp_right fun absent => ?_)
  rw [absent]
  simp [remoteUsable, setUploadStatus, moved]

/-- A row that gains no remote copy: the marks of an uploaded copy change nothing it lacks. -/
theorem GivesNoRemote.usable_iff {row : BackupHistory} {named : Bool}
    (gives : GivesNoRemote row named) (own : row.remotePath.isSome = true → named = true) :
    localPresent row = true ∨ (named && row.remoteDeletedAt.isNone) = remoteUsable row := by
  rcases gives with present | usable | unnamed | removed
  · exact .inl present
  · simp only [remoteUsable, Bool.and_eq_true] at usable
    simp [remoteUsable, usable, own usable.1.2]
  · have pathless : row.remotePath.isSome = false := by
      cases path : row.remotePath.isSome with
      | false => rfl
      | true => simp [own path] at unnamed
    simp [remoteUsable, unnamed, pathless]
  · have gone : row.remoteDeletedAt.isNone = false := by
      cases removal : row.remoteDeletedAt <;> simp [removal] at removed ⊢
    simp [gone, remoteUsable]

/-- A successful transfer keeps the status right when it gives no copy. -/
theorem statusAgrees_recordUpload {row : BackupHistory} {result : UploadResult}
    (agrees : StatusAgrees row) (gives : GivesNoRemote row true) :
    StatusAgrees (recordUpload result row) := by
  have given : remoteUsable (recordUpload result row) = (true && row.remoteDeletedAt.isNone) := by
    unfold recordUpload
    cases result.verification <;> simp [remoteUsable]
  refine agrees.carry ?_ ?_ (given ▸ gives.usable_iff fun _ => rfl) <;>
  · unfold recordUpload
    cases result.verification <;> rfl

/-- A verification keeps the status right when it neither gives nor takes a copy. -/
theorem statusAgrees_applyVerification {row : BackupHistory} {result : VerifyResult}
    {now : Instant} (agrees : StatusAgrees row)
    (keeps : if result.verified then GivesNoRemote row row.remotePath.isSome
      else TakesNoRemote row) :
    StatusAgrees (applyVerification result now row) := by
  have status : (applyVerification result now row).status = row.status := by
    unfold applyVerification
    split <;> rfl
  have same : localPresent (applyVerification result now row) = localPresent row := by
    unfold applyVerification
    split <;> rfl
  refine agrees.carry status same ?_
  by_cases verified : result.verified = true
  · rw [if_pos verified] at keeps
    have given : remoteUsable (applyVerification result now row) =
        (row.remotePath.isSome && row.remoteDeletedAt.isNone) := by
      simp [applyVerification, verified, remoteUsable]
    exact given ▸ keeps.usable_iff fun some => some
  · rw [if_neg verified] at keeps
    refine keeps.imp_right fun absent => ?_
    rw [absent]
    by_cases was : row.uploadStatus = .uploaded <;>
      simp [applyVerification, verified, remoteUsable, was]

/-- A manual delete always leaves the right status. -/
theorem statusAgrees_deleteLocalArtifact (row : BackupHistory) (now : Instant) :
    StatusAgrees (deleteLocalArtifact now row) := by
  simp [StatusAgrees, deleteLocalArtifact, localPresent, remoteUsable]

/-- Refreshing leaves the right status where a remote path means an upload. -/
theorem statusAgrees_refreshStatus {row : BackupHistory}
    (uploaded : row.remotePath.isSome = true → row.remoteDeletedAt = none →
      row.uploadStatus = .uploaded) : StatusAgrees (refreshStatus row) := by
  have remote : (row.remotePath.isSome && row.remoteDeletedAt.isNone) = remoteUsable row := by
    cases path : row.remotePath.isSome <;> cases gone : row.remoteDeletedAt <;>
      simp [remoteUsable, path, gone]
    exact uploaded path gone
  have present : (row.localDeletedAt.isNone && row.filename.isSome) = localPresent row :=
    Bool.and_comm ..
  simp only [StatusAgrees, refreshStatus, remote, present]
  rfl

/-- A mark of retention leaves the right status on a consistent row. -/
theorem statusAgrees_markDeletedRow {state : Lifecycle} {location : RetentionLocation}
    {now : Instant} (consistent : Consistent state) (present : hasCopy location state.row = true)
    (safe : location = .localCopy → localUploadBlocker state.row = none) :
    StatusAgrees (markDeletedRow location now state.row) := by
  cases location with
  | localCopy =>
    simp only [hasCopy, localExists, Bool.and_eq_true, Option.isNone_iff_eq_none] at present
    simp only [markDeletedRow, markLocalDeletedRow, present.1.2, Option.isSome_none,
      Bool.false_eq_true, ↓reduceIte]
    refine statusAgrees_refreshStatus fun path _ => ?_
    rcases localUploadBlocker_eq_none.mp (safe rfl) with exempt | uploaded
    · have pathless := consistent.exempt exempt
      simp [pathless] at path
    · exact uploaded.1
  | remoteCopy =>
    simp only [hasCopy, remoteExists, Bool.and_eq_true, Option.isNone_iff_eq_none] at present
    simp only [markDeletedRow, markRemoteDeletedRow, present.1.1.2, Option.isSome_none,
      Bool.false_eq_true, ↓reduceIte]
    exact statusAgrees_refreshStatus fun _ gone => by simp at gone

variable {state after : Lifecycle}

/-- Only the transfers or the worker's lane changed. -/
theorem Consistent.sameRow (consistent : Consistent state) (row : after.row = state.row)
    (restoring : after.restoring = state.restoring) : Consistent after where
  agrees := by rw [row]; exact consistent.agrees
  named := by rw [row]; exact consistent.named
  exempt := by rw [row]; exact consistent.exempt
  needed := by rw [row, restoring]; exact consistent.needed

/-- The upload moved to a state that takes no remote copy. -/
theorem Consistent.moveUpload (consistent : Consistent state) {status : UploadStatus}
    (row : after.row = setUploadStatus status state.row)
    (restoring : after.restoring = state.restoring) (moved : status ≠ .uploaded)
    (required : status ≠ .notRequired) (takes : TakesNoRemote state.row) : Consistent after where
  agrees := by rw [row]; exact statusAgrees_setUploadStatus moved consistent.agrees takes
  named := by rw [row]; exact consistent.named
  exempt := by rw [row]; exact fun exempt => absurd exempt required
  needed := by rw [row, restoring]; exact consistent.needed

/-- A copy was removed while no restore needs the row. -/
theorem Consistent.remove (consistent : Consistent state)
    (agrees : StatusAgrees after.row) (named : after.row.filename = state.row.filename)
    (upload : after.row.uploadStatus = state.row.uploadStatus)
    (path : after.row.remotePath = state.row.remotePath) (idle : after.restoring = 0) :
    Consistent after where
  agrees := agrees
  named := by rw [named]; exact consistent.named
  exempt := by rw [upload, path]; exact consistent.exempt
  needed := by simp [idle]

/-- Adding a transfer changes neither the row nor the restore. -/
theorem addTask_row {id : Nat} {config : TransferConfig}
    (added : state.addTask id config = some after) :
    after.row = state.row ∧ after.restoring = state.restoring := by
  unfold addTask at added
  split at added
  · simp only [Option.some.injEq] at added
    subst added
    exact ⟨rfl, rfl⟩
  · simp at added

/-- One write keeps a row consistent when it keeps the remote copy. -/
theorem step_consistent {write : Write} (consistent : Consistent state)
    (keeps : KeepsRemote state write) (stepped : state.step write = some after) :
    Consistent after := by
  cases write with
  | enqueueUpload id config force =>
    simp only [step] at stepped
    split at stepped
    · rename_i ready
      obtain ⟨queued, added, rfl⟩ := Option.map_eq_some_iff.mp stepped
      obtain ⟨row, restoring⟩ := addTask_row added
      exact consistent.moveUpload (congrArg (setUploadStatus .pending) row) restoring
        (by simp) (by simp) (.inl ready.2.1)
    · simp at stepped
  | enqueuePending id config =>
    simp only [step] at stepped
    split at stepped
    · obtain ⟨row, restoring⟩ := addTask_row stepped
      exact consistent.sameRow row restoring
    · simp at stepped
  | claim id =>
    simp only [step] at stepped
    split at stepped
    · split at stepped
      · exact consistent.sameRow (by simp [← Option.some.inj stepped, setTask])
          (by simp [← Option.some.inj stepped, setTask])
      · simp at stepped
    · simp at stepped
  | load =>
    simp only [step] at stepped
    split at stepped
    · simp at stepped
    · rw [if_pos consistent.named, Option.some.injEq] at stepped
      subst stepped
      exact consistent.moveUpload rfl rfl (by simp) (by simp) keeps
  | recordSuccess finishedAt verification =>
    simp only [step] at stepped
    split at stepped
    · simp at stepped
    · rename_i task found
      rw [Option.some.injEq] at stepped
      subst stepped
      have kept : ∀ result : UploadResult,
          (recordUpload result state.row).filename = state.row.filename ∧
          (recordUpload result state.row).status = state.row.status ∧
          (recordUpload result state.row).uploadStatus = .uploaded := by
        intro result
        unfold recordUpload
        cases result.verification <;> exact ⟨rfl, rfl, rfl⟩
      refine ⟨statusAgrees_recordUpload consistent.agrees keeps, ?_, ?_, ?_⟩
      · exact (congrArg Option.isSome (kept _).1).trans consistent.named
      · exact fun exempt => absurd ((kept _).2.2.symm.trans exempt) (by simp)
      · exact fun restoring => (kept _).2.1.trans (consistent.needed restoring)
  | recordFailure message now =>
    simp only [step] at stepped
    split at stepped
    · simp at stepped
    · rename_i task found
      rw [Option.some.injEq] at stepped
      subst stepped
      exact consistent.moveUpload rfl rfl (by split <;> simp) (by split <;> simp) keeps
  | recoverTransfers =>
    simp only [step, Option.some.injEq] at stepped
    subst stepped
    exact consistent.sameRow rfl rfl
  | cancelTask id now =>
    simp only [step] at stepped
    split at stepped
    · simp at stepped
    · split at stepped
      · rw [Option.some.injEq] at stepped
        subst stepped
        exact consistent.moveUpload rfl rfl (by simp) (by simp) keeps
      · simp at stepped
  | retryTask id =>
    simp only [step] at stepped
    split at stepped
    · simp at stepped
    · rw [Option.some.injEq] at stepped
      subst stepped
      exact consistent.moveUpload rfl rfl (by simp) (by simp) keeps
  | verify result now =>
    simp only [step, consistent.named, ↓reduceIte, Option.some.injEq] at stepped
    subst stepped
    refine ⟨statusAgrees_applyVerification consistent.agrees keeps, ?_, ?_, ?_⟩
    · simp only [setRow, applyVerification]
      split <;> exact consistent.named
    · simp only [setRow, applyVerification]
      split
      · simp
      · dsimp only
        split
        · simp
        · exact consistent.exempt
    · simp only [setRow, applyVerification]
      split <;> exact consistent.needed
  | lock locked =>
    simp only [step, Option.some.injEq] at stepped
    subst stepped
    exact ⟨consistent.agrees, consistent.named, consistent.exempt, consistent.needed⟩
  | deleteLocal now =>
    simp only [step] at stepped
    split at stepped
    · rename_i allowed
      rw [Option.some.injEq] at stepped
      subst stepped
      exact consistent.remove (statusAgrees_deleteLocalArtifact _ _) rfl rfl rfl allowed.2.2.1
    · simp at stepped
  | retain location now =>
    simp only [step] at stepped
    split at stepped
    · rename_i allowed
      rw [Option.some.injEq] at stepped
      subst stepped
      have kept : (markDeletedRow location now state.row).filename = state.row.filename ∧
          (markDeletedRow location now state.row).uploadStatus = state.row.uploadStatus ∧
          (markDeletedRow location now state.row).remotePath = state.row.remotePath := by
        cases location <;>
          simp only [markDeletedRow, markLocalDeletedRow, markRemoteDeletedRow, refreshStatus] <;>
          split <;> exact ⟨rfl, rfl, rfl⟩
      exact consistent.remove
        (statusAgrees_markDeletedRow consistent allowed.1 allowed.2.2.2) kept.1 kept.2.1 kept.2.2
        allowed.2.2.1
    · simp at stepped
  | requestRestore onHost =>
    simp only [step] at stepped
    split at stepped
    · rename_i allowed
      rw [Option.some.injEq] at stepped
      subst stepped
      exact ⟨consistent.agrees, consistent.named, consistent.exempt, fun _ => allowed.1⟩
    · simp at stepped
  | downloaded =>
    simp only [step] at stepped
    split at stepped
    · rename_i restoring
      rw [Option.some.injEq] at stepped
      subst stepped
      have succeeded := consistent.needed restoring
      refine ⟨?_, consistent.named, consistent.exempt, consistent.needed⟩
      simp [StatusAgrees, setRow, markLocalCopyPresent, localPresent, consistent.named, succeeded]
    · simp at stepped
  | closeRestore =>
    simp only [step] at stepped
    split at stepped
    · rw [Option.some.injEq] at stepped
      subst stepped
      exact ⟨consistent.agrees, consistent.named, consistent.exempt,
        fun open' => consistent.needed (by simp only at open'; omega)⟩
    · simp at stepped

/-- In every run whose transfers and verifications keep the remote copy, the status of the row is
`deleted` exactly when no copy is left, and `success` otherwise. -/
theorem status_agrees_of_keepsRemote (state : Lifecycle)
    (reached : system.Reachable KeepsRemote state) :
    (state.row.status = .deleted ↔
      localPresent state.row = false ∧ remoteUsable state.row = false) ∧
    (state.row.status ≠ .deleted → state.row.status = .success) := by
  have consistent : Consistent state := by
    refine reached.invariant_alone ⟨?_, ?_⟩
    · exact fun _ initial => initial.1.consistent initial.2.2.2
    · exact fun _ _ _ _ consistent keeps stepped => step_consistent consistent keeps stepped
  have agrees := consistent.agrees
  unfold StatusAgrees at agrees
  cases present : localPresent state.row <;> cases usable : remoteUsable state.row <;>
    simp_all

instance (row : BackupHistory) : Decidable (TakesNoRemote row) :=
  inferInstanceAs (Decidable (_ ∨ _))

instance (row : BackupHistory) (named : Bool) : Decidable (GivesNoRemote row named) :=
  inferInstanceAs (Decidable (_ ∨ _))

instance keepsRemoteDecidable (state : Lifecycle) (write : Write) :
    Decidable (KeepsRemote state write) := by
  cases write <;> unfold KeepsRemote <;> infer_instance

/-- A task that produced an archive. -/
def finishedArchive : AgentTask :=
  ⟨.success, some 20, none, .singleton "filename" (.str "vzdump-qemu-101.vma.zst")⟩

/-- A row that was just recorded and still has to be uploaded. -/
def awaitingUpload : Lifecycle where
  row := recordOutcome finishedArchive true 20 (storeTask "task-1" none
    (BackupHistory.create 1 (some 1) ⟨101, .vm, "web", "pve"⟩ "backup-hdd" .pending 10))
  tasks := .empty
  lane := none
  restoring := 0

/-- It may start a run. -/
theorem awaitingUpload_initial : system.init awaitingUpload :=
  ⟨recordOutcome_freshlyRecorded 1 (some 1) ⟨101, .vm, "web", "pve"⟩ "backup-hdd" "task-1" none
    10 20 true finishedArchive rfl (by decide), rfl, rfl, rfl⟩

/-- The upload of a file that an operator deletes while it is being sent. -/
def deletedWhileUploading : List Write :=
  [.enqueuePending 1 ⟨"gdrive", "proxsync/dump", 3⟩, .claim 1, .load, .deleteLocal 30,
    .recordSuccess 40 none]

/-- A backup whose local file is deleted during its upload ends with a remote copy and the status
`deleted`. -/
theorem status_drifts_during_upload :
    ¬ ∀ state, system.Reachable System.unguarded state →
      (state.row.status = .deleted ↔
        localPresent state.row = false ∧ remoteUsable state.row = false) ∧
      (state.row.status ≠ .deleted → state.row.status = .success) := by
  intro always
  obtain ⟨state, reached, drifted⟩ : ∃ state, system.Reachable System.unguarded state ∧
      (decide (state.row.status = .deleted) && remoteUsable state.row) = true :=
    System.exists_of_runFrom awaitingUpload_initial deletedWhileUploading _ (by decide)
  simp only [Bool.and_eq_true, decide_eq_true_eq] at drifted
  have gone := ((always state reached).1.mp drifted.1).2
  simp [drifted.2] at gone

/-- A backup that is uploaded before its local file is deleted keeps the status of its copies. -/
theorem status_agrees_after_upload :
    ∃ state, system.Reachable KeepsRemote state ∧ remoteUsable state.row = true ∧
      (state.row.status = .deleted ↔
        localPresent state.row = false ∧ remoteUsable state.row = false) ∧
      (state.row.status ≠ .deleted → state.row.status = .success) := by
  obtain ⟨state, reached, usable⟩ : ∃ state, system.Reachable KeepsRemote state ∧
      remoteUsable state.row = true :=
    System.exists_of_runFrom awaitingUpload_initial
      [.enqueuePending 1 ⟨"gdrive", "proxsync/dump", 3⟩, .claim 1, .load, .recordSuccess 40 none,
        .deleteLocal 50] _ (by decide)
  exact ⟨state, reached, usable, status_agrees_of_keepsRemote state reached⟩

end Lifecycle

end ProxSync.History
