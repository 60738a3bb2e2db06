import ProxSync.Sync.Coherence
/-!
# What drives an upload

A row is marked uploading when the worker loads a transfer it has claimed, and every write that
ends the transfer moves the row away again. The worker does not look at the status of the transfer
it loads, though: a cancellation that commits after the claim is overtaken by the load, and leaves
a row uploading with nothing behind it. In runs whose loads find the transfer queued or running,
every row that is uploading has such a transfer.
-/
open ProxSync.Lib ProxSync.Retention ProxSync.History

namespace ProxSync.Sync

/-- Every row that is uploading has a transfer that is queued or running. -/
def Driven (state : State) : Prop :=
  ∀ record ∈ state.history, record.uploadStatus = .uploading →
    ∃ task ∈ state.tasks, task.backupId = some record.id ∧ SyncTask.isActive task = true

instance (state : State) : Decidable (Driven state) :=
  inferInstanceAs (Decidable (∀ record ∈ state.history, record.uploadStatus = .uploading →
    ∃ task ∈ state.tasks, task.backupId = some record.id ∧ SyncTask.isActive task = true))

/-- Whether the worker loads the transfer it claimed. -/
def Action.isLoad : Action → Bool
  | .load _ => true
  | _ => false

/-- A transfer that the worker loads was not cancelled since it was claimed. -/
def LoadsActive (state : State) (action : Action) : Prop :=
  action.isLoad = true → ∀ task ∈ state.tasks, state.phase = .holding task.id .claimed →
    SyncTask.isActive task = true

instance (state : State) (action : Action) : Decidable (LoadsActive state action) :=
  inferInstanceAs (Decidable (action.isLoad = true → ∀ task ∈ state.tasks,
    state.phase = .holding task.id .claimed → SyncTask.isActive task = true))

/-- What every reachable state satisfies while loads find their transfer active. -/
structure Driving (state : State) : Prop where
  driven : Driven state
  named : ∀ record ∈ state.history, record.uploadStatus = .uploading →
    record.filename.isSome = true

/-- A write that moves no row to `uploading`. -/
structure Settles (update : BackupHistory → BackupHistory) : Prop where
  status : ∀ record, (update record).uploadStatus = .uploading → record.uploadStatus = .uploading
  filename : ∀ record, (update record).filename = record.filename

/-- A write that leaves the upload alone moves nothing to `uploading`. -/
theorem KeepsUpload.settles {update : BackupHistory → BackupHistory} (keeps : KeepsUpload update) :
    Settles update :=
  ⟨fun record uploading => (keeps.status record).symm.trans uploading, keeps.filename⟩

/-- A verification moves nothing to `uploading`. -/
theorem applyVerification_settles (result : VerifyResult) (now : Instant) :
    Settles (applyVerification result now) := by
  refine ⟨fun record uploading => ?_, applyVerification_filename result now⟩
  unfold applyVerification at uploading
  split at uploading
  · cases uploading
  · dsimp only at uploading
    split at uploading
    · cases uploading
    · exact uploading

section Driving

variable {state after : State} {action : Action}

/-- Rows that are uploading after a settling write were so before. -/
theorem uploading_setRow {backupId : Nat} {update : BackupHistory → BackupHistory}
    (keeps : ∀ record, (update record).id = record.id) (settles : Settles update)
    {later : BackupHistory} (stored : later ∈ state.history.modify backupId update keeps)
    (uploading : later.uploadStatus = .uploading) : ∃ record ∈ state.history,
      record.id = later.id ∧ record.filename = later.filename ∧
      record.uploadStatus = .uploading := by
  rcases (Table.mem_modify keeps).mp stored with ⟨old, before, _, rfl⟩ | ⟨before, _⟩
  · exact ⟨old, before, (keeps old).symm, (settles.filename old).symm,
      settles.status old uploading⟩
  · exact ⟨later, before, rfl, rfl, uploading⟩

/-- A row that is uploading after an upload was moved elsewhere is another row. -/
theorem uploading_setUpload (state : State) {backupId : Option Nat} {status : UploadStatus}
    (elsewhere : status ≠ .uploading) {later : BackupHistory}
    (stored : later ∈ (state.setUpload backupId status).history)
    (uploading : later.uploadStatus = .uploading) :
    later ∈ state.history ∧ backupId ≠ some later.id := by
  cases backupId with
  | none => exact ⟨stored, nofun⟩
  | some backupId =>
    rcases (Table.mem_modify (setUploadStatus_id _)).mp stored with
      ⟨old, _, _, rfl⟩ | ⟨before, other⟩
    · exact absurd uploading elsewhere
    · exact ⟨before, fun same => other (Option.some.inj same).symm⟩

/-- A row that is uploading after a recorded success is not the one that was uploaded. -/
theorem uploading_recordSuccess {task : SyncTask} (stored : task ∈ state.tasks)
    {finishedAt : Instant} {verification : Option (Option String × Option Int)}
    {later : BackupHistory}
    (kept : later ∈ (state.recordSuccess task.id finishedAt verification).history)
    (uploading : later.uploadStatus = .uploading) :
    later ∈ state.history ∧ task.backupId ≠ some later.id := by
  rcases mem_recordSuccess stored kept with other | ⟨old, _, _, rfl⟩
  · exact other
  · unfold recordUpload at uploading
    dsimp only at uploading
    split at uploading <;> cases uploading

/-- A row that is uploading after a recorded failure is not the one that failed. -/
theorem uploading_recordFailure {task : SyncTask} (stored : task ∈ state.tasks)
    {message : String} {now : Instant} {later : BackupHistory}
    (kept : later ∈ (state.recordFailure task.id message now).history)
    (uploading : later.uploadStatus = .uploading) :
    later ∈ state.history ∧ task.backupId ≠ some later.id := by
  unfold State.recordFailure at kept
  rw [Table.get_of_mem stored] at kept
  refine uploading_setUpload (state.setTask task.id (Lifecycle.afterFailure message now)
    (Lifecycle.afterFailure_id message now)) ?_ kept uploading
  split <;> exact nofun

/-- Rows stay driven where the ones still uploading keep an active transfer. -/
theorem Driving.carry (driving : Driving state)
    (rows : ∀ later ∈ after.history, later.uploadStatus = .uploading → ∃ record ∈ state.history,
      record.id = later.id ∧ record.filename = later.filename ∧
      record.uploadStatus = .uploading)
    (tasks : ∀ later ∈ after.history, later.uploadStatus = .uploading → ∀ task ∈ state.tasks,
      task.backupId = some later.id → SyncTask.isActive task = true →
      ∃ still ∈ after.tasks, still.backupId = some later.id ∧ SyncTask.isActive still = true) :
    Driving after where
  driven later stored uploading := by
    obtain ⟨record, recordStored, same, _, was⟩ := rows later stored uploading
    obtain ⟨task, taskStored, about, active⟩ := driving.driven record recordStored was
    exact tasks later stored uploading task taskStored (about.trans (congrArg some same)) active
  named later stored uploading := by
    obtain ⟨record, recordStored, _, name, was⟩ := rows later stored uploading
    exact name ▸ driving.named record recordStored was

/-- Where the transfers are the same, only the rows matter. -/
theorem Driving.rows (driving : Driving state)
    (rows : ∀ later ∈ after.history, later.uploadStatus = .uploading → ∃ record ∈ state.history,
      record.id = later.id ∧ record.filename = later.filename ∧
      record.uploadStatus = .uploading)
    (same : after.tasks = state.tasks) : Driving after := by
  refine driving.carry rows fun later _ _ task stored about active => ?_
  exact ⟨task, same ▸ stored, about, active⟩

/-- Rewriting a transfer that is not for a row keeps the active transfers of the row. -/
theorem active_setTask_other {taskId : Nat} {update : SyncTask → SyncTask}
    (keeps : ∀ task, (update task).id = task.id) {backupId : Nat}
    (other : ∀ task ∈ state.tasks, task.id = taskId → task.backupId ≠ some backupId)
    {task : SyncTask} (stored : task ∈ state.tasks) (about : task.backupId = some backupId)
    (active : SyncTask.isActive task = true) :
    ∃ still ∈ state.tasks.modify taskId update keeps, still.backupId = some backupId ∧
      SyncTask.isActive still = true :=
  ⟨task, (Table.mem_modify keeps).mpr (.inr ⟨stored, fun same => other task stored same about⟩),
    about, active⟩

/-- A rewritten transfer that is active keeps every row's active transfer. -/
theorem active_setTask {taskId : Nat} {update : SyncTask → SyncTask}
    (same : ∀ task, SameTransfer task (update task))
    (moved : ∀ task ∈ state.tasks, task.id = taskId → SyncTask.isActive task = true →
      SyncTask.isActive (update task) = true) {backupId : Nat} {task : SyncTask}
    (stored : task ∈ state.tasks) (about : task.backupId = some backupId)
    (active : SyncTask.isActive task = true) :
    ∃ still ∈ state.tasks.modify taskId update fun task => (same task).id,
      still.backupId = some backupId ∧ SyncTask.isActive still = true :=
  Table.exists_mem_modify _ stored ⟨about, active⟩ fun named =>
    ⟨(same task).backupId.trans about, moved task stored named active⟩

/-- A transfer that was active, or was read as something else than queued, is active again. -/
theorem retriedTask_active {read task : SyncTask}
    (active : SyncTask.isActive task = true) :
    SyncTask.isActive (retriedTask read task) = true := by
  unfold SyncTask.isActive at active ⊢
  simp only [retriedTask, netWrite]
  split
  · exact active
  · rfl

/-- The active transfers of a row survive a queued one. -/
theorem Driving.enqueue (driving : Driving state) (config : TransferConfig) (backupId : Nat) :
    Driving (state.enqueue config backupId) :=
  driving.carry (fun later stored uploading => ⟨later, stored, rfl, rfl, uploading⟩)
    fun _ _ _ task stored about active =>
      ⟨task, (Table.mem_append _).mpr (.inl stored), about, active⟩

/-- A commit keeps rows driven. -/
theorem commit_driving (driving : Driving state) (coherent : Coherent state) {request : Request}
    (holds : state.request = some request) (now : Instant) :
    Driving (state.commit now request).release := by
  have known := coherent.request request holds
  cases request with
  | upload backupId config =>
    refine driving.carry (fun later stored uploading => ?_) ?_
    · have old := uploading_setUpload (state.enqueue config backupId) (by exact nofun)
        stored uploading
      exact ⟨later, old.1, rfl, rfl, uploading⟩
    · exact fun _ _ _ task stored about active =>
        ⟨task, (Table.mem_append _).mpr (.inl stored), about, active⟩
  | importArtifact artifact config =>
    refine driving.carry (fun later stored uploading => ?_) ?_
    · rcases (Table.mem_append _).mp stored with old | rfl
      · exact ⟨later, old, rfl, rfl, uploading⟩
      · cases uploading
    · exact fun _ _ _ task stored about active =>
        ⟨task, (Table.mem_append _).mpr (.inl stored), about, active⟩
  | cancel read =>
    obtain ⟨current, currentStored, version⟩ := known
    have moved : ∀ later ∈ (state.commit now (.cancel read)).release.history,
        later.uploadStatus = .uploading →
        later ∈ state.history ∧ read.backupId ≠ some later.id := fun later stored uploading =>
      uploading_setUpload (state.setTask read.id (cancelledTask now read) (cancelledTask_id _ _))
        (by exact nofun) stored uploading
    have tasks : (state.commit now (.cancel read)).release.tasks =
        state.tasks.modify read.id (cancelledTask now read) (cancelledTask_id _ _) :=
      setUpload_tasks _ _
    refine driving.carry (fun later stored uploading => ?_) ?_
    · exact ⟨later, (moved later stored uploading).1, rfl, rfl, uploading⟩
    · intro later stored uploading task taskStored about active
      rw [tasks]
      refine active_setTask_other (cancelledTask_id _ _) (fun other otherStored same => ?_)
        taskStored about active
      -- The cancelled transfer is for the row that was moved to `failed`.
      have equal := Table.eq_of_key otherStored currentStored (same.trans version.id.symm)
      rw [equal, version.backupId]
      exact (moved later stored uploading).2
  | retry read =>
    have tasks : (state.commit now (.retry read)).release.tasks =
        state.tasks.modify read.id (retriedTask read) (retriedTask_id _) := setUpload_tasks _ _
    refine driving.carry (fun later stored uploading => ?_) ?_
    · have old := uploading_setUpload (state.setTask read.id (retriedTask read) (retriedTask_id _))
        (by exact nofun) stored uploading
      exact ⟨later, old.1, rfl, rfl, uploading⟩
    · intro later stored uploading task taskStored about active
      rw [tasks]
      exact active_setTask (retriedTask_same read) (fun _ _ _ was => retriedTask_active was)
        taskStored about active

/-- One step keeps rows driven when a load finds its transfer active. -/
theorem moves_driving (driving : Driving state) (coherent : Coherent state)
    (allowed : LoadsActive state action) (moved : Moves state action after) : Driving after := by
  have unchanged : ∀ later ∈ state.history, later.uploadStatus = .uploading →
      ∃ record ∈ state.history, record.id = later.id ∧ record.filename = later.filename ∧
        record.uploadStatus = .uploading :=
    fun later stored uploading => ⟨later, stored, rfl, rfl, uploading⟩
  cases moved with
  | configure | fetch | holdUpload | holdMatched | holdImport | holdCancel | holdRetry | abort
  | crash | leave | scan | skip | pick | select | send | accept =>
    exact driving.rows unchanged rfl
  | arrive fresh unsent =>
    refine driving.rows (fun later stored uploading => ?_) rfl
    rcases (Table.mem_insert fresh).mp stored with old | rfl
    · exact unchanged later old uploading
    · rcases unsent.status with pending | exempt
      · exact absurd (pending.symm.trans uploading) nofun
      · exact absurd (exempt.symm.trans uploading) nofun
  | @verify backupId record result now object found target =>
    exact driving.rows (fun _ stored uploading => uploading_setRow (applyVerification_id result now)
      (applyVerification_settles result now) stored uploading) rfl
  | mark keeps upload =>
    exact driving.rows (fun _ stored uploading => uploading_setRow keeps upload.settles stored
      uploading) rfl
  | @remove action backupId now object =>
    exact driving.rows (fun _ stored uploading => uploading_setRow
      (markDeletedRow_id .remoteCopy now) (markDeletedRow_keepsUpload .remoteCopy now).settles
      stored uploading) rfl
  | commit holds => exact commit_driving driving coherent holds _
  | recover here =>
    refine driving.carry unchanged fun later _ _ task stored about active => ?_
    exact ⟨_, mem_requeueAll.mpr ⟨task, stored, rfl⟩,
      (afterRestart_same task).backupId.trans about, (afterRestart_active task).trans active⟩
  | @enqueuePending config fresh here =>
    have queued : Driving (fresh.foldl (fun queued backupId =>
        queued.enqueue config backupId) state) :=
      enqueueAll_keeps Driving fresh (fun _ kept backupId _ => kept.enqueue config backupId) driving
    exact ⟨queued.driven, queued.named⟩
  | @claim taskId attempt here =>
    refine driving.carry unchanged fun later _ _ task stored about active => ?_
    exact active_setTask (claimedTask_same attempt) (fun _ _ _ _ => rfl) stored about active
  | @vanish transfer now here stored gone =>
    refine driving.carry unchanged fun later kept uploading task taskStored about active => ?_
    refine active_setTask_other (vanishedTask_id _) (fun other otherStored same => ?_)
        taskStored about active
    -- The row of the failed transfer has no name, so it is not the one that is uploading.
    rw [Table.eq_of_key otherStored stored same]
    intro own
    have name := driving.named later kept uploading
    rw [gone later kept own] at name
    cases name
  | @load task record object now here stored about found named =>
    have active := allowed rfl task stored here
    refine ⟨fun later kept uploading => ?_, fun later kept uploading => ?_⟩
    · rcases (Table.mem_modify_of_mem (setUploadStatus_id _) found).mp kept with rfl | ⟨old, _⟩
      · exact ⟨task, stored, about, active⟩
      · exact driving.driven later old uploading
    · rcases (Table.mem_modify_of_mem (setUploadStatus_id _) found).mp kept with rfl | ⟨old, _⟩
      · exact named
      · exact driving.named later old uploading
  | @attach taskId agentTaskId here =>
    refine driving.carry unchanged fun later _ _ task stored about active => ?_
    exact active_setTask (attachedTask_same agentTaskId) (fun _ _ _ was => was) stored about active
  | @succeed transfer agentTaskId finishedAt verification here stored =>
    have moved : ∀ later ∈ (state.recordSuccess transfer.id finishedAt verification).history,
        later.uploadStatus = .uploading →
        later ∈ state.history ∧ transfer.backupId ≠ some later.id :=
      fun later => uploading_recordSuccess stored
    refine driving.carry (fun later kept uploading => ?_) ?_
    · exact unchanged later (moved later kept uploading).1 uploading
    · intro later kept uploading task taskStored about active
      rw [recordSuccess_tasks stored]
      refine active_setTask_other (succeededTask_id _) (fun other otherStored same => ?_)
        taskStored about active
      exact Table.eq_of_key otherStored stored same ▸ (moved later kept uploading).2
  | @fail transfer stage message now here claimed stored =>
    have moved : ∀ later ∈ (state.recordFailure transfer.id message now).history,
        later.uploadStatus = .uploading →
        later ∈ state.history ∧ transfer.backupId ≠ some later.id :=
      fun later => uploading_recordFailure stored
    refine driving.carry (fun later kept uploading => ?_) ?_
    · exact unchanged later (moved later kept uploading).1 uploading
    · intro later kept uploading task taskStored about active
      rw [recordFailure_tasks stored]
      refine active_setTask_other (Lifecycle.afterFailure_id message now)
        (fun other otherStored same => ?_) taskStored about active
      exact Table.eq_of_key otherStored stored same ▸ (moved later kept uploading).2

/-- In a run whose loads find their transfer active, every row that is uploading has a transfer that
is queued or running. -/
theorem driven_of_loadsActive (reached : system.Reachable LoadsActive state) : Driven state := by
  have preserved : system.Preserved LoadsActive Coherent Driving := by
    refine ⟨?_, ?_⟩
    · rintro _ ⟨drive, rfl⟩
      have none : ∀ record, record ∉ (Table.empty : Table BackupHistory.id) := Table.not_mem_empty
      exact ⟨fun record stored => absurd stored (none record),
        fun record stored => absurd stored (none record)⟩
    · exact fun _ _ _ coherent driving allowed stepped =>
        moves_driving driving coherent allowed (step_moves stepped)
  exact (reached.invariant (fun _ => coherent_of_reachable) preserved).driven

end Driving

/-- An upload that an operator cancels between its claim and its load, and a crash after the
load. -/
def cancelledBeforeLoad : List Action :=
  claimedUpload ++ [.cancelTask 1, .commit 30, .load 31, .crash, .recover]

/-- The load overtakes the cancellation, and the row stays uploading with nothing behind it. -/
theorem uploading_without_transfer :
    ¬ ∀ state, system.Reachable System.unguarded state → Driven state := by
  intro always
  obtain ⟨state, reached, abandoned⟩ : ∃ state, system.Reachable System.unguarded state ∧
      (!decide (Driven state)) = true :=
    System.exists_of_runFrom gdrive_initial cancelledBeforeLoad _ (by decide)
  have driven := always state reached
  simp [driven] at abandoned

/-- An upload that is loaded as it was claimed is driven by its transfer. -/
theorem uploading_with_transfer : ∃ state, system.Reachable LoadsActive state ∧
    (state.history.rows.map BackupHistory.uploadStatus = [.uploading]) ∧ Driven state := by
  obtain ⟨state, reached, uploading⟩ : ∃ state, system.Reachable LoadsActive state ∧
      decide (state.history.rows.map BackupHistory.uploadStatus = [.uploading]) = true :=
    System.exists_of_runFrom gdrive_initial (claimedUpload ++ [.load 31]) _ (by decide)
  exact ⟨state, reached, of_decide_eq_true uploading, driven_of_loadsActive reached⟩

end ProxSync.Sync
