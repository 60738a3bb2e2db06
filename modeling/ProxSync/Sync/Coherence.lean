import ProxSync.Sync.Steps
/-!
# What the transfer queue refers to

Rows and transfers are never removed, a row keeps its name and a transfer keeps its backup, its
destination and its allowance. So whatever a request or the worker has read stays there while
others write: the transfer it is about, and the named row that transfer is for.
-/
open ProxSync.Lib ProxSync.Retention ProxSync.History

namespace ProxSync.Sync

/-- A named row is stored under an id. -/
def Named (history : Table BackupHistory.id) (backupId : Nat) : Prop :=
  ∃ record ∈ history, record.id = backupId ∧ record.filename.isSome = true

/-- Two versions of one transfer. -/
structure SameTransfer (before after : SyncTask) : Prop where
  id : after.id = before.id
  backupId : after.backupId = before.backupId
  remoteName : after.remoteName = before.remoteName
  remotePath : after.remotePath = before.remotePath
  maxAttempts : after.maxAttempts = before.maxAttempts

/-- A transfer is a version of itself. -/
theorem SameTransfer.refl (task : SyncTask) : SameTransfer task task := ⟨rfl, rfl, rfl, rfl, rfl⟩

/-- A version of a version is a version. -/
theorem SameTransfer.trans {first second third : SyncTask} (before : SameTransfer first second)
    (after : SameTransfer second third) : SameTransfer first third :=
  ⟨after.id.trans before.id, after.backupId.trans before.backupId,
    after.remoteName.trans before.remoteName, after.remotePath.trans before.remotePath,
    after.maxAttempts.trans before.maxAttempts⟩

/-- A failed transfer is a version of the one before. -/
theorem afterFailure_same (message : String) (now : Instant) (task : SyncTask) :
    SameTransfer task (Lifecycle.afterFailure message now task) := by
  unfold Lifecycle.afterFailure
  dsimp only
  split <;> exact ⟨rfl, rfl, rfl, rfl, rfl⟩

/-- A transfer after a restart is a version of the one before. -/
theorem afterRestart_same (task : SyncTask) : SameTransfer task (Lifecycle.afterRestart task) := by
  unfold Lifecycle.afterRestart
  split <;> exact ⟨rfl, rfl, rfl, rfl, rfl⟩

/-- A restart keeps active transfers active. -/
theorem afterRestart_active (task : SyncTask) :
    SyncTask.isActive (Lifecycle.afterRestart task) = SyncTask.isActive task := by
  unfold Lifecycle.afterRestart
  split
  · rename_i running
    simp [SyncTask.isActive, running]
  · rfl

/-- A cancelled transfer is a version of the one before. -/
theorem cancelledTask_same (now : Instant) (read task : SyncTask) :
    SameTransfer task (cancelledTask now read task) := ⟨rfl, rfl, rfl, rfl, rfl⟩

/-- A retried transfer is a version of the one before. -/
theorem retriedTask_same (read task : SyncTask) : SameTransfer task (retriedTask read task) :=
  ⟨rfl, rfl, rfl, rfl, rfl⟩

/-- A claimed transfer is a version of the one before. -/
theorem claimedTask_same (attempt : Nat) (task : SyncTask) :
    SameTransfer task (claimedTask attempt task) := ⟨rfl, rfl, rfl, rfl, rfl⟩

/-- A transfer whose backup is gone is a version of the one before. -/
theorem vanishedTask_same (now : Instant) (task : SyncTask) :
    SameTransfer task (vanishedTask now task) := ⟨rfl, rfl, rfl, rfl, rfl⟩

/-- A transfer the agent accepted is a version of the one before. -/
theorem attachedTask_same (agentTaskId : String) (task : SyncTask) :
    SameTransfer task (attachedTask agentTaskId task) := ⟨rfl, rfl, rfl, rfl, rfl⟩

/-- A successful transfer is a version of the one before. -/
theorem succeededTask_same (finishedAt : Instant) (task : SyncTask) :
    SameTransfer task (succeededTask finishedAt task) := ⟨rfl, rfl, rfl, rfl, rfl⟩

/-- The transfers after a restart. -/
theorem mem_requeueAll {tasks : Table SyncTask.id} {task : SyncTask} :
    task ∈ Lifecycle.requeueAll tasks ↔ ∃ old ∈ tasks, Lifecycle.afterRestart old = task := by
  simp [Table.mem_iff, Lifecycle.requeueAll]

/-- Nothing stored is lost, and every name and destination stays. -/
structure Grows (before after : State) : Prop where
  named : ∀ backupId, Named before.history backupId → Named after.history backupId
  tasks : ∀ task ∈ before.tasks, ∃ later ∈ after.tasks, SameTransfer task later
  journal : before.journal <:+ after.journal

section Grows

variable {state after : State} {action : Action}

/-- A state grows into itself. -/
theorem Grows.refl (state : State) : Grows state state :=
  ⟨fun _ named => named, fun task stored => ⟨task, stored, .refl task⟩, List.suffix_rfl⟩

/-- Growing twice is growing. -/
theorem Grows.trans {first second third : State} (before : Grows first second)
    (after : Grows second third) : Grows first third where
  named backupId named := after.named backupId (before.named backupId named)
  tasks task stored := by
    obtain ⟨later, laterStored, same⟩ := before.tasks task stored
    obtain ⟨last, lastStored, sameLast⟩ := after.tasks later laterStored
    exact ⟨last, lastStored, same.trans sameLast⟩
  journal := before.journal.trans after.journal

/-- A write of a row keeps named rows named when it keeps the names. -/
theorem Named.modify {history : Table BackupHistory.id} {backupId id : Nat}
    {update : BackupHistory → BackupHistory} (named : Named history backupId)
    (keeps : ∀ record, (update record).id = record.id)
    (filename : ∀ record, (update record).filename = record.filename) :
    Named (history.modify id update keeps) backupId := by
  obtain ⟨record, stored, same, name⟩ := named
  exact Table.exists_mem_modify keeps stored ⟨same, name⟩
    fun _ => ⟨(keeps record).trans same, (filename record).symm ▸ name⟩

/-- Rewriting a row by a function that keeps its name. -/
theorem Grows.setRow (backupId : Nat) {update : BackupHistory → BackupHistory}
    (keeps : ∀ record, (update record).id = record.id)
    (filename : ∀ record, (update record).filename = record.filename) :
    Grows state (state.setRow backupId update keeps) :=
  ⟨fun _ named => named.modify keeps filename,
    fun task stored => ⟨task, stored, .refl task⟩, List.suffix_rfl⟩

/-- Rewriting a transfer by a function that keeps what it is about. -/
theorem Grows.setTask (taskId : Nat) {update : SyncTask → SyncTask}
    (keeps : ∀ task, (update task).id = task.id)
    (same : ∀ task, SameTransfer task (update task)) :
    Grows state (state.setTask taskId update keeps) :=
  ⟨fun _ named => named,
    fun task stored => Table.exists_mem_modify keeps stored (.refl task) fun _ => same task,
    List.suffix_rfl⟩

/-- Moving an upload. -/
theorem Grows.setUpload (backupId : Option Nat) (status : UploadStatus) :
    Grows state (state.setUpload backupId status) := by
  cases backupId with
  | none => exact .refl state
  | some backupId => exact .setRow backupId _ fun _ => rfl

/-- Noting an event. -/
theorem Grows.note (event : Event) : Grows state (state.note event) :=
  ⟨fun _ named => named, fun task stored => ⟨task, stored, .refl task⟩, List.suffix_cons _ _⟩

/-- Suspending the worker somewhere else. -/
theorem Grows.goto (phase : Phase) : Grows state (state.goto phase) :=
  ⟨fun _ named => named, fun task stored => ⟨task, stored, .refl task⟩, List.suffix_rfl⟩

/-- Queueing a transfer. -/
theorem Grows.enqueue (config : TransferConfig) (backupId : Nat) :
    Grows state (state.enqueue config backupId) :=
  ⟨fun _ named => named,
    fun task stored => ⟨task, (Table.mem_append _).mpr (.inl stored), .refl task⟩,
    List.suffix_cons _ _⟩

/-- What one queued transfer keeps, queueing several keeps. -/
theorem enqueueAll_keeps (inv : State → Prop) {config : TransferConfig} (fresh : List Nat)
    (kept : ∀ state, inv state → ∀ backupId ∈ fresh, inv (state.enqueue config backupId))
    {state : State} (holds : inv state) :
    inv (fresh.foldl (fun queued backupId => queued.enqueue config backupId) state) := by
  induction fresh generalizing state with
  | nil => exact holds
  | cons backupId rest ih =>
    refine ih (fun state holds other listed => kept state holds other (.tail _ listed)) ?_
    exact kept state holds backupId (.head _)

/-- A verification keeps the name of its row. -/
theorem applyVerification_filename (result : VerifyResult) (now : Instant)
    (record : BackupHistory) :
    (applyVerification result now record).filename = record.filename := by
  unfold applyVerification
  split <;> rfl

/-- A recorded success is the closed transfer, the recorded upload and an event. -/
theorem recordSuccess_grows {task : SyncTask} (stored : task ∈ state.tasks) (finishedAt : Instant)
    (verification : Option (Option String × Option Int)) :
    Grows state (state.recordSuccess task.id finishedAt verification) := by
  have closed : Grows state
      (state.setTask task.id (succeededTask finishedAt) (succeededTask_id _)) :=
    .setTask task.id _ (succeededTask_same finishedAt)
  unfold State.recordSuccess
  rw [Table.get_of_mem stored]
  dsimp only
  cases task.backupId with
  | none => exact (closed.trans (.note _)).trans (.goto _)
  | some backupId =>
    exact ((closed.trans (.setRow backupId _ (ArtifactState.recordUpload_filename _))).trans
      (.note _)).trans (.goto _)

/-- A recorded failure is the closed transfer, its moved upload and an event. -/
theorem recordFailure_grows {task : SyncTask} (stored : task ∈ state.tasks) (message : String)
    (now : Instant) : Grows state (state.recordFailure task.id message now) := by
  unfold State.recordFailure
  rw [Table.get_of_mem stored]
  exact (((Grows.setTask task.id _ (afterFailure_same message now)).trans (.setUpload _ _)).trans
    (.note _)).trans (.goto _)

/-- A commit loses nothing. -/
theorem commit_grows (state : State) (now : Instant) (request : Request) :
    Grows state (state.commit now request).release := by
  suffices committed : Grows state (state.commit now request) from committed.trans
    ⟨fun _ named => named, fun task stored => ⟨task, stored, .refl task⟩, List.suffix_rfl⟩
  unfold State.commit
  cases request with
  | upload backupId config => exact (Grows.enqueue config backupId).trans (.setUpload _ _)
  | importArtifact artifact config =>
    have appended : Grows state { state with
        history := state.history.append (importRow · artifact) fun _ => rfl } := by
      refine ⟨?_, fun task stored => ⟨task, stored, .refl task⟩, List.suffix_rfl⟩
      rintro backupId ⟨record, stored, same, name⟩
      exact ⟨record, (Table.mem_append _).mpr (.inl stored), same, name⟩
    exact appended.trans (.enqueue config _)
  | cancel read =>
    exact (Grows.setTask read.id _ (cancelledTask_same now read)).trans (.setUpload _ _)
  | retry read =>
    exact ((Grows.setTask read.id _ (retriedTask_same read)).trans (.setUpload _ _)).trans
      (.note _)

/-- A step loses nothing. -/
theorem moves_grow (moved : Moves state action after) : Grows state after := by
  have unchanged : ∀ phase request drive, Grows state
      { state with phase := phase, request := request, drive := drive } := fun _ _ _ =>
    ⟨fun _ named => named, fun task stored => ⟨task, stored, .refl task⟩, List.suffix_rfl⟩
  cases moved with
  | configure | holdUpload | holdMatched | holdImport | holdCancel | holdRetry | abort | crash |
    leave | scan | skip | pick | select | accept => exact unchanged _ _ _
  | arrive fresh unsent =>
    refine ⟨?_, fun task stored => ⟨task, stored, .refl task⟩, List.suffix_rfl⟩
    rintro backupId ⟨record, stored, same, name⟩
    exact ⟨record, (Table.mem_insert fresh).mpr (.inl stored), same, name⟩
  | verify => exact (Grows.setRow _ _ (applyVerification_filename _ _)).trans (.note _)
  | fetch => exact .note _
  | mark keeps upload => exact .setRow _ keeps upload.filename
  | remove =>
    exact (Grows.setRow _ _ (markDeletedRow_keepsUpload _ _).filename).trans (.note _)
  | commit => exact commit_grows state _ _
  | recover =>
    exact ⟨fun _ named => named,
      fun task stored => ⟨_, mem_requeueAll.mpr ⟨task, stored, rfl⟩, afterRestart_same task⟩,
      List.suffix_rfl⟩
  | enqueuePending =>
    exact (enqueueAll_keeps (Grows state) _
      (fun _ grown _ _ => grown.trans (.enqueue _ _)) (.refl state)).trans (.goto _)
  | claim => exact (Grows.setTask _ _ (claimedTask_same _)).trans (.goto _)
  | vanish => exact (Grows.setTask _ _ (vanishedTask_same _)).trans (.goto _)
  | load =>
    have marked : ∀ record, (setUploadStatus .uploading record).filename = record.filename :=
      fun _ => rfl
    exact (Grows.setRow _ _ marked).trans (.goto _)
  | send => exact (Grows.note _).trans (.goto _)
  | attach => exact (Grows.setTask _ _ (attachedTask_same _)).trans (.goto _)
  | succeed here stored => exact recordSuccess_grows stored _ _
  | fail here claimed stored => exact recordFailure_grows stored _ _

end Grows

/-! ## References -/

/-- What a request has read is still there. -/
def Request.Known (state : State) : Request → Prop
  | .upload backupId _ => Named state.history backupId
  | .importArtifact _ _ => True
  | .cancel read | .retry read => ∃ task ∈ state.tasks, SameTransfer read task

/-- What the worker is about is still there. -/
def Phase.Known (state : State) : Phase → Prop
  | .scanning _ rest fresh => ∀ backupId ∈ rest ++ fresh, Named state.history backupId
  | .holding taskId _ => ∃ task ∈ state.tasks, task.id = taskId
  | _ => True

/-- Every transfer is for a named row, and nothing that was read is gone. -/
structure Coherent (state : State) : Prop where
  owners : ∀ task ∈ state.tasks, ∃ backupId, task.backupId = some backupId ∧
    Named state.history backupId
  request : ∀ request, state.request = some request → request.Known state
  phase : state.phase.Known state

section Coherent

variable {state after : State} {action : Action}

/-- What a request has read stays there. -/
theorem Request.Known.grow {request : Request} (known : request.Known state)
    (grows : Grows state after) : request.Known after := by
  cases request with
  | upload backupId config => exact grows.named backupId known
  | importArtifact => exact trivial
  | cancel read | retry read =>
    obtain ⟨task, stored, same⟩ := known
    obtain ⟨later, laterStored, sameLater⟩ := grows.tasks task stored
    exact ⟨later, laterStored, same.trans sameLater⟩

/-- What the worker is about stays there. -/
theorem Phase.Known.grow {phase : Phase} (known : phase.Known state)
    (grows : Grows state after) : phase.Known after := by
  cases phase with
  | scanning config rest fresh =>
    exact fun backupId listed => grows.named backupId (known backupId listed)
  | holding taskId stage =>
    obtain ⟨task, stored, same⟩ := known
    obtain ⟨later, laterStored, sameLater⟩ := grows.tasks task stored
    exact ⟨later, laterStored, sameLater.id.trans same⟩
  | down | idle | claiming | ended => exact trivial

/-- Where no transfer was added, every transfer keeps its named row. -/
theorem Coherent.carry (coherent : Coherent state) (grows : Grows state after)
    (back : ∀ later ∈ after.tasks, ∃ task ∈ state.tasks, SameTransfer task later)
    (request : ∀ request, after.request = some request → request.Known state)
    (phase : after.phase.Known state) : Coherent after where
  owners later stored := by
    obtain ⟨task, taskStored, same⟩ := back later stored
    obtain ⟨backupId, about, named⟩ := coherent.owners task taskStored
    exact ⟨backupId, same.backupId.trans about, grows.named backupId named⟩
  request other holds := (request other holds).grow grows
  phase := phase.grow grows

/-- A queued transfer is for a named row. -/
theorem Coherent.enqueue (coherent : Coherent state) {config : TransferConfig} {backupId : Nat}
    (named : Named state.history backupId) : Coherent (state.enqueue config backupId) where
  owners later stored := by
    rcases (Table.mem_append _).mp stored with old | rfl
    · exact coherent.owners later old
    · exact ⟨backupId, rfl, named⟩
  request other holds := (coherent.request other holds).grow (.enqueue config backupId)
  phase := coherent.phase.grow (.enqueue config backupId)

/-- The transfers of a state with one transfer rewritten are versions of the old ones. -/
theorem setTask_back {taskId : Nat} {update : SyncTask → SyncTask}
    (same : ∀ task, SameTransfer task (update task)) {later : SyncTask}
    (stored : later ∈ (state.setTask taskId update fun task => (same task).id).tasks) :
    ∃ task ∈ state.tasks, SameTransfer task later := by
  have keeps : ∀ task, (update task).id = task.id := fun task => (same task).id
  rcases (Table.mem_modify keeps).mp stored with ⟨old, before, _, rfl⟩ | ⟨before, _⟩
  · exact ⟨old, before, same old⟩
  · exact ⟨later, before, .refl later⟩

/-- Moving an upload leaves the transfers alone. -/
@[simp] theorem setUpload_tasks (backupId : Option Nat) (status : UploadStatus) :
    (state.setUpload backupId status).tasks = state.tasks := by
  cases backupId <;> rfl

/-- Moving an upload leaves the journal alone. -/
@[simp] theorem setUpload_journal (backupId : Option Nat) (status : UploadStatus) :
    (state.setUpload backupId status).journal = state.journal := by
  cases backupId <;> rfl

/-- The transfers after a recorded success. -/
theorem recordSuccess_tasks {task : SyncTask} (stored : task ∈ state.tasks) (finishedAt : Instant)
    (verification : Option (Option String × Option Int)) :
    (state.recordSuccess task.id finishedAt verification).tasks =
      (state.setTask task.id (succeededTask finishedAt) (succeededTask_id _)).tasks := by
  unfold State.recordSuccess
  rw [Table.get_of_mem stored]
  dsimp only
  cases task.backupId <;> rfl

/-- The rows after a recorded success: the uploaded one, and the others as they were. -/
theorem mem_recordSuccess {task : SyncTask} (stored : task ∈ state.tasks) {finishedAt : Instant}
    {verification : Option (Option String × Option Int)} {later : BackupHistory}
    (kept : later ∈ (state.recordSuccess task.id finishedAt verification).history) :
    (later ∈ state.history ∧ task.backupId ≠ some later.id) ∨
      ∃ old ∈ state.history, task.backupId = some old.id ∧
        later = recordUpload (uploadResult task finishedAt verification) old := by
  unfold State.recordSuccess at kept
  rw [Table.get_of_mem stored] at kept
  dsimp only at kept
  cases about : task.backupId with
  | none =>
    rw [about] at kept
    exact .inl ⟨kept, nofun⟩
  | some backupId =>
    rw [about] at kept
    rcases (Table.mem_modify (recordUpload_id _)).mp kept with ⟨old, known, same, image⟩ | other
    · exact .inr ⟨old, known, congrArg some same.symm, image⟩
    · exact .inl ⟨other.1, fun same => other.2 (Option.some.inj same).symm⟩

/-- A recorded success frees the worker and keeps the request. -/
theorem recordSuccess_frame {task : SyncTask} (stored : task ∈ state.tasks) (finishedAt : Instant)
    (verification : Option (Option String × Option Int)) :
    (state.recordSuccess task.id finishedAt verification).phase = .idle ∧
      (state.recordSuccess task.id finishedAt verification).request = state.request ∧
      (state.recordSuccess task.id finishedAt verification).drive = state.drive ∧
      (state.recordSuccess task.id finishedAt verification).journal =
        .completed task.id :: state.journal := by
  unfold State.recordSuccess
  rw [Table.get_of_mem stored]
  dsimp only
  cases task.backupId <;> exact ⟨rfl, rfl, rfl, rfl⟩

/-- The transfers after a recorded failure. -/
theorem recordFailure_tasks {task : SyncTask} (stored : task ∈ state.tasks) (message : String)
    (now : Instant) : (state.recordFailure task.id message now).tasks =
      (state.setTask task.id (Lifecycle.afterFailure message now)
        (Lifecycle.afterFailure_id message now)).tasks := by
  unfold State.recordFailure
  rw [Table.get_of_mem stored]
  exact setUpload_tasks _ _

/-- A recorded failure frees the worker and keeps the request. -/
theorem recordFailure_frame {task : SyncTask} (stored : task ∈ state.tasks) (message : String)
    (now : Instant) : (state.recordFailure task.id message now).phase = .idle ∧
      (state.recordFailure task.id message now).request = state.request ∧
      (state.recordFailure task.id message now).drive = state.drive ∧
      (state.recordFailure task.id message now).journal =
        .completed task.id :: state.journal := by
  unfold State.recordFailure
  rw [Table.get_of_mem stored]
  dsimp only
  cases task.backupId <;> exact ⟨rfl, rfl, rfl, rfl⟩

/-- A commit keeps the worker where it is and the settings as they are. -/
theorem commit_frame (state : State) (now : Instant) (request : Request) :
    (state.commit now request).release.phase = state.phase ∧
      (state.commit now request).release.request = none ∧
      (state.commit now request).release.drive = state.drive := by
  have moved : ∀ (middle : State) backupId status,
      (middle.setUpload backupId status).phase = middle.phase ∧
        (middle.setUpload backupId status).drive = middle.drive := by
    intro middle backupId status
    cases backupId <;> exact ⟨rfl, rfl⟩
  cases request with
  | upload => exact ⟨rfl, rfl, rfl⟩
  | importArtifact => exact ⟨rfl, rfl, rfl⟩
  | cancel read | retry read => exact ⟨(moved _ _ _).1, rfl, (moved _ _ _).2⟩

/-- The backups a scan starts from are named. -/
theorem awaitingUpload_named {history : Table BackupHistory.id} {backupId : Nat}
    (listed : backupId ∈ awaitingUpload history) : Named history backupId := by
  obtain ⟨record, taken, rfl⟩ := List.mem_map.mp listed
  have kept := List.mem_filter.mp (List.mem_of_mem_take taken)
  simp only [awaitsUpload, Bool.and_eq_true] at kept
  exact ⟨record, kept.1, rfl, kept.2.1.2⟩

/-- One step keeps the references. -/
theorem moves_coherent (coherent : Coherent state) (moved : Moves state action after) :
    Coherent after := by
  have grows := moves_grow moved
  have unchanged : ∀ later ∈ state.tasks, ∃ task ∈ state.tasks, SameTransfer task later :=
    fun later stored => ⟨later, stored, .refl later⟩
  have phase := coherent.phase
  cases moved with
  | configure | arrive | verify | fetch | mark | remove =>
    exact coherent.carry grows unchanged coherent.request phase
  | holdUpload free stored named =>
    refine coherent.carry grows unchanged (fun request holds => ?_) phase
    exact Option.some.inj holds ▸ ⟨_, stored, rfl, named⟩
  | holdMatched free found stored named =>
    refine coherent.carry grows unchanged (fun request holds => ?_) phase
    exact Option.some.inj holds ▸ ⟨_, stored, rfl, named⟩
  | holdImport =>
    refine coherent.carry grows unchanged (fun request holds => ?_) phase
    exact Option.some.inj holds ▸ trivial
  | holdCancel free stored | holdRetry free stored =>
    refine coherent.carry grows unchanged (fun request holds => ?_) phase
    exact Option.some.inj holds ▸ ⟨_, stored, .refl _⟩
  | abort => exact coherent.carry grows unchanged (fun _ holds => nomatch holds) phase
  | @commit request now holds =>
    have known := coherent.request request holds
    have released : ∀ middle : State, Coherent middle → Coherent middle.release :=
      fun middle kept => ⟨kept.owners, (fun _ holds => nomatch holds), kept.phase⟩
    cases request with
    | upload backupId config =>
      have queued : Coherent (state.enqueue config backupId) := coherent.enqueue known
      refine queued.carry ((Grows.setUpload (some backupId) .pending).trans ?_)
        (fun later stored => ⟨later, stored, .refl later⟩) (fun _ holds => nomatch holds)
        queued.phase
      exact ⟨fun _ named => named, fun task stored => ⟨task, stored, .refl task⟩, List.suffix_rfl⟩
    | importArtifact artifact config =>
      have appended : Coherent { state with
          history := state.history.append (importRow · artifact) fun _ => rfl } := by
        refine coherent.carry ⟨?_, fun task stored => ⟨task, stored, .refl task⟩,
          List.suffix_rfl⟩ unchanged coherent.request phase
        rintro backupId ⟨record, stored, same, name⟩
        exact ⟨record, (Table.mem_append _).mpr (.inl stored), same, name⟩
      refine released _ (appended.enqueue ?_)
      exact ⟨_, (Table.mem_append _).mpr (.inr rfl), rfl, rfl⟩
    | cancel read =>
      have frame := commit_frame state now (.cancel read)
      refine coherent.carry grows (fun later stored => ?_) (fun _ holds => nomatch holds)
        (frame.1 ▸ phase)
      exact setTask_back (cancelledTask_same now read) (setUpload_tasks _ _ ▸ stored)
    | retry read =>
      have frame := commit_frame state now (.retry read)
      refine coherent.carry grows (fun later stored => ?_) (fun _ holds => nomatch holds)
        (frame.1 ▸ phase)
      exact setTask_back (retriedTask_same read) (setUpload_tasks _ _ ▸ stored)
  | crash => exact coherent.carry grows unchanged (fun _ holds => nomatch holds) trivial
  | recover =>
    refine coherent.carry grows (fun later stored => ?_) coherent.request trivial
    obtain ⟨old, before, rfl⟩ := mem_requeueAll.mp stored
    exact ⟨old, before, afterRestart_same old⟩
  | leave free =>
    refine coherent.carry grows unchanged coherent.request ?_
    rcases free with rfl | rfl | rfl <;> exact trivial
  | scan =>
    refine coherent.carry grows unchanged coherent.request fun backupId listed => ?_
    exact awaitingUpload_named (by simpa using listed)
  | skip here =>
    rw [here] at phase
    refine coherent.carry grows unchanged coherent.request fun backupId listed => ?_
    exact phase backupId (by simp only [List.mem_append, List.mem_cons] at listed ⊢; tauto)
  | pick here unclaimed =>
    rw [here] at phase
    refine coherent.carry grows unchanged coherent.request fun backupId listed => ?_
    refine phase backupId ?_
    simp only [List.mem_append, List.mem_cons, List.not_mem_nil, or_false] at listed ⊢
    tauto
  | @enqueuePending config fresh here =>
    rw [here] at phase
    have queued : Grows state (fresh.foldl (fun queued backupId =>
        queued.enqueue config backupId) state) ∧ Coherent (fresh.foldl (fun queued backupId =>
        queued.enqueue config backupId) state) := by
      refine enqueueAll_keeps (fun middle => Grows state middle ∧ Coherent middle) fresh
        (fun middle kept backupId listed => ⟨kept.1.trans (.enqueue _ _), kept.2.enqueue ?_⟩)
        ⟨.refl state, coherent⟩
      exact kept.1.named backupId (phase backupId (by simpa using listed))
    exact ⟨queued.2.owners, queued.2.request, trivial⟩
  | select here stored =>
    exact coherent.carry grows unchanged coherent.request ⟨_, stored, rfl⟩
  | claim here =>
    rw [here] at phase
    exact coherent.carry grows (fun later stored => setTask_back (claimedTask_same _) stored)
      coherent.request phase
  | vanish =>
    exact coherent.carry grows (fun later stored => setTask_back (vanishedTask_same _) stored)
      coherent.request trivial
  | load here stored => exact coherent.carry grows unchanged coherent.request ⟨_, stored, rfl⟩
  | send here | accept here =>
    rw [here] at phase
    exact coherent.carry grows unchanged coherent.request phase
  | attach here =>
    rw [here] at phase
    exact coherent.carry grows (fun later stored => setTask_back (attachedTask_same _) stored)
      coherent.request phase
  | @succeed task agentTaskId finishedAt verification here stored =>
    obtain ⟨idle, request, _⟩ := recordSuccess_frame stored finishedAt verification
    refine coherent.carry grows (fun later kept => ?_) (request ▸ coherent.request)
      (idle ▸ trivial)
    exact setTask_back (succeededTask_same finishedAt)
      (recordSuccess_tasks stored finishedAt verification ▸ kept)
  | @fail task stage message now here claimed stored =>
    obtain ⟨idle, request, _⟩ := recordFailure_frame stored message now
    refine coherent.carry grows (fun later kept => ?_) (request ▸ coherent.request)
      (idle ▸ trivial)
    exact setTask_back (afterFailure_same message now)
      (recordFailure_tasks stored message now ▸ kept)

/-- The references hold in every reachable state. -/
theorem coherent_of_reachable {allow : State → Action → Prop}
    (reached : system.Reachable allow state) : Coherent state := by
  refine reached.invariant_alone ⟨?_, ?_⟩
  · rintro _ ⟨drive, rfl⟩
    exact ⟨fun task stored => absurd stored (Table.not_mem_empty task),
      (fun _ holds => nomatch holds), trivial⟩
  · exact fun _ _ _ _ coherent _ stepped => moves_coherent coherent (step_moves stepped)

end Coherent

end ProxSync.Sync
