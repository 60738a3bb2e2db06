import ProxSync.Sync.Coherence
/-!
# Where an uploaded object is

A transfer carries the remote and the folder that were configured when it was queued, and its
success stores them in the row. Retention removes what the stored path names, but verification and
download go by the settings of the day, and a verification promotes a row whatever path it has. The
three agree in runs in which the settings, the finished transfers and the confirmed rows name one
place.
-/
open ProxSync.Lib ProxSync.Retention ProxSync.History

namespace ProxSync.Sync

/-- The remote path of a row that is uploaded to a destination. -/
def location (remoteName folder : String) : String := remoteName ++ ":" ++ folder

/-- Every way to the remote object of an uploaded row leads to the one its stored path names. -/
def Located (state : State) : Prop :=
  ∀ record ∈ state.history, record.uploadStatus = .uploaded → record.remotePath.isSome = true ∧
    ∃ object, removalTarget record = some object ∧
      (∀ other ∈ verifyTarget state.drive record, other = object) ∧
      ∀ other ∈ downloadTarget state.drive record, other = object

/-- A remote name the validator admits. -/
def ProperName (remoteName : String) : Prop := remoteName ≠ "" ∧ ':' ∉ remoteName.toList

/-- The Drive settings an action saves. -/
def Action.settings : Action → Option DriveSettings
  | .configure drive => some drive
  | _ => none

/-- The backup whose remote copy an action confirms. -/
def Action.confirms : Action → Option Nat
  | .verifyBackup backupId result _ => if result.verified then some backupId else none
  | _ => none

/-- Whether an action records a finished transfer. -/
def Action.isSuccess : Action → Bool
  | .recordSuccess _ _ => true
  | _ => false

/-- While the Drive is enabled, what is uploaded, what is confirmed and what is configured are in
one place. -/
structure KeepsLocation (state : State) (action : Action) : Prop where
  configure : ∀ drive ∈ action.settings, drive.enabled = true → ∀ record ∈ state.history,
    record.uploadStatus = .uploaded →
    record.remotePath = some (location drive.remoteName drive.folder)
  confirm : ∀ backupId ∈ action.confirms, ∀ record ∈ state.history, record.id = backupId →
    record.remotePath = some (location state.drive.remoteName state.drive.folder)
  success : action.isSuccess = true → state.drive.enabled = true → ∀ task ∈ state.tasks,
    state.phase.held = some task.id → task.remoteName = some state.drive.remoteName ∧
      task.remotePath = some state.drive.folder

instance (state : State) (action : Action) : Decidable (KeepsLocation state action) :=
  decidable_of_iff
    ((∀ drive ∈ action.settings, drive.enabled = true → ∀ record ∈ state.history,
      record.uploadStatus = .uploaded →
      record.remotePath = some (location drive.remoteName drive.folder)) ∧
    (∀ backupId ∈ action.confirms, ∀ record ∈ state.history, record.id = backupId →
      record.remotePath = some (location state.drive.remoteName state.drive.folder)) ∧
    (action.isSuccess = true → state.drive.enabled = true → ∀ task ∈ state.tasks,
      state.phase.held = some task.id → task.remoteName = some state.drive.remoteName ∧
        task.remotePath = some state.drive.folder))
    ⟨fun all => ⟨all.1, all.2.1, all.2.2⟩, fun keeps => ⟨keeps.configure, keeps.confirm,
      keeps.success⟩⟩

/-- A transfer that carries a destination. -/
def Destined (task : SyncTask) : Prop :=
  ∃ remoteName folder, ProperName remoteName ∧ task.remoteName = some remoteName ∧
    task.remotePath = some folder

/-- A row that is uploaded to a destination. -/
def Placed (record : BackupHistory) : Prop :=
  record.filename.isSome = true ∧ ∃ remoteName folder, ProperName remoteName ∧
    record.remotePath = some (location remoteName folder)

/-- The destination a request is about to queue a transfer for. -/
def Request.config : Request → Option TransferConfig
  | .upload _ config | .importArtifact _ config => some config
  | .cancel _ | .retry _ => none

/-- The destination the worker is about to queue transfers for. -/
def Phase.config : Phase → Option TransferConfig
  | .scanning config _ _ => some config
  | _ => none

/-- What every reachable state satisfies while the locations are kept. -/
structure Traced (state : State) : Prop where
  placed : ∀ record ∈ state.history, record.uploadStatus = .uploaded → Placed record
  current : state.drive.enabled = true → ∀ record ∈ state.history,
    record.uploadStatus = .uploaded →
    record.remotePath = some (location state.drive.remoteName state.drive.folder)
  destined : ∀ task ∈ state.tasks, Destined task
  request : ∀ request ∈ state.request, ∀ config ∈ request.config, ProperName config.remoteName
  phase : ∀ config ∈ state.phase.config, ProperName config.remoteName

/-- The path of a proper destination is read back as it was written. -/
theorem remoteTarget_location {record : BackupHistory} {remoteName folder : String}
    (proper : ProperName remoteName)
    (path : record.remotePath = some (location remoteName folder)) :
    remoteTarget record = some (remoteName, folder) := by
  have plain : ∀ c ∈ remoteName.toList, (c != ':') = true := by
    intro c listed
    simpa using fun same : c = ':' => proper.2 (same ▸ listed)
  have letters : (location remoteName folder).toList =
      remoteName.toList ++ ':' :: folder.toList := by simp [location]
  have parts : (location remoteName folder).toList.span (· != ':') =
      (remoteName.toList, ':' :: folder.toList) := by
    rw [letters, List.span_eq_takeWhile_dropWhile, List.takeWhile_append_of_pos plain,
      List.dropWhile_append_of_pos plain]
    simp
  have filled : remoteName.toList ≠ [] := by simpa using proper.1
  rw [remoteTarget, path]
  dsimp only
  rw [parts]
  cases name : remoteName.toList with
  | nil => exact absurd name filled
  | cons c rest =>
    dsimp only
    rw [← name, String.ofList_toList, String.ofList_toList]

section Traced

variable {state after : State} {action : Action}

/-- Traced rows are located. -/
theorem Traced.located (traced : Traced state) : Located state := by
  intro record stored uploaded
  obtain ⟨named, remoteName, folder, proper, path⟩ := traced.placed record stored uploaded
  obtain ⟨filename, name⟩ := Option.isSome_iff_exists.mp named
  have target := remoteTarget_location proper path
  have same : state.drive.enabled = true →
      state.drive.remoteName = remoteName ∧ state.drive.folder = folder := by
    intro enabled
    have now := remoteTarget_location state.drive.named
      (traced.current enabled record stored uploaded)
    rw [target, Option.some.injEq, Prod.mk.injEq] at now
    exact ⟨now.1.symm, now.2.symm⟩
  refine ⟨by simp [path], ⟨remoteName, folder, filename⟩, by simp [removalTarget, target, name],
    fun other looked => ?_, fun other fetched => ?_⟩
  · simp only [verifyTarget, Option.mem_def, Option.ite_none_right_eq_some, name, Option.map_some,
      Option.some.injEq] at looked
    rw [← looked.2, (same looked.1).1, (same looked.1).2]
  · simp only [downloadTarget, Option.mem_def, Option.ite_none_right_eq_some, name,
      Option.map_some, Option.some.injEq] at fetched
    rw [← fetched.2, (same fetched.1).1, (same fetched.1).2]

/-- The rows that are uploaded after a step were uploaded to the same object before. -/
def RowsBack (state after : State) : Prop :=
  ∀ later ∈ after.history, later.uploadStatus = .uploaded → ∃ record ∈ state.history,
    record.uploadStatus = .uploaded ∧ record.remotePath = later.remotePath ∧
    record.filename = later.filename

/-- Rows that are not touched are as they were. -/
theorem rowsBack_of_eq (history : after.history = state.history) : RowsBack state after :=
  fun later stored uploaded => ⟨later, history ▸ stored, uploaded, rfl, rfl⟩

/-- A write that leaves uploads alone uploads nothing. -/
theorem KeepsUpload.rowsBack {backupId : Nat} {update : BackupHistory → BackupHistory}
    (upload : KeepsUpload update) (keeps : ∀ record, (update record).id = record.id)
    (history : after.history = state.history.modify backupId update keeps) :
    RowsBack state after := by
  intro later stored uploaded
  rw [history] at stored
  rcases (Table.mem_modify keeps).mp stored with ⟨old, before, _, rfl⟩ | ⟨before, _⟩
  · exact ⟨old, before, (upload.status old).symm.trans uploaded, (upload.remotePath old).symm,
      (upload.filename old).symm⟩
  · exact ⟨later, before, uploaded, rfl, rfl⟩

/-- Moving an upload elsewhere uploads nothing. -/
theorem rowsBack_setUpload (state : State) (backupId : Option Nat) {status : UploadStatus}
    (elsewhere : status ≠ .uploaded) : RowsBack state (state.setUpload backupId status) := by
  cases backupId with
  | none => exact rowsBack_of_eq rfl
  | some backupId =>
    intro later stored uploaded
    rcases (Table.mem_modify (setUploadStatus_id _)).mp stored with ⟨old, _, _, rfl⟩ | ⟨before, _⟩
    · exact absurd uploaded elsewhere
    · exact ⟨later, before, uploaded, rfl, rfl⟩

/-- A recorded failure uploads nothing. -/
theorem rowsBack_recordFailure {task : SyncTask} (stored : task ∈ state.tasks) (message : String)
    (now : Instant) : RowsBack state (state.recordFailure task.id message now) := by
  unfold State.recordFailure
  rw [Table.get_of_mem stored]
  dsimp only
  have elsewhere : (if exhausted task then UploadStatus.failed else .pending) ≠ .uploaded := by
    split <;> exact nofun
  exact rowsBack_setUpload _ task.backupId elsewhere

/-- Rows stay traced where nothing is uploaded, queued or configured. -/
theorem Traced.carry (traced : Traced state) (drive : after.drive = state.drive)
    (rows : RowsBack state after)
    (tasks : ∀ later ∈ after.tasks, ∃ task ∈ state.tasks, SameTransfer task later)
    (request : ∀ request ∈ after.request, request ∈ state.request)
    (phase : ∀ config ∈ after.phase.config, config ∈ state.phase.config) : Traced after where
  placed later stored uploaded := by
    obtain ⟨record, before, was, path, name⟩ := rows later stored uploaded
    rw [Placed, ← path, ← name]
    exact traced.placed record before was
  current enabled later stored uploaded := by
    obtain ⟨record, before, was, path, _⟩ := rows later stored uploaded
    rw [drive] at enabled ⊢
    exact path.symm.trans (traced.current enabled record before was)
  destined later stored := by
    obtain ⟨task, before, same⟩ := tasks later stored
    obtain ⟨remoteName, folder, proper, remote, path⟩ := traced.destined task before
    exact ⟨remoteName, folder, proper, same.remoteName.trans remote, same.remotePath.trans path⟩
  request held holds := traced.request held (request held holds)
  phase config listed := traced.phase config (phase config listed)

/-- A transfer that is queued with a proper destination carries it. -/
theorem Traced.enqueue (traced : Traced state) {config : TransferConfig} (backupId : Nat)
    (proper : ProperName config.remoteName) : Traced (state.enqueue config backupId) where
  placed := traced.placed
  current := traced.current
  destined task stored := by
    rcases (Table.mem_append _).mp stored with old | rfl
    · exact traced.destined task old
    · exact ⟨config.remoteName, config.folder, proper, rfl, rfl⟩
  request := traced.request
  phase := traced.phase

/-- A request with a proper destination keeps rows traced. -/
theorem Traced.hold (traced : Traced state) {request : Request}
    (proper : ∀ config ∈ request.config, ProperName config.remoteName) :
    Traced (state.hold request) where
  placed := traced.placed
  current := traced.current
  destined := traced.destined
  request held holds := by
    have same : request = held := Option.some.inj holds
    exact same ▸ proper
  phase := traced.phase

/-- A commit keeps rows traced. -/
theorem commit_traced (traced : Traced state) {request : Request}
    (holds : state.request = some request) (now : Instant) :
    Traced (state.commit now request).release := by
  have proper := traced.request request holds
  have unchanged : ∀ later ∈ state.tasks, ∃ task ∈ state.tasks, SameTransfer task later :=
    fun later stored => ⟨later, stored, .refl later⟩
  cases request with
  | upload backupId config =>
    have queued := traced.enqueue backupId (proper config rfl)
    exact queued.carry rfl (rowsBack_setUpload _ (some backupId) nofun)
      (fun later stored => ⟨later, stored, .refl later⟩) (fun _ holds => nomatch holds)
      fun _ listed => listed
  | importArtifact artifact config =>
    have imported : Traced { state with
        history := state.history.append (importRow · artifact) fun _ => rfl } := by
      refine traced.carry rfl (fun later stored uploaded => ?_) unchanged (fun _ held => held)
        fun _ listed => listed
      rcases (Table.mem_append _).mp stored with old | rfl
      · exact ⟨later, old, uploaded, rfl, rfl⟩
      · cases uploaded
    have queued := imported.enqueue state.history.nextKey (proper config rfl)
    exact queued.carry rfl (rowsBack_of_eq rfl)
      (fun later stored => ⟨later, stored, .refl later⟩) (fun _ holds => nomatch holds)
      fun _ listed => listed
  | cancel read =>
    obtain ⟨phase, _, drive⟩ := commit_frame state now (.cancel read)
    refine traced.carry drive ?_ (fun later stored => ?_) (fun _ holds => nomatch holds)
      fun config listed => phase ▸ listed
    · exact rowsBack_setUpload _ read.backupId nofun
    · exact setTask_back (cancelledTask_same now read) (setUpload_tasks _ _ ▸ stored)
  | retry read =>
    obtain ⟨phase, _, drive⟩ := commit_frame state now (.retry read)
    refine traced.carry drive ?_ (fun later stored => ?_) (fun _ holds => nomatch holds)
      fun config listed => phase ▸ listed
    · exact rowsBack_setUpload _ read.backupId nofun
    · exact setTask_back (retriedTask_same read) (setUpload_tasks _ _ ▸ stored)

/-- Only a verification that succeeds promotes a row, and it leaves the path as it is. -/
theorem applyVerification_uploaded {result : VerifyResult} {now : Instant} {record : BackupHistory}
    (uploaded : (applyVerification result now record).uploadStatus = .uploaded) :
    result.verified = true ∧ (applyVerification result now record).remotePath = record.remotePath ∧
      (applyVerification result now record).filename = record.filename := by
  unfold applyVerification at uploaded ⊢
  split
  · rename_i verified
    exact ⟨verified, rfl, rfl⟩
  · rename_i refuted
    rw [if_neg refuted] at uploaded
    dsimp only at uploaded
    split at uploaded
    · cases uploaded
    · rename_i other
      exact absurd uploaded other

/-- A verification keeps rows traced when the rows it confirms are where it looked. -/
theorem verify_traced (traced : Traced state) {backupId : Nat} {record : BackupHistory}
    {result : VerifyResult} {now : Instant} {object : RemoteObject}
    (allowed : KeepsLocation state (.verifyBackup backupId result now))
    (found : state.history.get backupId = some record)
    (target : verifyTarget state.drive record = some object) :
    Traced ((state.setRow backupId (applyVerification result now)
      (applyVerification_id result now)).address .verification backupId object) := by
  obtain ⟨stored, rfl⟩ := Table.get_eq_some.mp found
  have named : record.filename.isSome = true := by
    unfold verifyTarget at target
    cases name : record.filename <;> simp [name] at target ⊢
  have rows : ∀ later ∈ state.history.modify record.id (applyVerification result now)
      (applyVerification_id result now), later.uploadStatus = .uploaded →
      (later ∈ state.history) ∨ (later.filename.isSome = true ∧
        later.remotePath = some (location state.drive.remoteName state.drive.folder)) := by
    intro later kept uploaded
    rcases (Table.mem_modify_of_mem _ stored).mp kept with rfl | ⟨old, _⟩
    · obtain ⟨verified, path, name⟩ := applyVerification_uploaded uploaded
      refine .inr ⟨name ▸ named, path.trans ?_⟩
      exact allowed.confirm record.id (by simp [Action.confirms, verified]) record stored rfl
    · exact .inl old
  refine ⟨fun later kept uploaded => ?_, fun enabled later kept uploaded => ?_, traced.destined,
    traced.request, traced.phase⟩
  · rcases rows later kept uploaded with old | ⟨name, path⟩
    · exact traced.placed later old uploaded
    · exact ⟨name, _, _, state.drive.named, path⟩
  · rcases rows later kept uploaded with old | ⟨_, path⟩
    · exact traced.current enabled later old uploaded
    · exact path

/-- A recorded upload stores the destination of its transfer. -/
theorem recordUpload_remotePath (result : UploadResult) (record : BackupHistory) :
    (recordUpload result record).remotePath =
      some (result.remoteName.getD "None" ++ ":" ++ result.remotePath.getD "None") := by
  unfold recordUpload
  cases result.verification <;> rfl

/-- A finished transfer keeps rows traced when it went where the settings point. -/
theorem succeed_traced (traced : Traced state) (coherent : Coherent state) {task : SyncTask}
    {finishedAt : Instant} {verification : Option (Option String × Option Int)}
    (allowed : KeepsLocation state (.recordSuccess finishedAt verification))
    (held : state.phase.held = some task.id) (stored : task ∈ state.tasks) :
    Traced (state.recordSuccess task.id finishedAt verification) := by
  obtain ⟨idle, request, drive, _⟩ := recordSuccess_frame stored finishedAt verification
  obtain ⟨remoteName, folder, proper, remote, path⟩ := traced.destined task stored
  have rows : ∀ later ∈ (state.recordSuccess task.id finishedAt verification).history,
      later ∈ state.history ∨ (later.filename.isSome = true ∧
        later.remotePath = some (location remoteName folder)) := by
    intro later kept
    rcases mem_recordSuccess stored kept with ⟨old, _⟩ | ⟨old, known, about, rfl⟩
    · exact .inl old
    · obtain ⟨backupId, owner, record, recorded, named, name⟩ := coherent.owners task stored
      have same : record = old := Table.eq_of_key recorded known
        (named.trans (Option.some.inj (owner.symm.trans about)))
      refine .inr ⟨?_, ?_⟩
      · rw [ArtifactState.recordUpload_filename, ← same]
        exact name
      · rw [recordUpload_remotePath]
        simp [uploadResult, remote, path, location]
  refine ⟨fun later kept uploaded => ?_, fun enabled later kept uploaded => ?_,
    fun later kept => ?_, request ▸ traced.request, idle ▸ fun _ carries => nomatch carries⟩
  · rcases rows later kept with old | ⟨name, here⟩
    · exact traced.placed later old uploaded
    · exact ⟨name, remoteName, folder, proper, here⟩
  · rw [drive] at enabled ⊢
    rcases rows later kept with old | ⟨_, here⟩
    · exact traced.current enabled later old uploaded
    · obtain ⟨now, where_⟩ := allowed.success rfl enabled task stored held
      have sameName : remoteName = state.drive.remoteName := Option.some.inj (remote.symm.trans now)
      have sameFolder : folder = state.drive.folder := Option.some.inj (path.symm.trans where_)
      rw [here, sameName, sameFolder]
  · obtain ⟨before, beforeStored, same⟩ := setTask_back (succeededTask_same finishedAt)
      (recordSuccess_tasks stored finishedAt verification ▸ kept)
    obtain ⟨name, path_, admitted, carried, carriedPath⟩ := traced.destined before beforeStored
    exact ⟨name, path_, admitted, same.remoteName.trans carried, same.remotePath.trans carriedPath⟩

/-- One step keeps rows traced when the locations are kept. -/
theorem moves_traced (traced : Traced state) (coherent : Coherent state)
    (allowed : KeepsLocation state action) (moved : Moves state action after) : Traced after := by
  have unchanged : ∀ later ∈ state.tasks, ∃ task ∈ state.tasks, SameTransfer task later :=
    fun later stored => ⟨later, stored, .refl later⟩
  have rows : ∀ other : State, other.history = state.history → RowsBack state other :=
    fun other same => rowsBack_of_eq same
  cases moved with
  | @configure drive =>
    exact ⟨traced.placed, allowed.configure drive rfl, traced.destined, traced.request,
      traced.phase⟩
  | @arrive record fresh unsent =>
    refine traced.carry rfl (fun later stored uploaded => ?_) unchanged (fun _ held => held)
      fun _ listed => listed
    rcases (Table.mem_insert fresh).mp stored with old | rfl
    · exact ⟨later, old, uploaded, rfl, rfl⟩
    · rcases unsent.status with pending | exempt
      · exact absurd (pending.symm.trans uploaded) nofun
      · exact absurd (exempt.symm.trans uploaded) nofun
  | verify found target => exact verify_traced traced allowed found target
  | fetch =>
    exact traced.carry rfl (rowsBack_of_eq rfl) unchanged (fun _ held => held)
      fun _ listed => listed
  | mark keeps upload =>
    exact traced.carry rfl (upload.rowsBack keeps rfl) unchanged (fun _ held => held)
      fun _ listed => listed
  | @remove action backupId now object =>
    exact traced.carry rfl ((markDeletedRow_keepsUpload .remoteCopy now).rowsBack
      (markDeletedRow_id .remoteCopy now) rfl) unchanged (fun _ held => held) fun _ listed => listed
  | holdUpload | holdMatched | holdImport =>
    exact traced.hold fun config carries => Option.some.inj carries ▸ state.drive.named
  | holdCancel | holdRetry => exact traced.hold fun _ carries => nomatch carries
  | abort =>
    exact traced.carry rfl (rowsBack_of_eq rfl) unchanged (fun _ holds => nomatch holds)
      fun _ listed => listed
  | commit holds => exact commit_traced traced holds _
  | crash =>
    exact traced.carry rfl (rowsBack_of_eq rfl) unchanged (fun _ holds => nomatch holds)
      fun _ carries => nomatch carries
  | recover =>
    refine traced.carry rfl (rowsBack_of_eq rfl) (fun later stored => ?_) (fun _ held => held)
      fun _ carries => nomatch carries
    obtain ⟨old, before, rfl⟩ := mem_requeueAll.mp stored
    exact ⟨old, before, afterRestart_same old⟩
  | leave free =>
    refine traced.carry rfl (rowsBack_of_eq rfl) unchanged (fun _ held => held) ?_
    rcases free with rfl | rfl | rfl <;> exact fun _ carries => nomatch carries
  | scan =>
    exact ⟨traced.placed, traced.current, traced.destined, traced.request,
      fun config carries => Option.some.inj carries ▸ state.drive.named⟩
  | skip here | pick here =>
    refine traced.carry rfl (rowsBack_of_eq rfl) unchanged (fun _ held => held) ?_
    rw [here]
    exact fun _ listed => listed
  | @enqueuePending config fresh here =>
    have proper : ProperName config.remoteName := traced.phase config (here ▸ rfl)
    have queued : Traced (fresh.foldl (fun queued backupId =>
        queued.enqueue config backupId) state) :=
      enqueueAll_keeps Traced fresh (fun _ kept backupId _ => kept.enqueue backupId proper) traced
    exact queued.carry rfl (rowsBack_of_eq rfl) (fun later stored => ⟨later, stored, .refl later⟩)
      (fun _ held => held) fun _ carries => nomatch carries
  | select | send | accept =>
    exact traced.carry rfl (rowsBack_of_eq rfl) unchanged (fun _ held => held)
      fun _ carries => nomatch carries
  | @load task record object now here stored about found =>
    exact traced.carry rfl (rowsBack_setUpload state (some record.id) nofun) unchanged
      (fun _ held => held) fun _ carries => nomatch carries
  | @claim written attempt =>
    exact traced.carry rfl (rowsBack_of_eq rfl)
      (fun later stored => setTask_back (claimedTask_same attempt) stored) (fun _ held => held)
      fun _ carries => nomatch carries
  | @vanish transfer now =>
    exact traced.carry rfl (rowsBack_of_eq rfl)
      (fun later stored => setTask_back (vanishedTask_same now) stored) (fun _ held => held)
      fun _ carries => nomatch carries
  | @attach written agentTaskId =>
    exact traced.carry rfl (rowsBack_of_eq rfl)
      (fun later stored => setTask_back (attachedTask_same agentTaskId) stored)
      (fun _ held => held) fun _ carries => nomatch carries
  | @succeed task agentTaskId finishedAt verification here stored =>
    exact succeed_traced traced coherent allowed (here ▸ rfl) stored
  | @fail task stage message now here claimed stored =>
    obtain ⟨idle, request, drive, _⟩ := recordFailure_frame stored message now
    refine traced.carry drive (rowsBack_recordFailure stored message now) (fun later kept => ?_)
      (fun _ held => request ▸ held) (idle ▸ fun _ carries => nomatch carries)
    exact setTask_back (afterFailure_same message now)
      (recordFailure_tasks stored message now ▸ kept)

/-- In a run that keeps the locations, every way to an uploaded object leads to the one its row
names. -/
theorem located_of_kept (reached : system.Reachable KeepsLocation state) : Located state := by
  have preserved : system.Preserved KeepsLocation Coherent Traced := by
    refine ⟨?_, ?_⟩
    · rintro _ ⟨drive, rfl⟩
      have none : ∀ record, record ∉ (Table.empty : Table BackupHistory.id) := Table.not_mem_empty
      exact ⟨fun record stored => absurd stored (none record),
        fun _ record stored => absurd stored (none record),
        fun task stored => absurd stored (Table.not_mem_empty task),
        (fun _ holds => nomatch holds), (fun _ carries => nomatch carries)⟩
    · exact fun _ _ _ coherent traced allowed stepped =>
        moves_traced traced coherent allowed (step_moves stepped)
  exact (reached.invariant (fun _ => coherent_of_reachable) preserved).located

end Traced

/-- A finished upload to the configured folder. -/
def finishedUpload : List Action :=
  claimedUpload ++ [.load 31, .send, .accept "task-2", .attach, .recordSuccess 40 none]

/-- A verification or a download looks where the settings point after they changed, and not where
the object was uploaded to. -/
theorem moved_folder_misses : ¬ ∀ state, system.Reachable System.unguarded state →
    Located state := by
  intro always
  obtain ⟨state, reached, missed⟩ : ∃ state, system.Reachable System.unguarded state ∧
      decide (∃ record ∈ state.history, record.uploadStatus = .uploaded ∧
        removalTarget record = some ⟨"gdrive", "proxsync/dump", "vzdump-qemu-101.vma.zst"⟩ ∧
        verifyTarget state.drive record =
          some ⟨"gdrive", "archive", "vzdump-qemu-101.vma.zst"⟩) = true :=
    System.exists_of_runFrom gdrive_initial
      (finishedUpload ++ [.configure { gdrive with folder := "archive" }]) _ (by decide)
  obtain ⟨record, stored, uploaded, removed, verified⟩ := of_decide_eq_true missed
  obtain ⟨_, object, target, agrees, _⟩ := always state reached record stored uploaded
  have same := agrees _ verified
  rw [removed, Option.some.injEq] at target
  exact absurd (target.trans same.symm) (by decide)

/-- An upload under settings that stay is located. -/
theorem kept_folder_located : ∃ state, system.Reachable KeepsLocation state ∧
    state.history.rows.map BackupHistory.uploadStatus = [.uploaded] ∧ Located state := by
  obtain ⟨state, reached, uploaded⟩ : ∃ state, system.Reachable KeepsLocation state ∧
      decide (state.history.rows.map BackupHistory.uploadStatus = [.uploaded]) = true :=
    System.exists_of_runFrom gdrive_initial finishedUpload _ (by decide)
  exact ⟨state, reached, of_decide_eq_true uploaded, located_of_kept reached⟩

end ProxSync.Sync
