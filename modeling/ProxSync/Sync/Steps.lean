import ProxSync.Sync.Worker
/-!
# What a step of the transfer queue can do

Every enabled action is one of the listed moves, each with what it found where it was taken. The
lemmas after them say how the writes of the moves look from the tables: which rows and transfers
they replace, and what of them they keep.
-/
open ProxSync.Lib ProxSync.Retention ProxSync.History

namespace ProxSync.Sync

/-- The worker holds a transfer at some stage of it. -/
theorem Phase.held_eq_some {phase : Phase} {taskId : Nat} :
    phase.held = some taskId ↔ ∃ stage, phase = .holding taskId stage := by
  cases phase <;> simp [Phase.held]

/-- A transfer that was not marked running is only selected. -/
theorem Stage.isClaimed_eq_false {stage : Stage} :
    stage.isClaimed = false ↔ ∃ attempt, stage = .selected attempt := by
  cases stage <;> simp [Stage.isClaimed]

/-- A write of a row that leaves its upload and its names alone. -/
structure KeepsUpload (update : BackupHistory → BackupHistory) : Prop where
  status : ∀ record, (update record).uploadStatus = record.uploadStatus
  remotePath : ∀ record, (update record).remotePath = record.remotePath
  filename : ∀ record, (update record).filename = record.filename

/-- A mark of retention leaves the upload alone. -/
theorem markDeletedRow_keepsUpload (location : RetentionLocation) (now : Instant) :
    KeepsUpload (markDeletedRow location now) := by
  constructor <;> intro record <;>
  · cases location <;>
      simp only [markDeletedRow, markLocalDeletedRow, markRemoteDeletedRow, refreshStatus] <;>
      split <;> rfl

/-- A row that is found by its filename is stored under it. -/
theorem matched_stored {history : Table BackupHistory.id} {filename : String}
    {record : BackupHistory} (found : matched history filename = some record) :
    record ∈ history ∧ record.filename = some filename := by
  have listed := List.mem_of_mem_take (List.mem_of_find?_eq_some found)
  have kept := (orderNewestFirst_perm _).mem_iff.mp listed
  exact ⟨(List.mem_filter.mp kept).1, by simpa using List.find?_some found⟩

/-- The enabled actions and their effects. -/
inductive Moves (state : State) : Action → State → Prop
  | configure {drive : DriveSettings} : Moves state (.configure drive) { state with drive := drive }
  | arrive {record : BackupHistory} (fresh : ∀ other ∈ state.history, other.id < record.id)
      (unsent : Unsent record) :
      Moves state (.arrive record) { state with history := state.history.insert record fresh }
  | verify {backupId : Nat} {record : BackupHistory} {result : VerifyResult} {now : Instant}
      {object : RemoteObject} (found : state.history.get backupId = some record)
      (target : verifyTarget state.drive record = some object) :
      Moves state (.verifyBackup backupId result now)
        ((state.setRow backupId (applyVerification result now)
          (applyVerification_id result now)).address .verification backupId object)
  | fetch {backupId : Nat} {object : RemoteObject} :
      Moves state (.download backupId) (state.address .download backupId object)
  | mark {action : Action} {backupId : Nat} {update : BackupHistory → BackupHistory}
      (keeps : ∀ record, (update record).id = record.id) (upload : KeepsUpload update) :
      Moves state action (state.setRow backupId update keeps)
  | remove {action : Action} {backupId : Nat} {now : Instant} {object : RemoteObject} :
      Moves state action ((state.setRow backupId (markDeletedRow .remoteCopy now)
        (markDeletedRow_id .remoteCopy now)).address .removal backupId object)
  | holdUpload {record : BackupHistory} {force : Bool} (free : state.free = true)
      (stored : record ∈ state.history) (named : record.filename.isSome = true)
      (unclaimed : activeForBackup state.tasks record.id = false) :
      Moves state (.enqueueUpload record.id force)
        (state.hold (.upload record.id state.drive.toTransferConfig))
  | holdMatched {artifact : AgentArtifact} {record : BackupHistory} {force : Bool}
      (free : state.free = true) (found : matched state.history artifact.filename = some record)
      (stored : record ∈ state.history) (named : record.filename.isSome = true)
      (unclaimed : activeForBackup state.tasks record.id = false) :
      Moves state (.enqueueUploadByFilename artifact force)
        (state.hold (.upload record.id state.drive.toTransferConfig))
  | holdImport {action : Action} {artifact : AgentArtifact} (free : state.free = true) :
      Moves state action (state.hold (.importArtifact artifact state.drive.toTransferConfig))
  | holdCancel {task : SyncTask} (free : state.free = true) (stored : task ∈ state.tasks)
      (active : SyncTask.isActive task = true) :
      Moves state (.cancelTask task.id) (state.hold (.cancel task))
  | holdRetry {task : SyncTask} (free : state.free = true) (stored : task ∈ state.tasks) :
      Moves state (.retryTask task.id) (state.hold (.retry task))
  | abort : Moves state .abort state.release
  | commit {request : Request} {now : Instant} (holds : state.request = some request) :
      Moves state (.commit now) (state.commit now request).release
  | crash : Moves state .crash (state.release.goto .down)
  | recover (here : state.phase = .down) :
      Moves state .recover { state with
        tasks := Lifecycle.requeueAll state.tasks, phase := .idle }
  | leave {action : Action} {phase : Phase}
      (free : phase = .idle ∨ phase = .claiming ∨ phase = .ended) :
      Moves state action (state.goto phase)
  | scan : Moves state .turn (state.goto
      (.scanning state.drive.toTransferConfig (awaitingUpload state.history) []))
  | skip {config : TransferConfig} {backupId : Nat} {rest fresh : List Nat}
      (here : state.phase = .scanning config (backupId :: rest) fresh) :
      Moves state .check (state.goto (.scanning config rest fresh))
  | pick {config : TransferConfig} {backupId : Nat} {rest fresh : List Nat}
      (here : state.phase = .scanning config (backupId :: rest) fresh)
      (unclaimed : activeForBackup state.tasks backupId = false) :
      Moves state .check (state.goto (.scanning config rest (fresh ++ [backupId])))
  | enqueuePending {config : TransferConfig} {fresh : List Nat}
      (here : state.phase = .scanning config [] fresh) :
      Moves state .enqueuePending ((fresh.foldl (fun queued backupId =>
        queued.enqueue config backupId) state).goto .claiming)
  | select {task : SyncTask} (here : state.phase = .claiming) (stored : task ∈ state.tasks)
      (queued : task.status = .queued) :
      Moves state (.select task.id) (state.goto (.holding task.id (.selected task.attempt)))
  | claim {taskId attempt : Nat} (here : state.phase = .holding taskId (.selected attempt)) :
      Moves state .claim ((state.setTask taskId (claimedTask attempt) (claimedTask_id _)).goto
        (.holding taskId .claimed))
  | vanish {task : SyncTask} {now : Instant} (here : state.phase = .holding task.id .claimed)
      (stored : task ∈ state.tasks)
      (gone : ∀ record ∈ state.history, task.backupId = some record.id → record.filename = none) :
      Moves state (.load now)
        ((state.setTask task.id (vanishedTask now) (vanishedTask_id _)).goto .idle)
  | load {task : SyncTask} {record : BackupHistory} {object : RemoteObject} {now : Instant}
      (here : state.phase = .holding task.id .claimed) (stored : task ∈ state.tasks)
      (about : task.backupId = some record.id) (found : record ∈ state.history)
      (named : record.filename.isSome = true) :
      Moves state (.load now) ((state.setRow record.id (setUploadStatus .uploading)
        (setUploadStatus_id _)).goto (.holding task.id (.loaded object)))
  | send {taskId : Nat} {object : RemoteObject}
      (here : state.phase = .holding taskId (.loaded object)) :
      Moves state .send ((state.note (.started taskId object)).goto
        (.holding taskId (.sent object)))
  | accept {taskId : Nat} {object : RemoteObject} {agentTaskId : String}
      (here : state.phase = .holding taskId (.sent object)) :
      Moves state (.accept agentTaskId) (state.goto (.holding taskId (.accepted agentTaskId)))
  | attach {taskId : Nat} {agentTaskId : String}
      (here : state.phase = .holding taskId (.accepted agentTaskId)) :
      Moves state .attach
        ((state.setTask taskId (attachedTask agentTaskId) (attachedTask_id _)).goto
          (.holding taskId (.following agentTaskId)))
  | succeed {task : SyncTask} {agentTaskId : String} {finishedAt : Instant}
      {verification : Option (Option String × Option Int)}
      (here : state.phase = .holding task.id (.following agentTaskId))
      (stored : task ∈ state.tasks) :
      Moves state (.recordSuccess finishedAt verification)
        (state.recordSuccess task.id finishedAt verification)
  | fail {task : SyncTask} {stage : Stage} {message : String} {now : Instant}
      (here : state.phase = .holding task.id stage) (claimed : stage.isClaimed = true)
      (stored : task ∈ state.tasks) :
      Moves state (.recordFailure message now) (state.recordFailure task.id message now)

section Moves

variable {state after : State} {action : Action}

/-- A change of a row under the guard is a mark. -/
theorem updateRow_moves {backupId : Nat} {allowed : BackupHistory → Bool}
    {update : BackupHistory → BackupHistory} {keeps : ∀ record, (update record).id = record.id}
    (upload : KeepsUpload update)
    (stepped : state.updateRow backupId allowed update keeps = some after) :
    Moves state action after := by
  unfold State.updateRow at stepped
  cases found : state.history.get backupId with
  | none => simp [found] at stepped
  | some record =>
    simp only [found, Option.ite_none_right_eq_some, Option.some.injEq] at stepped
    exact stepped.2 ▸ .mark keeps upload

/-- Taking the guard for an upload. -/
theorem enqueueUpload_eq_some {record : BackupHistory} {force : Bool} :
    state.enqueueUpload record force = some after ↔
      (state.drive.enabled = true ∧ record.status = .success ∧ record.filename.isSome = true ∧
        record.localDeletedAt = none ∧ activeForBackup state.tasks record.id = false ∧
        (record.uploadStatus = .uploaded → force = true)) ∧
      state.hold (.upload record.id state.drive.toTransferConfig) = after := by
  rw [State.enqueueUpload, Option.ite_none_right_eq_some, Option.some.injEq]

/-- Loading finds the transfer gone, its backup gone, or what to send. -/
theorem load_moves {taskId : Nat} (now : Instant)
    (here : state.phase = .holding taskId .claimed) :
    Moves state (.load now) (state.load taskId now) := by
  unfold State.load
  cases found : state.tasks.get taskId with
  | none => exact .leave (.inl rfl)
  | some task =>
    obtain ⟨stored, rfl⟩ := Table.get_eq_some.mp found
    dsimp only
    cases owner : task.backupId.bind state.history.get with
    | none =>
      refine .vanish here stored fun record known about => ?_
      rw [about, Option.bind_some, Table.get_of_mem known] at owner
      cases owner
    | some record =>
      obtain ⟨backupId, about, row⟩ := Option.bind_eq_some_iff.mp owner
      obtain ⟨known, rfl⟩ := Table.get_eq_some.mp row
      dsimp only
      cases name : record.filename with
      | none =>
        refine .vanish here stored fun other otherKnown same => ?_
        have equal : record.id = other.id := Option.some.inj (about.symm.trans same)
        exact Table.eq_of_key known otherKnown equal ▸ name
      | some filename => exact .load here stored about known (by simp [name])

/-- A finished transfer is gone or recorded. -/
theorem recordSuccess_moves {taskId : Nat} {agentTaskId : String} (finishedAt : Instant)
    (verification : Option (Option String × Option Int))
    (here : state.phase = .holding taskId (.following agentTaskId)) :
    Moves state (.recordSuccess finishedAt verification)
      (state.recordSuccess taskId finishedAt verification) := by
  cases found : state.tasks.get taskId with
  | none =>
    rw [State.recordSuccess, found]
    exact .leave (.inl rfl)
  | some task =>
    obtain ⟨stored, rfl⟩ := Table.get_eq_some.mp found
    exact .succeed here stored

/-- A failed transfer is gone or recorded. -/
theorem recordFailure_moves {taskId : Nat} {stage : Stage} (message : String) (now : Instant)
    (here : state.phase = .holding taskId stage) (claimed : stage.isClaimed = true) :
    Moves state (.recordFailure message now) (state.recordFailure taskId message now) := by
  cases found : state.tasks.get taskId with
  | none =>
    rw [State.recordFailure, found]
    exact .leave (.inl rfl)
  | some task =>
    obtain ⟨stored, rfl⟩ := Table.get_eq_some.mp found
    exact .fail here claimed stored

/-- Every enabled action is one of the listed moves. -/
theorem step_moves (stepped : step state action = some after) : Moves state action after := by
  cases action with
  | configure drive =>
    simp only [step, Option.ite_none_right_eq_some, Option.some.injEq] at stepped
    exact stepped.2 ▸ .configure
  | arrive record =>
    simp only [step] at stepped
    split at stepped
    · rename_i fresh
      rw [Option.ite_none_right_eq_some, Option.some.injEq] at stepped
      exact stepped.2 ▸ .arrive fresh stepped.1
    · cases stepped
  | verifyBackup backupId result now =>
    simp only [step] at stepped
    split at stepped
    · cases stepped
    · rename_i record found
      split at stepped
      · cases stepped
      · rename_i object target
        rw [Option.ite_none_right_eq_some, Option.some.injEq] at stepped
        exact stepped.2 ▸ .verify found target
  | download backupId =>
    simp only [step] at stepped
    split at stepped
    · cases stepped
    · exact Option.some.inj stepped ▸ .fetch
  | markLocalCopyPresent backupId =>
    have upload : KeepsUpload markLocalCopyPresent := ⟨fun _ => rfl, fun _ => rfl, fun _ => rfl⟩
    exact updateRow_moves upload stepped
  | deleteLocalArtifact backupId now =>
    have upload : KeepsUpload (deleteLocalArtifact now) :=
      ⟨fun _ => rfl, fun _ => rfl, fun _ => rfl⟩
    exact updateRow_moves upload stepped
  | retain location backupId now =>
    cases location with
    | localCopy => exact updateRow_moves (markDeletedRow_keepsUpload .localCopy now) stepped
    | remoteCopy =>
      simp only [step] at stepped
      split at stepped
      · cases stepped
      · split at stepped
        · cases stepped
        · rw [Option.ite_none_right_eq_some, Option.some.injEq] at stepped
          exact stepped.2 ▸ .remove
  | enqueueUpload backupId force =>
    simp only [step] at stepped
    split at stepped
    · cases stepped
    · rename_i record found
      rw [Option.ite_none_right_eq_some, enqueueUpload_eq_some] at stepped
      obtain ⟨free, ⟨_, _, named, _, unclaimed, _⟩, rfl⟩ := stepped
      obtain ⟨stored, rfl⟩ := Table.get_eq_some.mp found
      exact .holdUpload free stored named unclaimed
  | enqueueUploadByFilename artifact force =>
    simp only [step, Option.ite_none_right_eq_some] at stepped
    obtain ⟨free, stepped⟩ := stepped
    split at stepped
    · rename_i record found
      obtain ⟨⟨_, _, named, _, unclaimed, _⟩, rfl⟩ := enqueueUpload_eq_some.mp stepped
      exact .holdMatched free found (matched_stored found).1 named unclaimed
    · rw [Option.ite_none_right_eq_some, Option.some.injEq] at stepped
      exact stepped.2 ▸ .holdImport free
  | cancelTask taskId =>
    simp only [step] at stepped
    split at stepped
    · cases stepped
    · rename_i task found
      rw [Option.ite_none_right_eq_some, Option.some.injEq] at stepped
      obtain ⟨⟨free, active⟩, rfl⟩ := stepped
      obtain ⟨stored, rfl⟩ := Table.get_eq_some.mp found
      exact .holdCancel free stored active
  | retryTask taskId =>
    simp only [step] at stepped
    split at stepped
    · cases stepped
    · rename_i task found
      rw [Option.ite_none_right_eq_some, Option.some.injEq] at stepped
      obtain ⟨free, rfl⟩ := stepped
      obtain ⟨stored, rfl⟩ := Table.get_eq_some.mp found
      exact .holdRetry free stored
  | abort =>
    simp only [step, Option.ite_none_right_eq_some, Option.some.injEq] at stepped
    exact stepped.2 ▸ .abort
  | commit now =>
    obtain ⟨request, holds, rfl⟩ := Option.map_eq_some_iff.mp stepped
    exact .commit holds
  | crash => exact Option.some.inj stepped ▸ .crash
  | recover =>
    simp only [step] at stepped
    split at stepped
    · rename_i here
      exact Option.some.inj stepped ▸ .recover here
    · cases stepped
  | halt =>
    simp only [step, Option.ite_none_right_eq_some, Option.some.injEq] at stepped
    exact stepped.2 ▸ .leave (.inr (.inr rfl))
  | turn =>
    simp only [step] at stepped
    split at stepped
    · split at stepped
      · exact Option.some.inj stepped ▸ .scan
      · exact Option.some.inj stepped ▸ .leave (.inr (.inl rfl))
    · cases stepped
  | check =>
    simp only [step] at stepped
    split at stepped
    · rename_i here
      split at stepped
      · exact Option.some.inj stepped ▸ .skip here
      · rename_i unclaimed
        exact Option.some.inj stepped ▸ .pick here (Bool.eq_false_of_not_eq_true unclaimed)
    · cases stepped
  | enqueuePending =>
    simp only [step] at stepped
    split at stepped
    · rename_i here
      exact Option.some.inj stepped ▸ .enqueuePending here
    · cases stepped
  | select taskId =>
    simp only [step] at stepped
    split at stepped
    · rename_i task here found
      rw [Option.ite_none_right_eq_some, Option.some.injEq] at stepped
      obtain ⟨queued, rfl⟩ := stepped
      obtain ⟨stored, rfl⟩ := Table.get_eq_some.mp found
      exact .select here stored queued
    · cases stepped
  | wait =>
    simp only [step] at stepped
    split at stepped
    · exact Option.some.inj stepped ▸ .leave (.inl rfl)
    · cases stepped
  | claim =>
    simp only [step] at stepped
    split at stepped
    · rename_i here
      exact Option.some.inj stepped ▸ .claim here
    · cases stepped
  | load now =>
    simp only [step] at stepped
    split at stepped
    · rename_i here
      rw [Option.ite_none_right_eq_some, Option.some.injEq] at stepped
      exact stepped.2 ▸ load_moves now here
    · cases stepped
  | send =>
    simp only [step] at stepped
    split at stepped
    · rename_i here
      exact Option.some.inj stepped ▸ .send here
    · cases stepped
  | accept agentTaskId =>
    simp only [step] at stepped
    split at stepped
    · rename_i here
      exact Option.some.inj stepped ▸ .accept here
    · cases stepped
  | attach =>
    simp only [step] at stepped
    split at stepped
    · rename_i here
      exact Option.some.inj stepped ▸ .attach here
    · cases stepped
  | recordSuccess finishedAt verification =>
    simp only [step] at stepped
    split at stepped
    · rename_i here
      rw [Option.ite_none_right_eq_some, Option.some.injEq] at stepped
      exact stepped.2 ▸ recordSuccess_moves finishedAt verification here
    · cases stepped
  | recordFailure message now =>
    simp only [step] at stepped
    split at stepped
    · rename_i here
      rw [Option.ite_none_right_eq_some, Option.some.injEq] at stepped
      exact stepped.2 ▸ recordFailure_moves message now here stepped.1.2
    · cases stepped
  | raise =>
    simp only [step] at stepped
    split at stepped
    all_goals first
      | exact Option.some.inj stepped ▸ .leave (.inl rfl)
      | cases stepped

end Moves

end ProxSync.Sync
