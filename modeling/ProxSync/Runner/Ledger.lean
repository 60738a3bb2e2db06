import ProxSync.Runner.Executor
/-!
# Rows and counters of runs

What the tables of runs and history rows always satisfy: a row of a run is for one of its targets,
a guest has one row in a run, only a produced archive has a name, and the two counters of a run
are the numbers of its rows that produced an archive and that did not. Each write of the executor
and of the other workers keeps this.
-/
open ProxSync.Lib ProxSync.Retention ProxSync.History

namespace ProxSync.Runner

/-- The row is of the run. -/
def ofRun (runId : Nat) (record : BackupHistory) : Bool := record.runId == some runId

/-- The backup of the row produced an archive, whatever became of the archive. -/
def produced (record : BackupHistory) : Bool :=
  record.status == .success || record.status == .deleted

/-- The backup of the row is over and produced no archive. -/
def fruitless (record : BackupHistory) : Bool :=
  record.status == .failed || record.status == .cancelled || record.status == .interrupted

/-- The counters of a run are the numbers of its rows by outcome. -/
structure Tallied (history : Table BackupHistory.id) (run : BackupRun) : Prop where
  total : run.guestTotal = run.targets.list.length
  nonempty : run.targets.list ≠ []
  succeeded :
    run.guestSucceeded = history.count fun record => ofRun run.id record && produced record
  failed : run.guestFailed = history.count fun record => ofRun run.id record && fruitless record

/-- A row of a run is for one of its targets, a guest has one row in a run, only a produced archive
has a name, and a running row is of a run. -/
structure RowsFit (db : Database) : Prop where
  known : ∀ record ∈ db.history, ∀ runId, record.runId = some runId →
    ∃ run ∈ db.runs, run.id = runId ∧ record.key ∈ run.targets.list.map ResolvedTarget.key
  single : ∀ first ∈ db.history, ∀ second ∈ db.history, first.runId.isSome = true →
    first.runId = second.runId → first.key = second.key → first = second
  named : ∀ record ∈ db.history, record.filename.isSome = true → produced record = true
  owned : ∀ record ∈ db.history, record.status = .running → record.runId.isSome = true

/-- What the tables of runs and history rows always satisfy. -/
structure Book (db : Database) : Prop extends RowsFit db where
  tallied : ∀ run ∈ db.runs, Tallied db.history run

/-- The same row, of the same run and guest. -/
structure SameOwner (before after : BackupHistory) : Prop where
  id : after.id = before.id
  runId : after.runId = before.runId
  key : after.key = before.key

/-! ## What the writers keep -/

/-- Closing a row keeps its owner. -/
theorem closeBackup_sameOwner (status : BackupStatus) (message : String) (now : Instant)
    (record : BackupHistory) : SameOwner record (History.closeBackup status message now record) :=
  ⟨rfl, rfl, rfl⟩

/-- Recording an outcome keeps the owner and the task of a row. -/
theorem recordOutcome_sameOwner (task : AgentTask) (upload : Bool) (now : Instant)
    (record : BackupHistory) :
    SameOwner record (History.recordOutcome task upload now record) ∧
      (History.recordOutcome task upload now record).agentTaskId = record.agentTaskId := by
  simp only [History.recordOutcome]
  split
  · split <;> exact ⟨⟨rfl, rfl, rfl⟩, rfl⟩
  · exact ⟨⟨rfl, rfl, rfl⟩, rfl⟩

/-- A recorded outcome is the reported one. -/
theorem recordOutcome_status (task : AgentTask) (upload : Bool) (now : Instant)
    (record : BackupHistory) :
    (History.recordOutcome task upload now record).status = task.state.backupStatus := by
  simp only [History.recordOutcome]
  split
  · rename_i succeeded
    split <;> simp [applyArtifact, succeeded]
  · rfl

/-- A mark of retention keeps the owner and the task of a row. -/
theorem markDeletedRow_sameOwner (location : RetentionLocation) (now : Instant)
    (record : BackupHistory) :
    SameOwner record (markDeletedRow location now record) ∧
      (markDeletedRow location now record).agentTaskId = record.agentTaskId := by
  cases location <;>
    simp only [markDeletedRow, markLocalDeletedRow, markRemoteDeletedRow, refreshStatus] <;>
    split <;> exact ⟨⟨rfl, rfl, rfl⟩, rfl⟩

/-- A writer of finished rows keeps the owner and the task of its row. -/
theorem HistoryWrite.write_sameOwner (write : HistoryWrite) (record : BackupHistory) :
    SameOwner record (write.write record) ∧
      (write.write record).agentTaskId = record.agentTaskId := by
  cases write with
  | deleteLocal => exact ⟨⟨rfl, rfl, rfl⟩, rfl⟩
  | retain location now => exact markDeletedRow_sameOwner location now record
  | upload => exact ⟨⟨rfl, rfl, rfl⟩, rfl⟩
  | recordUpload result =>
    simp only [HistoryWrite.write, History.recordUpload]
    split <;> exact ⟨⟨rfl, rfl, rfl⟩, rfl⟩
  | verify result now =>
    simp only [HistoryWrite.write, applyVerification]
    split <;> exact ⟨⟨rfl, rfl, rfl⟩, rfl⟩
  | present => exact ⟨⟨rfl, rfl, rfl⟩, rfl⟩
  | lock => exact ⟨⟨rfl, rfl, rfl⟩, rfl⟩

/-- A mark leaves the status of a produced archive between success and deleted. -/
theorem markDeletedRow_produced {location : RetentionLocation} {now : Instant}
    {record : BackupHistory} (before : produced record = true) :
    produced (markDeletedRow location now record) = true := by
  cases location <;>
    simp only [markDeletedRow, markLocalDeletedRow, markRemoteDeletedRow, refreshStatus] <;>
    split <;> first | exact before | skip
  all_goals simp only [produced]; split <;> rfl

/-- A writer keeps the status of its row, or moves a produced archive between success and
deleted. -/
theorem HistoryWrite.write_status {db : Database} {write : HistoryWrite} {record : BackupHistory}
    (named : record.filename.isSome = true → produced record = true)
    (applies : write.applies db record = true) :
    (write.write record).status = record.status ∨
      (produced record = true ∧ produced (write.write record) = true) := by
  cases write with
  | deleteLocal now =>
    refine .inr ⟨named ?_, ?_⟩
    · simp only [HistoryWrite.applies, Bool.and_eq_true] at applies
      exact applies.2
    · simp only [HistoryWrite.write, deleteLocalArtifact, produced]
      split <;> rfl
  | retain location now =>
    have before : produced record = true := by
      simp only [HistoryWrite.applies, Bool.and_eq_true] at applies
      have copy := applies.1.1.1
      cases location <;>
        simp only [hasCopy, localExists, remoteExists, Bool.and_eq_true] at copy <;>
        exact named copy.2
    exact .inr ⟨before, markDeletedRow_produced before⟩
  | upload => exact .inl rfl
  | recordUpload result =>
    refine .inl ?_
    simp only [HistoryWrite.write, History.recordUpload]
    split <;> rfl
  | verify result now =>
    refine .inl ?_
    simp only [HistoryWrite.write, applyVerification]
    split <;> rfl
  | present => exact .inl rfl
  | lock => exact .inl rfl

/-- A writer keeps the name of its row. -/
theorem HistoryWrite.write_filename (write : HistoryWrite) (record : BackupHistory) :
    (write.write record).filename = record.filename := by
  cases write with
  | deleteLocal => rfl
  | retain location now => exact ArtifactState.markDeletedRow_filename location now record
  | upload => rfl
  | recordUpload result => exact ArtifactState.recordUpload_filename result record
  | verify result now =>
    simp only [HistoryWrite.write, applyVerification]
    split <;> rfl
  | present => rfl
  | lock => rfl

/-- A produced archive is neither running nor fruitless. -/
theorem fruitless_of_produced {record : BackupHistory} (yes : produced record = true) :
    fruitless record = false := by
  cases status : record.status <;> simp_all [produced, fruitless]

/-- A running row has no outcome. -/
theorem outcome_of_running {record : BackupHistory} (running : record.status = .running) :
    produced record = false ∧ fruitless record = false := by
  simp [produced, fruitless, running]

/-- A row without an outcome is running. -/
theorem running_of_outcome {record : BackupHistory} (unproduced : produced record = false)
    (unfruitless : fruitless record = false) : record.status = .running := by
  cases status : record.status <;> simp_all [produced, fruitless]

/-- Two rows with one status have one outcome. -/
theorem outcome_congr {first second : BackupHistory} (same : first.status = second.status) :
    produced first = produced second ∧ fruitless first = fruitless second := by
  simp [produced, fruitless, same]

/-- A writer keeps the outcome of its row. -/
theorem HistoryWrite.write_outcome {db : Database} {write : HistoryWrite} {record : BackupHistory}
    (named : record.filename.isSome = true → produced record = true)
    (applies : write.applies db record = true) :
    produced (write.write record) = produced record ∧
      fruitless (write.write record) = fruitless record := by
  rcases write_status named applies with same | ⟨before, after⟩
  · exact outcome_congr same
  · exact ⟨after.trans before.symm,
      (fruitless_of_produced after).trans (fruitless_of_produced before).symm⟩

/-! ## Writes that keep the book -/

section Keeping

variable {db : Database}

/-- A rewritten run table that has every run under its id and with its targets fits the rows. -/
theorem RowsFit.withRuns (fit : RowsFit db) {runs : Table BackupRun.id}
    (kept : ∀ run ∈ db.runs, ∃ after ∈ runs, after.id = run.id ∧ after.targets = run.targets) :
    RowsFit { db with runs := runs } := by
  refine ⟨?_, fit.single, fit.named, fit.owned⟩
  intro record stored runId owned
  obtain ⟨run, runStored, named, target⟩ := fit.known record stored runId owned
  obtain ⟨after, afterStored, sameId, sameTargets⟩ := kept run runStored
  exact ⟨after, afterStored, sameId.trans named, sameTargets ▸ target⟩

/-- Every run has an image in a modified table. -/
theorem exists_setRun {runId : Nat} {update : BackupRun → BackupRun}
    (keeps : ∀ run, (update run).id = run.id)
    (targets : ∀ run, (update run).targets = run.targets) :
    ∀ run ∈ db.runs, ∃ after ∈ (setRun db runId update keeps).runs,
      after.id = run.id ∧ after.targets = run.targets := by
  intro run stored
  exact Table.exists_mem_modify keeps stored ⟨rfl, rfl⟩ fun _ => ⟨keeps run, targets run⟩

/-- The update leaves the targets and the counters of a run as they are. -/
structure LeavesTally (update : BackupRun → BackupRun) : Prop where
  id : ∀ run, (update run).id = run.id
  targets : ∀ run, (update run).targets = run.targets
  total : ∀ run, (update run).guestTotal = run.guestTotal
  succeeded : ∀ run, (update run).guestSucceeded = run.guestSucceeded
  failed : ∀ run, (update run).guestFailed = run.guestFailed

/-- Claiming leaves the tally. -/
theorem claim_leavesTally (now : Instant) : LeavesTally (claim now) :=
  ⟨fun _ => rfl, fun _ => rfl, fun _ => rfl, fun _ => rfl, fun _ => rfl⟩

/-- Finishing leaves the tally. -/
theorem finished_leavesTally (status : RunStatus) (error : Option String) (now : Instant) :
    LeavesTally (finished status error now) :=
  ⟨fun _ => rfl, fun _ => rfl, fun _ => rfl, fun _ => rfl, fun _ => rfl⟩

/-- Noting when a run started leaves the tally. -/
theorem started_leavesTally (now : Instant) : LeavesTally (started now) :=
  ⟨fun _ => rfl, fun _ => rfl, fun _ => rfl, fun _ => rfl, fun _ => rfl⟩

/-- Requeueing leaves the tally. -/
theorem requeued_leavesTally : LeavesTally requeued := by
  refine ⟨requeued_id, ?_, ?_, ?_, ?_⟩ <;>
    · intro run
      unfold requeued
      split <;> rfl

/-- An update that leaves the tally keeps a run tallied. -/
theorem LeavesTally.tallied {history : Table BackupHistory.id} {run : BackupRun}
    {update : BackupRun → BackupRun} (leaves : LeavesTally update)
    (tallied : Tallied history run) : Tallied history (update run) := by
  refine ⟨?_, ?_, ?_, ?_⟩
  · rw [leaves.total, leaves.targets]; exact tallied.total
  · rw [leaves.targets]; exact tallied.nonempty
  · rw [leaves.succeeded, leaves.id]; exact tallied.succeeded
  · rw [leaves.failed, leaves.id]; exact tallied.failed

/-- Rewriting a run's status or times keeps the book. -/
theorem Book.setRun (book : Book db) {update : BackupRun → BackupRun}
    (leaves : LeavesTally update) (runId : Nat) : Book (setRun db runId update leaves.id) := by
  refine ⟨book.withRuns (exists_setRun leaves.id leaves.targets), fun run stored => ?_⟩
  rcases (Table.mem_modify leaves.id).mp stored with ⟨old, oldStored, _, rfl⟩ | ⟨stored, _⟩
  · exact leaves.tallied (book.tallied old oldStored)
  · exact book.tallied run stored

/-- Requeueing every run keeps the book. -/
theorem Book.requeue (book : Book db) :
    Book { db with runs := db.runs.map requeued requeued_id } := by
  refine ⟨book.withRuns fun run stored => ?_, fun run stored => ?_⟩
  · exact ⟨requeued run, (Table.mem_map requeued_id).mpr ⟨run, stored, rfl⟩, requeued_id run,
      requeued_leavesTally.targets run⟩
  · obtain ⟨old, oldStored, rfl⟩ := (Table.mem_map requeued_id).mp stored
    exact requeued_leavesTally.tallied (book.tallied old oldStored)

/-- A count of rows that none of the stored rows passes is zero. -/
theorem count_eq_zero {history : Table BackupHistory.id} {test : BackupHistory → Bool}
    (none : ∀ record ∈ history, test record = false) : history.count test = 0 := by
  rw [Table.count, List.countP_eq_zero]
  intro record stored
  simp [none record stored]

/-- A new run has no rows. -/
theorem Book.noRows (book : Book db) {runId : Nat} (fresh : ∀ other ∈ db.runs, other.id < runId) :
    ∀ record ∈ db.history, record.runId ≠ some runId := by
  intro record stored owned
  obtain ⟨run, runStored, named, _⟩ := book.known record stored runId owned
  have below := fresh run runStored
  omega

/-- Creating a run keeps the book. -/
theorem Book.createRun (book : Book db) {id : Nat} {jobId : Option Nat} {trigger : TriggerType}
    {targets : Targets} {options : Option JsonDict} (fresh : ∀ other ∈ db.runs, other.id < id)
    (nonempty : targets.list ≠ []) :
    Book { db with
      runs := db.runs.insert (queuedRun id jobId trigger targets options) fresh } := by
  refine ⟨book.withRuns ?_, ?_⟩
  · exact fun run stored => ⟨run, (Table.mem_insert fresh).mpr (.inl stored), rfl, rfl⟩
  · intro run stored
    rcases (Table.mem_insert fresh).mp stored with old | rfl
    · exact book.tallied run old
    · have absent := book.noRows fresh
      refine ⟨rfl, nonempty, ?_, ?_⟩ <;>
        · refine (count_eq_zero fun record stored => ?_).symm
          have other := absent record stored
          simp [ofRun, queuedRun, other]

/-- Inserting a row that counts on no run keeps every tally. -/
theorem Tallied.insert {history : Table BackupHistory.id} {run : BackupRun}
    (tallied : Tallied history run) (record : BackupHistory)
    (fresh : ∀ other ∈ history, other.id < record.id)
    (uncounted : record.runId = some run.id → produced record = false ∧ fruitless record = false) :
    Tallied (history.insert record fresh) run := by
  have absent : (ofRun run.id record && produced record) = false ∧
      (ofRun run.id record && fruitless record) = false := by
    by_cases owned : record.runId = some run.id
    · simp [uncounted owned]
    · simp [ofRun, owned]
  refine ⟨tallied.total, tallied.nonempty, ?_, ?_⟩
  · rw [Table.count_insert, absent.1]; exact tallied.succeeded
  · rw [Table.count_insert, absent.2]; exact tallied.failed

/-- Importing a file keeps the book. -/
theorem Book.importFile (book : Book db) {id : Nat} {artifact : AgentArtifact}
    (fresh : ∀ other ∈ db.history, other.id < id) :
    Book { db with history := db.history.insert (importRow id artifact) fresh } := by
  refine ⟨⟨?_, ?_, ?_, ?_⟩, ?_⟩
  · intro record stored runId owned
    rcases (Table.mem_insert fresh).mp stored with old | rfl
    · exact book.known record old runId owned
    · simp [importRow, BackupHistory.create] at owned
  · intro first firstStored second secondStored owned sameRun sameKey
    rcases (Table.mem_insert fresh).mp firstStored with firstOld | rfl
    · rcases (Table.mem_insert fresh).mp secondStored with secondOld | rfl
      · exact book.single first firstOld second secondOld owned sameRun sameKey
      · simp [sameRun, importRow, BackupHistory.create] at owned
    · simp [importRow, BackupHistory.create] at owned
  · intro record stored name
    rcases (Table.mem_insert fresh).mp stored with old | rfl
    · exact book.named record old name
    · rfl
  · intro record stored running
    rcases (Table.mem_insert fresh).mp stored with old | rfl
    · exact book.owned record old running
    · simp [importRow] at running
  · intro run stored
    exact (book.tallied run stored).insert (importRow id artifact) fresh fun owned => by
      simp [importRow, BackupHistory.create] at owned

/-- Opening the row of a target that has none keeps the book. -/
theorem Book.openRow (book : Book db) {id runId : Nat} {target : ResolvedTarget}
    {storage : String} {uploadStatus : UploadStatus} {now : Instant} {run : BackupRun}
    (fresh : ∀ other ∈ db.history, other.id < id) (stored : run ∈ db.runs)
    (runNamed : run.id = runId) (target_mem : target ∈ run.targets.list)
    (absent : ∀ record ∈ db.history, record.runId = some runId → record.key ≠ target.key) :
    Book { db with history := (db.history.insert
      (BackupHistory.create id (some runId) target storage uploadStatus now) fresh) } := by
  let opened := BackupHistory.create id (some runId) target storage uploadStatus now
  refine ⟨⟨?_, ?_, ?_, ?_⟩, ?_⟩
  · intro record recordStored owner owned
    rcases (Table.mem_insert fresh).mp recordStored with old | rfl
    · exact book.known record old owner owned
    · have same : runId = owner := by simpa [BackupHistory.create] using owned
      exact ⟨run, stored, runNamed.trans same, List.mem_map.mpr ⟨target, target_mem, rfl⟩⟩
  · intro first firstStored second secondStored owned sameRun sameKey
    rcases (Table.mem_insert fresh).mp firstStored with firstOld | rfl <;>
      rcases (Table.mem_insert fresh).mp secondStored with secondOld | rfl
    · exact book.single first firstOld second secondOld owned sameRun sameKey
    · exact absurd sameKey (absent first firstOld sameRun)
    · exact absurd sameKey.symm (absent second secondOld sameRun.symm)
    · rfl
  · intro record recordStored name
    rcases (Table.mem_insert fresh).mp recordStored with old | rfl
    · exact book.named record old name
    · simp [BackupHistory.create] at name
  · intro record recordStored running
    rcases (Table.mem_insert fresh).mp recordStored with old | rfl
    · exact book.owned record old running
    · rfl
  · intro other otherStored
    exact (book.tallied other otherStored).insert opened fresh fun _ => ⟨rfl, rfl⟩

section Rewriting

variable {record : BackupHistory} {update : BackupHistory → BackupHistory}
  (keeps : ∀ record, (update record).id = record.id)

/-- A rewritten row of the same owner still fits. -/
theorem RowsFit.rewrite (fit : RowsFit db) (stored : record ∈ db.history)
    (owner : SameOwner record (update record))
    (named : (update record).filename.isSome = true → produced (update record) = true)
    (owned : (update record).status = .running → record.runId.isSome = true) :
    RowsFit (setRecord db record.id update keeps) := by
  have sources : ∀ row ∈ (setRecord db record.id update keeps).history,
      ∃ old ∈ db.history, SameOwner old row ∧ (row = update record ∨ row = old) := by
    intro row rowStored
    rcases (Table.mem_modify_of_mem keeps stored).mp rowStored with rfl | ⟨old, _⟩
    · exact ⟨record, stored, owner, .inl rfl⟩
    · exact ⟨row, old, ⟨rfl, rfl, rfl⟩, .inr rfl⟩
  refine ⟨?_, ?_, ?_, ?_⟩
  · intro row rowStored runId owned
    obtain ⟨old, oldStored, same, _⟩ := sources row rowStored
    obtain ⟨run, runStored, runNamed, target⟩ :=
      fit.known old oldStored runId (same.runId.symm.trans owned)
    exact ⟨run, runStored, runNamed, same.key ▸ target⟩
  · intro first firstStored second secondStored owned sameRun sameKey
    obtain ⟨left, leftStored, leftSame, _⟩ := sources first firstStored
    obtain ⟨right, rightStored, rightSame, _⟩ := sources second secondStored
    have equal : left = right := by
      apply fit.single left leftStored right rightStored
      · rw [← leftSame.runId]; exact owned
      · exact leftSame.runId.symm.trans (sameRun.trans rightSame.runId)
      · exact leftSame.key.symm.trans (sameKey.trans rightSame.key)
    have ids : first.id = second.id := by rw [leftSame.id, rightSame.id, equal]
    exact Table.eq_of_key firstStored secondStored ids
  · intro row rowStored name
    obtain ⟨old, oldStored, _, is | is⟩ := sources row rowStored
    · exact is ▸ named (is ▸ name)
    · exact is ▸ fit.named old oldStored (is ▸ name)
  · intro row rowStored running
    rcases (Table.mem_modify_of_mem keeps stored).mp rowStored with rfl | ⟨old, _⟩
    · rw [owner.runId]
      exact owned running
    · exact fit.owned row old running

/-- A rewritten row counts on its run what its image counts. -/
theorem count_rewrite (stored : record ∈ db.history) (owner : SameOwner record (update record))
    (runId : Nat) (outcome : BackupHistory → Bool) :
    (setRecord db record.id update keeps).history.count
        (fun row => ofRun runId row && outcome row) +
        (if (ofRun runId record && outcome record) = true then 1 else 0) =
      db.history.count (fun row => ofRun runId row && outcome row) +
        (if (ofRun runId record && outcome (update record)) = true then 1 else 0) := by
  have counted := Table.count_modify keeps stored fun row => ofRun runId row && outcome row
  have same : ofRun runId (update record) = ofRun runId record := by simp [ofRun, owner.runId]
  rw [same] at counted
  exact counted

/-- Rewriting a row without changing its outcome keeps the book. -/
theorem Book.setRecord (book : Book db) (stored : record ∈ db.history)
    (owner : SameOwner record (update record))
    (named : (update record).filename.isSome = true → produced (update record) = true)
    (outcome : produced (update record) = produced record ∧
      fruitless (update record) = fruitless record) :
    Book (setRecord db record.id update keeps) := by
  have owned : (update record).status = .running → record.runId.isSome = true := by
    intro running
    obtain ⟨unproduced, unfruitless⟩ := outcome_of_running running
    rw [outcome.1] at unproduced
    rw [outcome.2] at unfruitless
    exact book.owned record stored (running_of_outcome unproduced unfruitless)
  refine ⟨book.toRowsFit.rewrite keeps stored owner named owned, fun run runStored => ?_⟩
  have tallied := book.tallied run runStored
  have succeeded := count_rewrite keeps stored owner run.id produced
  have failed := count_rewrite keeps stored owner run.id fruitless
  rw [outcome.1] at succeeded
  rw [outcome.2] at failed
  refine ⟨tallied.total, tallied.nonempty, ?_, ?_⟩
  · rw [tallied.succeeded]; omega
  · rw [tallied.failed]; omega

/-- Settling a running row and counting it on its run keeps the book. -/
theorem Book.settle (book : Book db) {runId : Nat} {succeeded : Bool} (stored : record ∈ db.history)
    (owned : record.runId = some runId) (running : record.status = .running)
    (owner : SameOwner record (update record))
    (named : (update record).filename.isSome = true → produced (update record) = true)
    (yes : produced (update record) = succeeded) (no : fruitless (update record) = !succeeded) :
    Book (bumpCounters (Runner.setRecord db record.id update keeps) runId succeeded) := by
  let settled := Runner.setRecord db record.id update keeps
  obtain ⟨unproduced, unfruitless⟩ := outcome_of_running running
  have counts : ∀ run ∈ db.runs,
      settled.history.count (fun row => ofRun run.id row && produced row) =
        run.guestSucceeded + (if run.id = runId ∧ succeeded = true then 1 else 0) ∧
      settled.history.count (fun row => ofRun run.id row && fruitless row) =
        run.guestFailed + (if run.id = runId ∧ succeeded = false then 1 else 0) := by
    intro run runStored
    have tallied := book.tallied run runStored
    have left := count_rewrite keeps stored owner run.id produced
    have right := count_rewrite keeps stored owner run.id fruitless
    have mine : ofRun run.id record = decide (run.id = runId) := by
      rw [ofRun, owned]
      by_cases same : run.id = runId
      · simp [same]
      · simp [same, Ne.symm same]
    rw [unproduced, yes, mine, ← tallied.succeeded] at left
    rw [unfruitless, no, mine, ← tallied.failed] at right
    by_cases same : run.id = runId <;> cases succeeded <;> simp_all [settled]
  have owns : record.runId.isSome = true := by simp [owned]
  refine ⟨(book.toRowsFit.rewrite keeps stored owner named fun _ => owns).withRuns ?_, ?_⟩
  · exact exists_setRun (bump_id succeeded) fun run => by cases succeeded <;> rfl
  · intro run runStored
    rcases (Table.mem_modify (bump_id succeeded)).mp runStored with
      ⟨old, oldStored, same, rfl⟩ | ⟨oldStored, other⟩
    · obtain ⟨left, right⟩ := counts old oldStored
      have tallied := book.tallied old oldStored
      cases succeeded
      · exact ⟨tallied.total, tallied.nonempty, (left.trans (by simp [bump])).symm,
          (right.trans (by simp [bump, same])).symm⟩
      · exact ⟨tallied.total, tallied.nonempty, (left.trans (by simp [bump, same])).symm,
          (right.trans (by simp [bump])).symm⟩
    · obtain ⟨left, right⟩ := counts run oldStored
      have tallied := book.tallied run oldStored
      exact ⟨tallied.total, tallied.nonempty, (left.trans (by simp [other])).symm,
        (right.trans (by simp [other])).symm⟩

end Rewriting

end Keeping

end ProxSync.Runner
