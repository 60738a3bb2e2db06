import ProxSync.Runner.Ledger
import ProxSync.Runner.Steps
/-!
# What a write does to rows and runs

The steps of the system write the database in few ways. Most leave every row of a run as it is but
for what other actors note on it, some close one running row and count it, and a few rewrite the
status of a run. What a guest has in a run, and which status a run has, is carried over each of
them.
-/
open ProxSync.Lib ProxSync.Retention ProxSync.History

namespace ProxSync.Runner

/-- The guest has a row in the run. -/
def HasRow (db : Database) (runId : Nat) (guest : GuestKey) : Prop :=
  ∃ record ∈ db.history, record.runId = some runId ∧ record.key = guest

/-- The guest has a row in the run, and its backup is over. -/
def Settled (db : Database) (runId : Nat) (guest : GuestKey) : Prop :=
  ∃ record ∈ db.history, record.runId = some runId ∧ record.key = guest ∧ record.status ≠ .running

/-- The row is the running row of the guest in the run, with the task the agent accepted. -/
def Held (db : Database) (runId : Nat) (guest : GuestKey) (backupId : Nat)
    (task : Option String) : Prop :=
  ∃ record ∈ db.history, record.id = backupId ∧ record.runId = some runId ∧ record.key = guest ∧
    record.status = .running ∧ record.agentTaskId = task

/-- The same row with the same task, running before and after or neither. -/
structure Alike (before after : BackupHistory) : Prop where
  owner : SameOwner before after
  running : after.status = .running ↔ before.status = .running
  task : after.agentTaskId = before.agentTaskId

/-- Every run is kept, and no run is changed but in what it has come to. -/
def KeepsRuns (before after : Database) : Prop :=
  ∀ run ∈ before.runs, ∃ later ∈ after.runs, later.id = run.id ∧ later.targets = run.targets

/-- Rows and runs are kept and settled rows stay settled. -/
structure Grows (before after : Database) : Prop where
  runs : KeepsRuns before after
  rows : ∀ record ∈ before.history, ∃ later ∈ after.history, SameOwner record later ∧
    (record.status ≠ .running → later.status ≠ .running)

/-- No run gets a row. -/
def NoNewRows (before after : Database) : Prop :=
  ∀ later ∈ after.history, later.runId.isSome = true →
    ∃ record ∈ before.history, SameOwner record later

/-- No row of a run appears, starts, ends or changes its task. -/
structure Undisturbed (before after : Database) : Prop where
  runs : KeepsRuns before after
  forth : ∀ record ∈ before.history, ∃ later ∈ after.history, Alike record later
  back : ∀ later ∈ after.history, later.runId.isSome = true →
    ∃ record ∈ before.history, Alike record later

/-- One running row is closed, and nothing else happens to the rows. -/
structure Settles (before after : Database) (record closed : BackupHistory) : Prop where
  runs : KeepsRuns before after
  stored : record ∈ before.history
  owner : SameOwner record closed
  isOver : closed.status ≠ .running
  task : closed.agentTaskId = record.agentTaskId
  rows : ∀ row, row ∈ after.history ↔ row = closed ∨ (row ∈ before.history ∧ row.id ≠ record.id)

variable {db after : Database}

/-! ## Rows after a write -/

section Rows

/-- A row is like itself. -/
theorem Alike.refl (record : BackupHistory) : Alike record record :=
  ⟨⟨rfl, rfl, rfl⟩, Iff.rfl, rfl⟩

/-- What is there is kept. -/
theorem Grows.refl (db : Database) : Grows db db :=
  ⟨fun run stored => ⟨run, stored, rfl, rfl⟩,
    fun record stored => ⟨record, stored, ⟨rfl, rfl, rfl⟩, fun isOver => isOver⟩⟩

/-- A write of runs alone disturbs no row. -/
theorem Undisturbed.ofRuns (runs : KeepsRuns db after) (same : after.history = db.history) :
    Undisturbed db after := by
  refine ⟨runs, ?_, ?_⟩
  · exact fun record stored => ⟨record, same ▸ stored, .refl record⟩
  · exact fun record stored _ => ⟨record, same ▸ stored, .refl record⟩

/-- Rewriting a run disturbs no row. -/
theorem Undisturbed.setRun {update : BackupRun → BackupRun} (leaves : LeavesTally update)
    (runId : Nat) : Undisturbed db (setRun db runId update leaves.id) :=
  .ofRuns (exists_setRun leaves.id leaves.targets) rfl

/-- Requeueing disturbs no row. -/
theorem Undisturbed.requeue :
    Undisturbed db { db with runs := db.runs.map requeued requeued_id } := by
  refine .ofRuns (fun run stored => ?_) rfl
  exact ⟨requeued run, (Table.mem_map requeued_id).mpr ⟨run, stored, rfl⟩, requeued_id run,
    requeued_leavesTally.targets run⟩

/-- A new run disturbs no row. -/
theorem Undisturbed.createRun {run : BackupRun} (fresh : ∀ other ∈ db.runs, other.id < run.id) :
    Undisturbed db { db with runs := db.runs.insert run fresh } :=
  .ofRuns (fun old stored => ⟨old, (Table.mem_insert fresh).mpr (.inl stored), rfl, rfl⟩) rfl

/-- An imported file disturbs no row of a run. -/
theorem Undisturbed.importFile {id : Nat} {artifact : AgentArtifact}
    (fresh : ∀ other ∈ db.history, other.id < id) :
    Undisturbed db { db with history := db.history.insert (importRow id artifact) fresh } := by
  refine ⟨fun run stored => ⟨run, stored, rfl, rfl⟩, ?_, ?_⟩
  · exact fun record stored => ⟨record, (Table.mem_insert fresh).mpr (.inl stored), .refl record⟩
  · intro record stored owned
    rcases (Table.mem_insert fresh).mp stored with old | rfl
    · exact ⟨record, old, .refl record⟩
    · simp [importRow, BackupHistory.create] at owned

/-- A row of one status is like the row before when owner and task are kept. -/
theorem HistoryWrite.alike (book : Book db) {write : HistoryWrite} {record : BackupHistory}
    (stored : record ∈ db.history) (applies : write.applies db record = true) :
    Alike record (write.write record) := by
  obtain ⟨owner, task⟩ := write.write_sameOwner record
  refine ⟨owner, ?_, task⟩
  rcases write_status (book.named record stored) applies with same | ⟨before, later⟩
  · rw [same]
  · have notBefore : record.status ≠ .running := fun running => by
      simp [produced, running] at before
    have notLater : (write.write record).status ≠ .running := fun running => by
      simp [produced, running] at later
    exact ⟨fun running => absurd running notLater, fun running => absurd running notBefore⟩

/-- A writer of finished rows disturbs no row. -/
theorem Undisturbed.writeHistory (book : Book db) {write : HistoryWrite} {record : BackupHistory}
    (stored : record ∈ db.history) (applies : write.applies db record = true) :
    Undisturbed db (setRecord db record.id write.write write.write_id) := by
  have alike := write.alike book stored applies
  refine ⟨fun run stored => ⟨run, stored, rfl, rfl⟩, ?_, ?_⟩
  · intro row rowStored
    refine Table.exists_mem_modify write.write_id rowStored (.refl row) fun same => ?_
    exact Table.eq_of_key rowStored stored same ▸ alike
  · intro row rowStored _
    rcases (Table.mem_modify_of_mem write.write_id stored).mp rowStored with rfl | ⟨old, _⟩
    · exact ⟨record, stored, alike⟩
    · exact ⟨row, old, .refl row⟩

/-- Undisturbed rows are kept. -/
theorem Undisturbed.grows (same : Undisturbed db after) : Grows db after := by
  refine ⟨same.runs, fun record stored => ?_⟩
  obtain ⟨later, laterStored, alike⟩ := same.forth record stored
  exact ⟨later, laterStored, alike.owner, fun isOver running => isOver (alike.running.mp running)⟩

/-- Where no row is disturbed, no run gets a row. -/
theorem Undisturbed.noNewRows (same : Undisturbed db after) : NoNewRows db after := by
  intro later stored owned
  obtain ⟨record, recordStored, alike⟩ := same.back later stored owned
  exact ⟨record, recordStored, alike.owner⟩

/-- A new row keeps rows and settled rows. -/
theorem grows_insert {row : BackupHistory} (fresh : ∀ other ∈ db.history, other.id < row.id) :
    Grows db { db with history := db.history.insert row fresh } :=
  ⟨fun run stored => ⟨run, stored, rfl, rfl⟩, fun record stored =>
    ⟨record, (Table.mem_insert fresh).mpr (.inl stored), ⟨rfl, rfl, rfl⟩, fun isOver => isOver⟩⟩

/-- Storing an accepted task keeps rows and settled rows. -/
theorem grows_storeTask (db : Database) (backupId : Nat) (taskId : String)
    (correlationId : Option String) :
    Grows db (setRecord db backupId (History.storeTask taskId correlationId) fun _ => rfl) := by
  have keeps : ∀ row, (History.storeTask taskId correlationId row).id = row.id := fun _ => rfl
  refine ⟨fun run stored => ⟨run, stored, rfl, rfl⟩, fun row rowStored => ?_⟩
  exact Table.exists_mem_modify keeps rowStored ⟨⟨rfl, rfl, rfl⟩, fun isOver => isOver⟩
    fun _ => ⟨⟨rfl, rfl, rfl⟩, fun isOver => isOver⟩

variable {record closed : BackupHistory}

/-- Closing a row keeps rows and settled rows. -/
theorem Settles.grows (settles : Settles db after record closed) : Grows db after := by
  refine ⟨settles.runs, fun row stored => ?_⟩
  by_cases same : row.id = record.id
  · have equal := Table.eq_of_key stored settles.stored same
    exact ⟨closed, (settles.rows closed).mpr (.inl rfl), equal ▸ settles.owner,
      fun _ => settles.isOver⟩
  · exact ⟨row, (settles.rows row).mpr (.inr ⟨stored, same⟩), ⟨rfl, rfl, rfl⟩, id⟩

/-- Closing a row gives no run a row. -/
theorem Settles.noNewRows (settles : Settles db after record closed) : NoNewRows db after := by
  intro later stored _
  rcases (settles.rows later).mp stored with rfl | ⟨old, _⟩
  · exact ⟨record, settles.stored, settles.owner⟩
  · exact ⟨later, old, ⟨rfl, rfl, rfl⟩⟩

/-- The guest of a closed row is settled. -/
theorem Settles.settled (settles : Settles db after record closed) {runId : Nat}
    (owned : record.runId = some runId) : Settled after runId record.key :=
  ⟨closed, (settles.rows closed).mpr (.inl rfl), settles.owner.runId.trans owned,
    settles.owner.key, settles.isOver⟩

/-- The other rows of a table in which one row was closed are the old ones. -/
theorem Settles.others (settles : Settles db after record closed) {row : BackupHistory}
    (stored : row ∈ db.history) (other : row.id ≠ record.id) : row ∈ after.history :=
  (settles.rows row).mpr (.inr ⟨stored, other⟩)

/-- A running row of the new table is an old one other than the closed one. -/
theorem Settles.running (settles : Settles db after record closed) {row : BackupHistory}
    (stored : row ∈ after.history) (running : row.status = .running) :
    row ∈ db.history ∧ row.id ≠ record.id := by
  rcases (settles.rows row).mp stored with rfl | old
  · exact absurd running settles.isOver
  · exact old

/-- Rewriting a stored row and counting it on its run closes the row. -/
theorem settles_setRecord {update : BackupHistory → BackupHistory}
    (keeps : ∀ record, (update record).id = record.id) {runId : Nat} {succeeded : Bool}
    (stored : record ∈ db.history) (owner : SameOwner record (update record))
    (isOver : (update record).status ≠ .running)
    (task : (update record).agentTaskId = record.agentTaskId) :
    Settles db (bumpCounters (setRecord db record.id update keeps) runId succeeded) record
      (update record) := by
  refine ⟨?_, stored, owner, isOver, task, fun row => ?_⟩
  · exact exists_setRun (bump_id succeeded) fun run => by cases succeeded <;> rfl
  · exact Table.mem_modify_of_mem keeps stored

/-- A running row has no archive. -/
theorem Book.unnamed (book : Book db) (stored : record ∈ db.history)
    (running : record.status = .running) : record.filename = none := by
  by_contra named
  have yes := book.named record stored (Option.isSome_iff_ne_none.mpr named)
  simp [produced, running] at yes

/-- Closing a running row of a run without an outcome. -/
theorem closeBackup_settles (book : Book db) (stored : record ∈ db.history)
    (running : record.status = .running) (status : BackupStatus) (isOver : status ≠ .running)
    (barren : status ≠ .success ∧ status ≠ .deleted) (message : String) (now : Instant) :
    Settles db (closeBackup db record.id status message now) record
        (History.closeBackup status message now record) ∧
      Book (closeBackup db record.id status message now) := by
  obtain ⟨runId, owned⟩ := Option.isSome_iff_exists.mp (book.owned record stored running)
  have closes : closeBackup db record.id status message now =
      bumpCounters (setRecord db record.id (History.closeBackup status message now) fun _ => rfl)
        runId false := by
    simp only [closeBackup, Table.get_of_mem stored, owned]
  have unnamed := book.unnamed stored running
  have keeps : ∀ row, (History.closeBackup status message now row).id = row.id := fun _ => rfl
  have owner := closeBackup_sameOwner status message now record
  rw [closes]
  refine ⟨settles_setRecord keeps stored owner isOver rfl, ?_⟩
  refine book.settle keeps stored owned running owner ?_ ?_ ?_
  · exact fun named => by simp [History.closeBackup, unnamed] at named
  · simp [produced, History.closeBackup, barren]
  · cases status <;> simp_all [fruitless, History.closeBackup]

/-- Recording an outcome for a running row of a run. -/
theorem recordOutcome_settles (book : Book db) (stored : record ∈ db.history)
    (running : record.status = .running) {runId : Nat} (owned : record.runId = some runId)
    {task : AgentTask} {upload : Bool} {now : Instant}
    (recorded : recordOutcome db record.id runId task upload now = some after) :
    Settles db after record (History.recordOutcome task upload now record) ∧ Book after := by
  simp only [recordOutcome, Table.get_of_mem stored] at recorded
  split at recorded
  · simp at recorded
  · rw [Option.some.injEq] at recorded
    subst recorded
    have status := recordOutcome_status task upload now record
    have isOver : (History.recordOutcome task upload now record).status ≠ .running := by
      rw [status]
      cases task.state <;> simp [AgentTaskState.backupStatus]
    obtain ⟨owner, sameTask⟩ := recordOutcome_sameOwner task upload now record
    have unnamed := book.unnamed stored running
    refine ⟨settles_setRecord _ stored owner isOver sameTask, ?_⟩
    refine book.settle _ stored owned running owner ?_ ?_ ?_
    · intro named
      rw [ArtifactState.recordOutcome_filename] at named
      split at named
      · rename_i succeeded
        simp [produced, status, succeeded, AgentTaskState.backupStatus]
      · simp [unnamed] at named
    · cases state : task.state <;> simp [produced, status, state, AgentTaskState.backupStatus]
    · cases state : task.state <;> simp [fruitless, status, state, AgentTaskState.backupStatus]

/-- Closing a held row without an outcome closes that row only. -/
theorem Held.closes (book : Book db) {runId backupId : Nat} {guest : GuestKey}
    {task : Option String} (held : Held db runId guest backupId task) (status : BackupStatus)
    (isOver : status ≠ .running) (barren : status ≠ .success ∧ status ≠ .deleted)
    (message : String) (now : Instant) : ∃ record closed, record.id = backupId ∧
      record.runId = some runId ∧ record.key = guest ∧
      Settles db (closeBackup db backupId status message now) record closed ∧
      Book (closeBackup db backupId status message now) := by
  obtain ⟨record, stored, rfl, owned, key, running, _⟩ := held
  have closes := closeBackup_settles book stored running status isOver barren message now
  exact ⟨record, _, rfl, owned, key, closes⟩

/-- Recording the outcome of a held row closes that row only. -/
theorem Held.records (book : Book db) {runId backupId : Nat} {guest : GuestKey}
    {known : Option String} (held : Held db runId guest backupId known) {task : AgentTask}
    {upload : Bool} {now : Instant}
    (recorded : recordOutcome db backupId runId task upload now = some after) :
    ∃ record closed, record.id = backupId ∧ record.runId = some runId ∧ record.key = guest ∧
      Settles db after record closed ∧ Book after := by
  obtain ⟨record, stored, rfl, owned, key, running, _⟩ := held
  exact ⟨record, _, rfl, owned, key, recordOutcome_settles book stored running owned recorded⟩

/-- The run a row of a run is recovered for is its own. -/
theorem contextFor_owner {config : Config} (book : Book db) (stored : record ∈ db.history)
    (running : record.status = .running) {runId : Nat} {upload : Bool}
    (context : contextFor config db record.id = some (runId, upload)) :
    record.runId = some runId := by
  obtain ⟨owner, owned⟩ := Option.isSome_iff_exists.mp (book.owned record stored running)
  obtain ⟨run, runStored, rfl, _⟩ := book.known record stored owner owned
  simp only [contextFor, Table.get_of_mem stored, Option.bind_some, owned,
    Table.get_of_mem runStored, Option.map_eq_some_iff, Prod.mk.injEq] at context
  obtain ⟨options, _, named, _⟩ := context
  rw [owned, named]

/-- A write of other tables keeps the book. -/
theorem Book.congr (book : Book db) (runs : after.runs = db.runs)
    (history : after.history = db.history) : Book after := by
  obtain ⟨⟨known, single, named, owned⟩, tallied⟩ := book
  rw [← history] at known single named owned tallied
  rw [← runs] at known tallied
  exact ⟨⟨known, single, named, owned⟩, tallied⟩

/-- A writer of finished rows keeps the book. -/
theorem Book.writeHistory (book : Book db) {write : HistoryWrite} (stored : record ∈ db.history)
    (applies : write.applies db record = true) :
    Book (Runner.setRecord db record.id write.write write.write_id) := by
  have outcome := HistoryWrite.write_outcome (book.named record stored) applies
  refine book.setRecord write.write_id stored (write.write_sameOwner record).1 ?_ outcome
  intro named
  rw [write.write_filename] at named
  rw [outcome.1]
  exact book.named record stored named

/-- Every run of a row is stored. -/
theorem Book.get_run (book : Book db) (stored : record ∈ db.history) {runId : Nat}
    (owned : record.runId = some runId) :
    ∃ run, db.runs.get runId = some run := by
  obtain ⟨run, runStored, rfl, _⟩ := book.known record stored runId owned
  exact ⟨run, Table.get_of_mem runStored⟩

end Rows

/-! ## Guests after a write -/

section Guests

variable {runId : Nat} {guest : GuestKey}

/-- A guest with a row keeps it. -/
theorem HasRow.grows (has : HasRow db runId guest) (grows : Grows db after) :
    HasRow after runId guest := by
  obtain ⟨row, stored, owned, key⟩ := has
  obtain ⟨later, laterStored, owner, _⟩ := grows.rows row stored
  exact ⟨later, laterStored, owner.runId.trans owned, owner.key.trans key⟩

/-- A settled guest stays settled. -/
theorem Settled.grows (settled : Settled db runId guest) (grows : Grows db after) :
    Settled after runId guest := by
  obtain ⟨row, stored, owned, key, isOver⟩ := settled
  obtain ⟨later, laterStored, owner, stays⟩ := grows.rows row stored
  exact ⟨later, laterStored, owner.runId.trans owned, owner.key.trans key, stays isOver⟩

/-- A settled guest has a row. -/
theorem Settled.hasRow (settled : Settled db runId guest) : HasRow db runId guest := by
  obtain ⟨row, stored, owned, key, _⟩ := settled
  exact ⟨row, stored, owned, key⟩

/-- A guest whose running row is held has a row. -/
theorem Held.hasRow {backupId : Nat} {task : Option String}
    (held : Held db runId guest backupId task) : HasRow db runId guest := by
  obtain ⟨row, stored, _, owned, key, _⟩ := held
  exact ⟨row, stored, owned, key⟩

/-- Where no run gets a row, a guest with a row had one. -/
theorem NoNewRows.hasRow (same : NoNewRows db after) (has : HasRow after runId guest) :
    HasRow db runId guest := by
  obtain ⟨later, stored, owned, key⟩ := has
  obtain ⟨row, rowStored, owner⟩ := same later stored (by simp [owned])
  exact ⟨row, rowStored, owner.runId.symm.trans owned, owner.key.symm.trans key⟩

/-- A held row that is not disturbed is held. -/
theorem Held.undisturbed {backupId : Nat} {task : Option String}
    (held : Held db runId guest backupId task) (same : Undisturbed db after) :
    Held after runId guest backupId task := by
  obtain ⟨row, stored, named, owned, key, running, known⟩ := held
  obtain ⟨later, laterStored, alike⟩ := same.forth row stored
  exact ⟨later, laterStored, alike.owner.id.trans named, alike.owner.runId.trans owned,
    alike.owner.key.trans key, alike.running.mpr running, alike.task.trans known⟩

end Guests

/-! ## The status of a run after a write -/

section Statuses

/-- A rewritten run has the status of its image, and every other run its own. -/
theorem runStatus_setRun (db : Database) {update : BackupRun → BackupRun}
    (leaves : LeavesTally update) (runId other : Nat) :
    runStatus (setRun db runId update leaves.id) other =
      if other = runId then (db.runs.get other).map fun run => (update run).status
      else runStatus db other := by
  have image : (setRun db runId update leaves.id).runs.get other = _ := Table.get_modify leaves.id
  rw [runStatus, image]
  by_cases same : other = runId
  · rw [if_pos same, if_pos same, Option.map_map]
    rfl
  · rw [if_neg same, if_neg same]
    rfl

/-- A stored run that is rewritten has the status of its image. -/
theorem runStatus_setRun_self {update : BackupRun → BackupRun} (leaves : LeavesTally update)
    {runId : Nat} {before given : RunStatus} (stored : runStatus db runId = some before)
    (image : ∀ run, (update run).status = given) :
    runStatus (setRun db runId update leaves.id) runId = some given := by
  obtain ⟨run, found, _⟩ := Option.map_eq_some_iff.mp stored
  rw [runStatus_setRun db leaves, if_pos rfl, found, Option.map_some, image]

/-- Rewriting a run leaves the status of every other one. -/
theorem runStatus_setRun_other {update : BackupRun → BackupRun} (leaves : LeavesTally update)
    {runId other : Nat} (different : other ≠ runId) :
    runStatus (setRun db runId update leaves.id) other = runStatus db other := by
  rw [runStatus_setRun db leaves, if_neg different]

/-- Settling a row and counting it changes the status of no run. -/
theorem runStatus_bumpCounters (db : Database) (runId : Nat) (succeeded : Bool) (other : Nat) :
    runStatus (bumpCounters db runId succeeded) other = runStatus db other := by
  have image : (bumpCounters db runId succeeded).runs.get other = _ :=
    Table.get_modify (bump_id succeeded)
  rw [runStatus, image, runStatus]
  by_cases same : other = runId
  · rw [if_pos same, Option.map_map]
    cases db.runs.get other with
    | none => rfl
    | some run => cases succeeded <;> rfl
  · rw [if_neg same]

/-- Closing a row changes the status of no run. -/
theorem runStatus_closeBackup (db : Database) (backupId : Nat) (status : BackupStatus)
    (message : String) (now : Instant) (other : Nat) :
    runStatus (closeBackup db backupId status message now) other = runStatus db other := by
  unfold closeBackup
  split
  · rfl
  · dsimp only
    split
    · rfl
    · exact runStatus_bumpCounters _ _ _ _

/-- Recording an outcome changes the status of no run. -/
theorem runStatus_recordOutcome {backupId runId : Nat} {task : AgentTask} {upload : Bool}
    {now : Instant} (recorded : recordOutcome db backupId runId task upload now = some after)
    (other : Nat) : runStatus after other = runStatus db other := by
  unfold recordOutcome at recorded
  split at recorded
  · rw [Option.some.injEq] at recorded
    rw [recorded]
  · split at recorded
    · simp at recorded
    · rw [Option.some.injEq] at recorded
      rw [← recorded]
      exact runStatus_bumpCounters _ _ _ _

/-- A requeued run waits again. -/
theorem runStatus_requeue (db : Database) (other : Nat) :
    runStatus { db with runs := db.runs.map requeued requeued_id } other =
      (runStatus db other).map fun status => if status = .running then .queued else status := by
  rw [runStatus, Table.get_map requeued_id, runStatus, Option.map_map, Option.map_map]
  congr 1
  funext run
  simp only [Function.comp_apply, requeued]
  split <;> rfl

/-- A new run changes the status of no stored run. -/
theorem runStatus_createRun {run : BackupRun} (fresh : ∀ other ∈ db.runs, other.id < run.id)
    {other : Nat} {status : RunStatus} (given : runStatus db other = some status) :
    runStatus { db with runs := db.runs.insert run fresh } other = some status := by
  obtain ⟨found, stored, _⟩ := Option.map_eq_some_iff.mp given
  obtain ⟨foundStored, rfl⟩ := Table.get_eq_some.mp stored
  have different : found.id ≠ run.id := (fresh found foundStored).ne
  rw [runStatus, Table.get_insert_of_ne fresh different]
  exact given

/-- Noting when a run started leaves every status. -/
theorem runStatus_started (db : Database) (runId : Nat) (now : Instant) (other : Nat) :
    runStatus (setRun db runId (started now) fun _ => rfl) other = runStatus db other := by
  refine (runStatus_setRun db (started_leavesTally now) runId other).trans ?_
  by_cases same : other = runId
  · rw [if_pos same]
    rfl
  · rw [if_neg same]

/-- A stored run keeps a status. -/
theorem Grows.runStatus (grows : Grows db after) {runId : Nat}
    (stored : (runStatus db runId).isSome = true) : (runStatus after runId).isSome = true := by
  obtain ⟨status, given⟩ := Option.isSome_iff_exists.mp stored
  obtain ⟨run, found, _⟩ := Option.map_eq_some_iff.mp given
  obtain ⟨runStored, rfl⟩ := Table.get_eq_some.mp found
  obtain ⟨later, laterStored, named, _⟩ := grows.runs run runStored
  rw [Runner.runStatus, ← named, Table.get_of_mem laterStored]
  rfl

/-- The oldest queued run is stored and queued. -/
theorem nextQueued_status {run : BackupRun} (found : nextQueued db = some run) :
    runStatus db run.id = some .queued := by
  have stored : run ∈ db.runs := List.mem_of_find?_eq_some found
  have queued := List.find?_some found
  rw [runStatus, Table.get_of_mem stored, Option.map_some]
  simpa using queued

end Statuses

end ProxSync.Runner
