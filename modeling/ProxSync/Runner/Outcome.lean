import ProxSync.Lib.Dealings
import ProxSync.Runner.Progress
/-!
# What the outcome of a backup rests on

A row says that its backup succeeded, failed or was cancelled. That is known when the agent
reported it for the row's task, when the agent refused the start request, or when no request was
sent. A request whose answer was lost may be running on the host, and its row is closed as failed
all the same.
-/
open ProxSync.Lib ProxSync.Retention ProxSync.History

namespace ProxSync.Runner

/-- The task state a status stands for; an archive that was deleted was produced. -/
def outcomeOf : BackupStatus → Option AgentTaskState
  | .success | .deleted => some .success
  | .failed => some .failed
  | .cancelled => some .cancelled
  | .running | .interrupted => none

/-- What a row of a run tells about its start request. -/
def finding (record : BackupHistory) : Option (Finding Nat String AgentTaskState) :=
  if record.runId.isSome then
    (outcomeOf record.status).map fun outcome => ⟨record.id, record.agentTaskId, outcome⟩
  else none

/-- A start request was sent for the row. -/
def asked (journal : List Event) (backupId : Nat) : Bool :=
  journal.any fun
    | .sent _ _ id => id == backupId
    | _ => false

/-- The start requests of the executor and what it learned about them. -/
def dealings (journal : List Event) : Dealings Nat String AgentTaskState where
  asked backupId := asked journal backupId = true
  refused backupId := .refused backupId ∈ journal
  reported backupId taskId state := .reported backupId taskId state ∈ journal

/-- Every outcome of a backup that a run made is known. -/
def BackupsHonest (state : State) : Prop :=
  (dealings state.journal).Honest (· ∈ state.db.history) finding

/-- The answer to a start request is not lost, and a request that is given up before it is sent is
the first one for its row. -/
def hearsAnswer (state : State) : Action → Bool
  | .startReply (.lost _) _ => false
  | .refuseToSend _ _ => match state.phase with
    | .asking _ backupId => !asked state.journal backupId
    | _ => true
  | _ => true

section Rows

variable {db after : Database} {journal : List Event} {record closed : BackupHistory}

/-- A row that tells an outcome is of a run and is over with it. -/
theorem finding_eq_some {found : Finding Nat String AgentTaskState} :
    finding record = some found ↔ record.runId.isSome = true ∧ found.id = record.id ∧
      found.task = record.agentTaskId ∧ outcomeOf record.status = some found.outcome := by
  unfold finding
  split
  · rename_i owned
    constructor
    · intro tells
      obtain ⟨outcome, stands, rfl⟩ := Option.map_eq_some_iff.mp tells
      exact ⟨owned, rfl, rfl, stands⟩
    · rintro ⟨_, named, known, stands⟩
      rw [stands, Option.map_some, ← named, ← known]
  · rename_i unowned
    constructor
    · intro tells
      cases tells
    · rintro ⟨owned, _⟩
      exact absurd owned unowned

/-- A running row tells nothing. -/
theorem finding_of_running (running : record.status = .running) : finding record = none := by
  rw [finding, running]
  split <;> rfl

/-- A row of the same run, task and outcome tells the same. -/
theorem finding_congr {row : BackupHistory} (owner : SameOwner record row)
    (task : row.agentTaskId = record.agentTaskId)
    (same : outcomeOf row.status = outcomeOf record.status) : finding row = finding record := by
  rw [finding, finding, owner.id, owner.runId, task, same]

/-- What is known about a row stays known after an event that does not ask for it. -/
theorem dealings_note {event : Event} {backupId : Nat} (other : asked [event] backupId = false) :
    (dealings journal).Grows (dealings (event :: journal)) backupId where
  asked sent := by
    have split : asked (event :: journal) backupId =
        (asked [event] backupId || asked journal backupId) := by simp [asked]
    change asked (event :: journal) backupId = true at sent
    rw [split, other, Bool.false_or] at sent
    exact sent
  refused := List.mem_cons_of_mem event
  reported _ _ := List.mem_cons_of_mem event

/-- Rows are honest after an event that asks for no start. -/
theorem honest_note (honest : (dealings journal).Honest (· ∈ db.history) finding) {event : Event}
    (other : ∀ backupId, asked [event] backupId = false) :
    (dealings (event :: journal)).Honest (· ∈ db.history) finding :=
  honest.grow fun _ _ found _ => dealings_note (other found.id)

/-- Closing a row with an outcome that is known keeps rows honest. -/
theorem honest_settle (honest : (dealings journal).Honest (· ∈ db.history) finding)
    (settles : Settles db after record closed)
    (known : ∀ outcome, outcomeOf closed.status = some outcome →
      (dealings journal).Supports ⟨record.id, record.agentTaskId, outcome⟩) :
    (dealings journal).Honest (· ∈ after.history) finding := by
  refine honest.carry fun row stored found tells => ?_
  rcases (settles.rows row).mp stored with rfl | ⟨old, _⟩
  · obtain ⟨_, named, task, stands⟩ := finding_eq_some.mp tells
    have supported := known found.outcome stands
    rw [← settles.owner.id, ← settles.task, ← named, ← task] at supported
    exact .inr supported
  · exact .inl ⟨row, old, tells⟩

/-- Closing a row as interrupted keeps rows honest. -/
theorem honest_interrupt (honest : (dealings journal).Honest (· ∈ db.history) finding)
    (settles : Settles db after record closed) (interrupted : closed.status = .interrupted) :
    (dealings journal).Honest (· ∈ after.history) finding := by
  refine honest_settle honest settles fun outcome stands => ?_
  rw [interrupted] at stands
  cases stands

/-- A writer of finished rows leaves what the status of its row stands for. -/
theorem HistoryWrite.write_outcomeOf (book : Book db) {write : HistoryWrite}
    (stored : record ∈ db.history) (applies : write.applies db record = true) :
    outcomeOf (write.write record).status = outcomeOf record.status := by
  have stands : ∀ row, produced row = true → outcomeOf row.status = some .success := by
    intro row yes
    cases status : row.status <;> simp [produced, status] at yes <;> rfl
  rcases write_status (book.named record stored) applies with same | ⟨before, later⟩
  · rw [same]
  · rw [stands record before, stands _ later]

/-- A writer of finished rows keeps rows honest. -/
theorem honest_writeHistory (honest : (dealings journal).Honest (· ∈ db.history) finding)
    (book : Book db) {write : HistoryWrite} (stored : record ∈ db.history)
    (applies : write.applies db record = true) : (dealings journal).Honest
      (· ∈ (setRecord db record.id write.write write.write_id).history) finding := by
  refine honest.carry fun row rowStored found tells => .inl ?_
  rcases (Table.mem_modify_of_mem write.write_id stored).mp rowStored with rfl | ⟨old, _⟩
  · obtain ⟨owner, task⟩ := write.write_sameOwner record
    have told := finding_congr owner task (write.write_outcomeOf book stored applies)
    exact ⟨record, stored, told.symm.trans tells⟩
  · exact ⟨row, old, tells⟩

/-- Accepting a task for a running row keeps rows honest. -/
theorem honest_storeTask (honest : (dealings journal).Honest (· ∈ db.history) finding)
    {taskId : String} {correlationId : Option String} (stored : record ∈ db.history)
    (running : record.status = .running) : (dealings journal).Honest
      (· ∈ (setRecord db record.id (History.storeTask taskId correlationId) fun _ => rfl).history)
      finding := by
  have keeps : ∀ row, (History.storeTask taskId correlationId row).id = row.id := fun _ => rfl
  refine honest.carry fun row rowStored found tells => .inl ?_
  rcases (Table.mem_modify_of_mem keeps stored).mp rowStored with rfl | ⟨old, _⟩
  · have still : (History.storeTask taskId correlationId record).status = .running := running
    rw [finding_of_running still] at tells
    cases tells
  · exact ⟨row, old, tells⟩

/-- What the agent reports is the outcome that is recorded. -/
theorem outcomeOf_backupStatus {reported outcome : AgentTaskState}
    (terminal : reported.isTerminal = true)
    (stands : outcomeOf reported.backupStatus = some outcome) : outcome = reported := by
  cases reported with
  | other => cases terminal
  | interrupted => cases stands
  | success | failed | cancelled => exact (Option.some.inj stands).symm

/-- Recording what the agent reported for the task of a running row keeps rows honest. -/
theorem honest_recordOutcome (honest : (dealings journal).Honest (· ∈ db.history) finding)
    (book : Book db) (stored : record ∈ db.history) (running : record.status = .running)
    {runId : Nat} (owned : record.runId = some runId) {taskId : String}
    (known : record.agentTaskId = some taskId) {task : AgentTask} {upload : Bool} {now : Instant}
    (terminal : task.state.isTerminal = true)
    (recorded : recordOutcome db record.id runId task upload now = some after) :
    (dealings (.reported record.id taskId task.state :: journal)).Honest (· ∈ after.history)
      finding := by
  refine honest_settle (honest_note honest fun _ => rfl)
    (recordOutcome_settles book stored running owned recorded).1 fun outcome stands => ?_
  rw [recordOutcome_status] at stands
  rw [outcomeOf_backupStatus terminal stands]
  exact .reported known List.mem_cons_self

/-- Closing the held row of the current target without an outcome of the agent. -/
theorem honest_closeBackup (honest : (dealings journal).Honest (· ∈ db.history) finding)
    (book : Book db) {runId backupId : Nat} {guest : GuestKey} {task : Option String}
    (held : Held db runId guest backupId task) (status : BackupStatus) (isOver : status ≠ .running)
    (barren : status ≠ .success ∧ status ≠ .deleted) (message : String) (now : Instant)
    (known : ∀ outcome, outcomeOf status = some outcome →
      (dealings journal).Supports ⟨backupId, task, outcome⟩) :
    (dealings journal).Honest (· ∈ (closeBackup db backupId status message now).history)
      finding := by
  obtain ⟨record, stored, rfl, _, _, running, rfl⟩ := held
  exact honest_settle honest
    (closeBackup_settles book stored running status isOver barren message now).1 known

end Rows

section Steps

variable {config : Config} {state after : State} {action : Action}

/-- One step in which no answer is lost keeps the outcomes known. -/
theorem step_honest (sound : Sound state) (honest : BackupsHonest state)
    (hears : hearsAnswer state action = true) (stepped : step config state action = some after) :
    BackupsHonest after := by
  have facts := sound.facts
  have book := sound.book
  cases step_moves stepped with
  | importFile fresh =>
    refine honest.carry fun row stored found tells => .inl ?_
    rcases (Table.mem_insert fresh).mp stored with old | rfl
    · exact ⟨row, old, tells⟩
    · cases tells
  | writeHistory found applies =>
    obtain ⟨stored, rfl⟩ := Table.get_eq_some.mp found
    exact honest_writeHistory honest book stored applies
  | interruptPending here =>
    rw [here] at facts
    obtain ⟨_, _, _, interrupted, settles, _⟩ := facts.interrupts book _ _
    exact honest_interrupt honest settles interrupted
  | forget here =>
    rw [here] at facts
    obtain ⟨_, _, _, interrupted, settles, _⟩ := facts.forgets book _ _
    exact honest_interrupt honest settles interrupted
  | recover here terminal context recorded =>
    rw [here] at facts
    obtain ⟨record, stored, rfl, running, known⟩ := facts.confirmed _ List.mem_cons_self
    have owned := contextFor_owner book stored running context
    exact honest_recordOutcome honest book stored running owned known terminal recorded
  | openBackup here unlisted fresh =>
    refine honest.carry fun row stored found tells => .inl ?_
    rcases (Table.mem_insert fresh).mp stored with old | rfl
    · exact ⟨row, old, tells⟩
    · cases tells
  | @send work backupId here =>
    -- The row that is asked for is running, so it tells nothing yet.
    rw [here] at facts
    obtain ⟨_, held, heldStored, named, _, _, running, _⟩ := facts
    refine honest.grow fun record stored found tells => dealings_note ?_
    obtain ⟨_, isId, _⟩ := finding_eq_some.mp tells
    by_contra own
    have same : backupId = found.id := by simpa [asked] using own
    have equal : record = held :=
      Table.eq_of_key stored heldStored (isId.symm.trans (same.symm.trans named.symm))
    rw [equal, finding_of_running running] at tells
    cases tells
  | @refuseToSend work backupId detail now here =>
    rw [here] at facts
    refine honest_closeBackup honest book facts.2 .failed (by decide) (by decide) _ _
      fun _ _ => .unasked ?_
    have first : asked state.journal backupId = false := by simpa [hearsAnswer, here] using hears
    exact ne_true_of_eq_false first
  | @refuse work backupId detail now here =>
    rw [here] at facts
    have noted : (dealings (.refused backupId :: state.journal)).Honest
        (· ∈ state.db.history) finding := honest_note honest fun _ => rfl
    exact honest_closeBackup noted book facts.2 .failed (by decide) (by decide) _ _
      fun _ _ => .refused List.mem_cons_self
  | lose => cases hears
  | storeTask here =>
    rw [here] at facts
    obtain ⟨_, record, stored, rfl, _, _, running, _⟩ := facts
    exact honest_storeTask honest stored running
  | giveUp here =>
    rw [here] at facts
    exact honest_closeBackup honest book facts.2 .interrupted (by decide) (by decide) _ _ nofun
  | record here terminal recorded =>
    rw [here] at facts
    obtain ⟨_, record, stored, rfl, owned, _, running, known⟩ := facts
    exact honest_recordOutcome honest book stored running owned known terminal recorded
  | recordFails | finalise | cancelCommit | cancelReturn => exact honest_note honest fun _ => rfl
  | createRun | changeRestores | boot | crash | stop | scan | leave | requeue | claimRead |
    claimCommit | loseRun | rejectPlan | loadPlan | adoptTask | adoptBare | accept | query |
    keepPolling | pollStop | claimFails | handle | die | decideGone | decide | exitLoop |
    cancelRead | cancelMark => exact honest

/-- Where no answer to a start request is lost, the outcomes of backups are known. -/
theorem backupsHonest_of_reachable
    (reached : (system config).Reachable
      (fun state action => hearsAnswer state action = true) state) : BackupsHonest state := by
  refine reached.invariant (fun _ => sound_of_reachable) ⟨?_, ?_⟩
  · rintro _ rfl
    exact fun record stored => absurd stored (Table.not_mem_empty record)
  · exact fun _ _ _ sound honest hears stepped => step_honest sound honest hears stepped

end Steps

end ProxSync.Runner
