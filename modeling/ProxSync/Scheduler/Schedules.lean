import ProxSync.Scheduler.Firing
/-!
# Schedules and their rows

An expression is checked by the request that brings it, so that whatever is stored has a trigger. A
request reads the rows, decides what it will write and writes later, and then only the columns that
it has changed. What such a write leaves of a row that others have changed in between is made of
columns of both, so that no write of a request about something else can bring an unchecked
expression back.
-/
open ProxSync.Lib

namespace ProxSync.Scheduler.Schedules

open Registration
open Firing (validateCron)

/-! ## The service -/

/-- The libraries, what a job is registered with and how the database writes in lower case. -/
structure Setup (TimeZone Trigger : Type) where
  library : Library TimeZone Trigger
  misfireGraceSeconds : ℕ
  lowered : String → String
  /-- The job that refreshes the inventory. -/
  inventory : Job Trigger

/-- What a request says about a schedule. -/
structure Payload where
  name : String
  enabled : Bool
  cronExpression : String
  timezone : String
  deriving DecidableEq, Repr

/-- How a request about a schedule is refused. -/
inductive Refused
  | notFound (detail : String)
  | conflict (detail : String)
  | raised (raised : Raised)
  deriving DecidableEq, Repr

/-- A row that has no identifier yet. -/
structure Draft where
  name : String
  enabled : Bool
  cronExpression : String
  timezone : String
  nextRunAt : Option Instant
  deriving DecidableEq, Repr

/-- The row of a draft. -/
def Draft.row (draft : Draft) (jobId : ℕ) : Registration.BackupJob :=
  { draft with id := jobId }

variable {TimeZone Trigger : Type}

/-- The row of a schedule. -/
def getJob (rows : Rows) (jobId : ℕ) : Except Refused Registration.BackupJob :=
  match rows.get jobId with
  | none => .error (.notFound s!"No backup job with id {jobId}")
  | some job => .ok job

/-- The row with a name, which is compared in lower case. -/
def getByName (config : Setup TimeZone Trigger) (rows : Rows) (name : String) :
    Option Registration.BackupJob :=
  rows.rows.find? fun row => config.lowered row.name == lower (strip name)

/-- The next instant of a schedule, which has one only while it is enabled. -/
def nextRunAt (library : Library TimeZone Trigger) (expression timezone : String) (enabled : Bool)
    (now : Instant) : Except Raised (Option Instant) :=
  if enabled then nextFireTime library expression timezone now else .ok none

/-- What is stored for a payload whose expression is accepted. -/
def draftOf (library : Library TimeZone Trigger) (payload : Payload) (now : Instant) :
    Except Raised Draft := do
  let expression ← validateCron library payload.cronExpression payload.timezone
  let next ← nextRunAt library expression payload.timezone payload.enabled now
  .ok ⟨payload.name, payload.enabled, expression, payload.timezone, next⟩

/-- How a name that another schedule has is refused. -/
def nameTaken (payload : Payload) : Refused :=
  .conflict s!"A backup job named '{payload.name}' already exists"

/-- What creating a schedule will store. -/
def createJob (config : Setup TimeZone Trigger) (rows : Rows) (payload : Payload)
    (now : Instant) : Except Refused Draft :=
  if (getByName config rows payload.name).isSome then .error (nameTaken payload)
  else (draftOf config.library payload now).mapError .raised

/-- The row that replacing a schedule reads, and what it makes of it. -/
def updateJob (config : Setup TimeZone Trigger) (rows : Rows) (jobId : ℕ) (payload : Payload)
    (now : Instant) : Except Refused (Registration.BackupJob × Registration.BackupJob) := do
  let job ← getJob rows jobId
  if (getByName config rows payload.name).any (·.id != job.id) then .error (nameTaken payload)
  else
    let draft ← (draftOf config.library payload now).mapError .raised
    .ok (job, draft.row job.id)

/-- The row that switching a schedule on or off reads, and what it makes of it. -/
def setEnabled (library : Library TimeZone Trigger) (rows : Rows) (jobId : ℕ) (enabled : Bool)
    (now : Instant) : Except Refused (Registration.BackupJob × Registration.BackupJob) := do
  let job ← getJob rows jobId
  let next ← (nextRunAt library job.cronExpression job.timezone enabled now).mapError .raised
  .ok (job, { job with enabled, nextRunAt := next })

/-- The schedule that is to be deleted. -/
def deleteJob (rows : Rows) (jobId : ℕ) : Except Refused ℕ := do
  let job ← getJob rows jobId
  .ok job.id

/-- The row that a firing reads, and what it makes of it once its run is queued. -/
def fire (library : Library TimeZone Trigger) (rows : Rows) (jobId : ℕ) (now : Instant) :
    Except Raised (Option (Registration.BackupJob × Registration.BackupJob)) :=
  match rows.get jobId with
  | none => .ok none
  | some job =>
    if job.enabled then do
      let next ← nextFireTime library job.cronExpression job.timezone now
      .ok (some (job, { job with nextRunAt := next }))
    else .ok none

/-! ## The database -/

/-- The largest identifier of a row. -/
def maxId : ℕ := 9223372036854775807

/-- What a write leaves of a column: columns that are as they were read are not written. -/
def column {α : Type} [DecidableEq α] (loaded written current : α) : α :=
  if written = loaded then current else written

/-- What a write leaves of a row. -/
def merged (loaded written current : Registration.BackupJob) : Registration.BackupJob :=
  { id := current.id
    name := column loaded.name written.name current.name
    enabled := column loaded.enabled written.enabled current.enabled
    cronExpression := column loaded.cronExpression written.cronExpression current.cronExpression
    timezone := column loaded.timezone written.timezone current.timezone
    nextRunAt := column loaded.nextRunAt written.nextRunAt current.nextRunAt }

/-- Whether a row has a name. -/
def named (rows : Rows) (name : String) : Bool := rows.rows.any (·.name == name)

/-- Write what was changed of a row, unless the row is gone or its new name is that of another. -/
def flush (rows : Rows) (loaded written : Registration.BackupJob) : Option Rows :=
  if written = loaded then some rows
  else if (rows.get loaded.id).isNone then none
  else if written.name ≠ loaded.name ∧ named rows written.name = true then none
  else some (rows.modify loaded.id (merged loaded written) fun _ => rfl)

/-- Add a row, unless its name is taken or the identifiers are used up. -/
def add (rows : Rows) (draft : Draft) : Option Rows :=
  if named rows draft.name = true ∨ maxId < rows.nextKey then none
  else some (rows.append draft.row fun _ => rfl)

/-- Remove a row. -/
def remove (rows : Rows) (jobId : ℕ) : Rows :=
  ⟨rows.rows.filter (·.id != jobId), rows.ascending.sublist List.filter_sublist⟩

/-- Write the next instants of the rows that were read as enabled. -/
def flushAll (rows loaded refreshed : Rows) : Option Rows :=
  (listEnabled loaded).foldlM (fun rows row =>
    match refreshed.get row.id with
    | none => some rows
    | some written => flush rows row written) rows

/-! ## What is accepted -/

variable {config : Setup TimeZone Trigger} {library : Library TimeZone Trigger}
  {rows after first second : Rows} {payload : Payload} {draft : Draft}
  {loaded written row other : Registration.BackupJob} {jobId : ℕ} {enabled : Bool}
  {now : Instant}

/-- What is stored for a payload has a trigger. -/
theorem draftOf_valid (accepted : draftOf library payload now = .ok draft) :
    Valid library (draft.row jobId) := by
  obtain ⟨expression, validated, accepted⟩ := bind_eq_ok.mp accepted
  obtain ⟨next, -, accepted⟩ := bind_eq_ok.mp accepted
  obtain rfl := Except.ok.inj accepted
  have kept : ∃ trigger, buildTrigger library expression payload.timezone = .ok trigger := by
    obtain ⟨trigger, built, same⟩ := bind_eq_ok.mp validated
    obtain rfl := Except.ok.inj same
    exact ⟨trigger, built⟩
  exact kept

/-- The row that is read is the stored one of its id. -/
theorem getJob_eq_ok : getJob rows jobId = .ok row ↔ row ∈ rows ∧ row.id = jobId := by
  unfold getJob
  cases found : rows.get jobId with
  | none =>
    constructor
    · intro same
      cases same
    · rintro ⟨stored, same⟩
      exact absurd same (Table.get_eq_none.mp found row stored)
  | some job =>
    rw [← Table.get_eq_some, found]
    simp

/-- The error of a request leaves no answer. -/
theorem mapError_eq_ok {ε δ α : Type} {raise : ε → δ} {answer : Except ε α} {value : α} :
    answer.mapError raise = .ok value ↔ answer = .ok value := by
  cases answer with
  | error raised => simp [Except.mapError]
  | ok other => simp [Except.mapError]

/-- A row that is accepted is valid. -/
theorem createJob_valid (accepted : createJob config rows payload now = .ok draft) :
    Valid config.library (draft.row jobId) := by
  unfold createJob at accepted
  split at accepted
  · cases accepted
  · exact draftOf_valid (mapError_eq_ok.mp accepted)

/-- Replacing a schedule reads its row and writes a row that has a trigger. -/
theorem updateJob_eq_ok
    (accepted : updateJob config rows jobId payload now = .ok (loaded, written)) :
    loaded ∈ rows ∧ loaded.id = jobId ∧ written.id = loaded.id ∧
      Valid config.library written := by
  obtain ⟨job, read, accepted⟩ := bind_eq_ok.mp accepted
  obtain ⟨stored, named⟩ := getJob_eq_ok.mp read
  split at accepted
  · cases accepted
  · obtain ⟨draft, prepared, accepted⟩ := bind_eq_ok.mp accepted
    obtain ⟨rfl, rfl⟩ := Prod.mk.inj (Except.ok.inj accepted)
    exact ⟨stored, named, rfl, draftOf_valid (mapError_eq_ok.mp prepared)⟩

/-- Two rows are about one expression in one timezone. -/
def SameExpression (first second : Registration.BackupJob) : Prop :=
  first.cronExpression = second.cronExpression ∧ first.timezone = second.timezone

/-- Switching a schedule on or off keeps its expression. -/
theorem setEnabled_eq_ok
    (accepted : setEnabled library rows jobId enabled now = .ok (loaded, written)) :
    SameExpression written loaded := by
  obtain ⟨job, -, accepted⟩ := bind_eq_ok.mp accepted
  obtain ⟨next, -, accepted⟩ := bind_eq_ok.mp accepted
  obtain ⟨rfl, rfl⟩ := Prod.mk.inj (Except.ok.inj accepted)
  exact ⟨rfl, rfl⟩

/-! ## Schedules -/

/-- A row without its next instant. -/
def schedule (row : Registration.BackupJob) : Registration.BackupJob :=
  { row with nextRunAt := none }

/-- Rows that differ in their next instants only. -/
def SameSchedules (first second : Rows) : Prop :=
  first.rows.map schedule = second.rows.map schedule

/-- A row of one table has one of the same schedule in the other. -/
theorem SameSchedules.exists_mem (same : SameSchedules first second) (stored : row ∈ first) :
    ∃ other ∈ second, schedule other = schedule row := by
  have mapped : schedule row ∈ second.rows.map schedule := by
    rw [← show first.rows.map schedule = second.rows.map schedule from same]
    exact List.mem_map_of_mem stored
  exact List.mem_map.mp mapped

/-- A firing leaves the schedule of its row. -/
theorem fire_eq_ok (fired : fire library rows jobId now = .ok (some (loaded, written))) :
    schedule written = schedule loaded := by
  unfold fire at fired
  split at fired
  · cases fired
  · split at fired
    · obtain ⟨next, -, fired⟩ := bind_eq_ok.mp fired
      obtain ⟨rfl, rfl⟩ := Prod.mk.inj (Option.some.inj (Except.ok.inj fired))
      rfl
    · cases fired

/-- What is registered for rows depends on their schedules alone. -/
theorem matches_of_same {grace : ℕ} {jobs : Jobs Trigger} (same : SameSchedules first second)
    (registered_ : Registration.Matches library grace first jobs) :
    Registration.Matches library grace second jobs := by
  have carried {key : String} {job : Job Trigger} {first second : Rows}
      (same : SameSchedules first second)
      (owned : ∃ row ∈ first, row.enabled = true ∧ key = jobKey row.id ∧ ∃ trigger,
        buildTrigger library row.cronExpression row.timezone = .ok trigger ∧
          job = registered grace row trigger) :
      ∃ row ∈ second, row.enabled = true ∧ key = jobKey row.id ∧ ∃ trigger,
        buildTrigger library row.cronExpression row.timezone = .ok trigger ∧
          job = registered grace row trigger := by
    obtain ⟨row, stored, on, spelled, trigger, built, made⟩ := owned
    obtain ⟨other, there, equal⟩ := same.exists_mem stored
    have parts := Registration.BackupJob.mk.inj equal
    refine ⟨other, there, ?_, ?_, trigger, ?_, ?_⟩
    · rw [parts.2.2.1]
      exact on
    · rw [parts.1]
      exact spelled
    · rw [parts.2.2.2.1, parts.2.2.2.2.1]
      exact built
    · rw [made]
      unfold registered
      rw [parts.1, parts.2.1]
  intro key prefixed job
  rw [registered_ key prefixed job]
  constructor
  · exact carried same
  · exact carried (Eq.symm same)

/-! ## Writes -/

/-- A write changes a row in place or nothing. -/
theorem flush_eq_some (wrote : flush rows loaded written = some after) : after = rows ∨
    after = rows.modify loaded.id (merged loaded written) fun _ => rfl := by
  unfold flush at wrote
  split_ifs at wrote
  · exact .inl (Option.some.inj wrote).symm
  · exact .inr (Option.some.inj wrote).symm

/-- A write that keeps the name of its row is made while the row is there. -/
theorem flush_isSome (kept : written.name = loaded.name) (stored : row ∈ rows)
    (same : row.id = loaded.id) : (flush rows loaded written).isSome = true := by
  unfold flush
  have found : rows.get loaded.id = some row := by
    rw [Table.get_eq_some]
    exact ⟨stored, same⟩
  split_ifs with unchanged gone taken
  · rfl
  · rw [found] at gone
    cases gone
  · exact absurd kept taken.1
  · rfl

/-- A column that was not changed keeps what is stored. -/
theorem column_self {α : Type} [DecidableEq α] (value current : α) :
    column value value current = current := if_pos rfl

/-- A row with the expression of a valid one is valid. -/
theorem SameExpression.valid (same : SameExpression row other) (valid : Valid library other) :
    Valid library row := by
  obtain ⟨trigger, built⟩ := valid
  refine ⟨trigger, ?_⟩
  rw [same.1, same.2]
  exact built

/-- A write that is not about the expression leaves the expression that is stored. -/
theorem merged_of_unchanged (unchanged : SameExpression written loaded) :
    SameExpression (merged loaded written row) row := by
  constructor
  · exact if_pos unchanged.1
  · exact if_pos unchanged.2

/-- A write over the expression that was read leaves the expression that is written. -/
theorem merged_of_current (current : SameExpression row loaded) :
    SameExpression (merged loaded written row) written := by
  have replaced {α : Type} [DecidableEq α] {loaded written current : α} (same : current = loaded) :
      column loaded written current = written := by
    unfold column
    split
    · rename_i unchanged
      rw [same, unchanged]
    · rfl
  exact ⟨replaced current.1, replaced current.2⟩

/-- A write of a next instant keeps the schedules. -/
theorem sameSchedules_flush (kept : schedule written = schedule loaded)
    (wrote : flush rows loaded written = some after) : SameSchedules after rows := by
  rcases flush_eq_some wrote with rfl | rfl
  · rfl
  · have parts := Registration.BackupJob.mk.inj kept
    have image (current : Registration.BackupJob) :
        schedule (merged loaded written current) = schedule current := by
      unfold merged schedule
      rw [parts.2.1, parts.2.2.1, parts.2.2.2.1, parts.2.2.2.2.1]
      simp only [column_self]
    unfold SameSchedules Table.modify
    rw [List.map_map]
    apply List.map_congr_left
    intro current _
    show schedule (if _ then _ else _) = _
    split
    · exact image current
    · rfl

/-- The rows that are left are those of other ids. -/
theorem mem_remove : row ∈ remove rows jobId ↔ row ∈ rows ∧ row.id ≠ jobId := by
  show row ∈ List.filter _ _ ↔ _
  rw [List.mem_filter, bne_iff_ne]
  rfl

/-- What is added has a name of its own and an identifier that is not used up. -/
theorem add_eq_some (added : add rows draft = some after) : rows.nextKey ≤ maxId ∧
    ∀ row, row ∈ after ↔ row ∈ rows ∨ row = draft.row rows.nextKey := by
  unfold add at added
  split at added
  · cases added
  · rename_i free
    obtain rfl := Option.some.inj added
    exact ⟨Nat.not_lt.mp (not_or.mp free).2, fun row => Table.mem_append _⟩

end ProxSync.Scheduler.Schedules
