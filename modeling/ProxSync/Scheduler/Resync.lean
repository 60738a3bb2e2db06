import ProxSync.Lib.System
import ProxSync.Scheduler.Schedules
/-!
# Resyncs

Each commit of a request about a schedule makes a resync due, which reads the rows, writes their
next instants and registers what it has read. Requests, firings and resyncs overlap at every await,
and any of them may fail. Whatever they do, each stored expression has a trigger and each job of the
scheduler an identifier that is read again, so a resync stops in the middle for neither of them; it
does where a row that it has read is gone when it writes.
-/
open ProxSync.Lib

namespace ProxSync.Scheduler.Resync

open Registration Schedules

variable {TimeZone Trigger : Type}

/-! ## The system -/

/-- A request that holds the guard of the retention until it is committed. -/
inductive Guarded
  | update (loaded written : Registration.BackupJob)
  | delete (jobId : ℕ)
  deriving DecidableEq, Repr

/-- What another request or a firing will write. -/
inductive Request
  | create (draft : Draft)
  | setEnabled (loaded written : Registration.BackupJob)
  | fire (loaded written : Registration.BackupJob)
  deriving DecidableEq, Repr

/-- How far a resync has come. -/
inductive Phase
  | starting
  /-- The rows are read, and what is written of them is decided. -/
  | read (loaded refreshed : Rows)
  | stored (loaded : Rows)

/-- Why a resync or a start has stopped in the middle. -/
inductive Halt
  /-- An expression, or the identifier of a job, could not be read. -/
  | unreadable (raised : Raised)
  /-- A row that was to be written is gone. -/
  | staleRow
  /-- The database or something else has failed. -/
  | failed
  deriving DecidableEq, Repr

/-- The rows, the scheduler, and what is under way. -/
structure State (Trigger : Type) where
  rows : Rows
  jobs : Jobs Trigger
  guarded : Option Guarded
  requests : List Request
  /-- Commits whose hooks have not run. -/
  committed : ℕ
  /-- Whether a resync is due. -/
  due : Bool
  resync : Option Phase
  /-- Where resyncs and starts have stopped, the last one first. -/
  halts : List Halt

/-- Requests and firings that arrive, and what is under way going on. -/
inductive Action
  | create (payload : Payload) (now : Instant)
  | update (jobId : ℕ) (payload : Payload) (now : Instant)
  | setEnabled (jobId : ℕ) (enabled : Bool) (now : Instant)
  | delete (jobId : ℕ)
  | fire (jobId : ℕ) (now : Instant)
  | commit (index : ℕ)
  | abort (index : ℕ)
  | commitGuarded
  | abortGuarded
  | announce
  | begin
  | read (now : ℕ → Instant)
  | store
  | register
  | fail
  | restart (now : ℕ → Instant)

/-- The identifier of the job that refreshes the inventory. -/
def inventoryJobId : String := "inventory-refresh"

/-- The rows after the write of a request, unless the database refuses it. -/
def Request.write (rows : Rows) : Request → Option Rows
  | .create draft => add rows draft
  | .setEnabled loaded written | .fire loaded written => flush rows loaded written

/-- Whether the commit of a request makes a resync due. -/
def Request.resyncs : Request → Bool
  | .fire _ _ => false
  | _ => true

/-- The rows after the write of a request that holds the guard. -/
def Guarded.write (rows : Rows) : Guarded → Option Rows
  | .update loaded written => flush rows loaded written
  | .delete jobId => some (remove rows jobId)

/-- Register the enabled rows that were read, up to the first one that raises. -/
def registerAll (config : Setup TimeZone Trigger) (jobs : Jobs Trigger) (loaded : Rows) :
    Jobs Trigger × Option Raised :=
  let wanted := listEnabled loaded
  match attempt (dropUnwanted (wanted.map (·.id))) jobs.keys jobs with
  | (remaining, some raised) => (remaining, some raised)
  | (remaining, none) =>
    attempt (addJob config.library config.misfireGraceSeconds) wanted remaining

/-- A request or a firing goes on with what it will write. -/
def State.await (state : State Trigger) (request : Request) : State Trigger :=
  { state with requests := request :: state.requests }

/-- A resync stops in the middle. -/
def State.halt (state : State Trigger) (halt : Halt) : State Trigger :=
  { state with resync := none, halts := halt :: state.halts }

/-- One step of the requests, of the firings or of a resync. -/
def step (config : Setup TimeZone Trigger) (state : State Trigger) :
    Action → Option (State Trigger)
  | .create payload now =>
    match createJob config state.rows payload now with
    | .error _ => some state
    | .ok draft => some (state.await (.create draft))
  | .setEnabled jobId enabled now =>
    match setEnabled config.library state.rows jobId enabled now with
    | .error _ => some state
    | .ok (loaded, written) => some (state.await (.setEnabled loaded written))
  | .fire jobId now =>
    match fire config.library state.rows jobId now with
    | .ok (some (loaded, written)) => some (state.await (.fire loaded written))
    | _ => some state
  | .update jobId payload now =>
    if state.guarded.isSome then none
    else
      match updateJob config state.rows jobId payload now with
      | .error _ => some state
      | .ok (loaded, written) => some { state with guarded := some (.update loaded written) }
  | .delete jobId =>
    if state.guarded.isSome then none
    else
      match deleteJob state.rows jobId with
      | .error _ => some state
      | .ok jobId => some { state with guarded := some (.delete jobId) }
  | .commit index =>
    match state.requests[index]? with
    | none => none
    | some request =>
      let rest := { state with requests := state.requests.eraseIdx index }
      match request.write state.rows with
      | none => some rest
      | some rows =>
        some { rest with
          rows, committed := if request.resyncs then state.committed + 1 else state.committed }
  | .abort index => some { state with requests := state.requests.eraseIdx index }
  | .commitGuarded =>
    match state.guarded with
    | none => none
    | some request =>
      match request.write state.rows with
      | none => some { state with guarded := none }
      | some rows => some { state with rows, guarded := none, committed := state.committed + 1 }
  | .abortGuarded => some { state with guarded := none }
  | .announce =>
    match state.committed with
    | 0 => none
    | committed + 1 => some { state with committed, due := true }
  | .begin =>
    if state.due then
      match state.resync with
      | none => some { state with due := false, resync := some .starting }
      -- One instance at a time: what comes due during another one is dropped.
      | some _ => some { state with due := false }
    else none
  | .read now =>
    match state.resync with
    | some .starting =>
      match (listEnabled state.rows).foldlM (refresh config.library now) state.rows with
      | .error raised => some (state.halt (.unreadable raised))
      | .ok refreshed => some { state with resync := some (.read state.rows refreshed) }
    | _ => none
  | .store =>
    match state.resync with
    | some (.read loaded refreshed) =>
      match flushAll state.rows loaded refreshed with
      -- A row is gone, so the session is rolled back and raises.
      | none => some (state.halt .staleRow)
      | some rows => some { state with rows, resync := some (.stored loaded) }
    | _ => none
  | .register =>
    match state.resync with
    | some (.stored loaded) =>
      match registerAll config state.jobs loaded with
      | (jobs, none) => some { state with jobs, resync := none }
      | (jobs, some raised) => some (State.halt { state with jobs } (.unreadable raised))
    | _ => none
  | .fail => if state.resync.isSome then some (state.halt .failed) else none
  | .restart now =>
    match syncJobs config.library config.misfireGraceSeconds now state.rows ∅ with
    | .error raised => some (state.halt (.unreadable raised))
    | .ok (rows, jobs) =>
      some { rows, jobs := jobs.assign inventoryJobId config.inventory, guarded := none,
             requests := [], committed := 0, due := false, resync := none,
             halts := state.halts }

/-- The state before the first schedule. -/
def initial (config : Setup TimeZone Trigger) : State Trigger :=
  { rows := .empty, jobs := (∅ : Jobs Trigger).assign inventoryJobId config.inventory,
    guarded := none, requests := [], committed := 0, due := false, resync := none, halts := [] }

/-- Schedules from the first start on. -/
def system (config : Setup TimeZone Trigger) : System (State Trigger) Action where
  init state := state = initial config
  step := step config

/-! ## Rows -/

/-- Every row has a trigger and an identifier that can be read again. -/
def Fine (library : Library TimeZone Trigger) (rows : Rows) : Prop :=
  ∀ row ∈ rows, Valid library row ∧ row.id ≤ maxId

/-- Every row of a table is in another one, with its expression. -/
def Within (first second : Rows) : Prop :=
  ∀ row ∈ first, ∃ other ∈ second, other.id = row.id ∧ SameExpression row other

variable {config : Setup TimeZone Trigger} {library : Library TimeZone Trigger} {grace : ℕ}
  {rows after loaded refreshed first second : Rows} {jobs : Jobs Trigger}
  {row old written : Registration.BackupJob} {draft : Draft}

/-- Rows within fine ones are fine. -/
theorem Fine.within (fine : Fine library second) (within : Within first second) :
    Fine library first := by
  intro row stored
  obtain ⟨other, there, named, same⟩ := within row stored
  obtain ⟨valid, bound⟩ := fine other there
  exact ⟨same.valid valid, named ▸ bound⟩

/-- Rows of the same schedules are within each other. -/
theorem within_of_same (same : SameSchedules first second) : Within first second := by
  intro row stored
  obtain ⟨other, there, equal⟩ := same.exists_mem stored
  have parts := Registration.BackupJob.mk.inj equal
  exact ⟨other, there, parts.1, parts.2.2.2.1.symm, parts.2.2.2.2.1.symm⟩

/-- A write that is not about the expression keeps every row with its expression. -/
theorem within_flush (unchanged : SameExpression written old)
    (wrote : flush rows old written = some after) : Within after rows ∧ Within rows after := by
  rcases flush_eq_some wrote with rfl | rfl
  · have same : Within after after := fun row stored => ⟨row, stored, rfl, rfl, rfl⟩
    exact ⟨same, same⟩
  · constructor
    · intro row stored
      rcases (Table.mem_modify _).mp stored with ⟨current, there, -, rfl⟩ | ⟨there, -⟩
      · exact ⟨current, there, rfl, merged_of_unchanged unchanged⟩
      · exact ⟨row, there, rfl, rfl, rfl⟩
    · intro row stored
      have image := @merged_of_unchanged old written row unchanged
      apply Table.exists_mem_modify _ stored ⟨rfl, rfl, rfl⟩
      intro _
      exact ⟨rfl, image.1.symm, image.2.symm⟩

/-- A write over the expression that was read leaves rows that are fine. -/
theorem fine_flush (fine : Fine library rows) (valid : Valid library written)
    (stored : row ∈ rows) (named : row.id = old.id) (current : SameExpression row old)
    (wrote : flush rows old written = some after) : Fine library after := by
  rcases flush_eq_some wrote with rfl | rfl
  · exact fine
  · intro later listed
    rcases (Table.mem_modify _).mp listed with ⟨other, there, same, rfl⟩ | ⟨there, -⟩
    · have equal : other = row := Table.eq_of_key there stored (same.trans named.symm)
      have bound := (fine other there).2
      subst equal
      exact ⟨(merged_of_current current).valid valid, bound⟩
    · exact fine later there

/-- A valid row that is added leaves the table fine. -/
theorem fine_add (fine : Fine library rows) (valid : Valid library (draft.row rows.nextKey))
    (added : add rows draft = some after) : Fine library after := by
  obtain ⟨bound, members⟩ := add_eq_some added
  intro row stored
  rcases (members row).mp stored with there | rfl
  · exact fine row there
  · exact ⟨valid, bound⟩

/-! ## Refreshing -/

/-- A valid row has a next instant, or none. -/
theorem nextFireTime_of_valid (valid : Valid library row) (now : Instant) :
    ∃ next, nextFireTime library row.cronExpression row.timezone now = .ok next := by
  obtain ⟨trigger, built⟩ := valid
  obtain ⟨zone, resolved, -⟩ := bind_eq_ok.mp built
  refine ⟨library.getNextFireTime trigger none now, ?_⟩
  unfold nextFireTime
  rw [built, resolved]
  rfl

/-- Refreshing rows that have triggers answers, with the same schedules. -/
theorem exists_refreshed (now : ℕ → Instant) {items : List Registration.BackupJob}
    (valid : ∀ row ∈ items, Valid library row) (rows : Rows) : ∃ refreshed,
      items.foldlM (refresh library now) rows = .ok refreshed ∧ SameSchedules refreshed rows := by
  induction items generalizing rows with
  | nil => exact ⟨rows, rfl, rfl⟩
  | cons first rest ih =>
    obtain ⟨here, others⟩ := List.forall_mem_cons.mp valid
    obtain ⟨next, found⟩ := nextFireTime_of_valid here (now first.id)
    have stepped : refresh library now rows first =
        .ok (rows.modify first.id ({ · with nextRunAt := next }) fun _ => rfl) := by
      unfold refresh
      rw [found]
    obtain ⟨refreshed, remaining, same⟩ :=
      ih others (rows.modify first.id ({ · with nextRunAt := next }) fun _ => rfl)
    refine ⟨refreshed, ?_, same.trans ?_⟩
    · rw [List.foldlM_cons]
      exact bind_eq_ok.mpr ⟨_, stepped, remaining⟩
    · unfold Table.modify
      rw [List.map_map]
      apply List.map_congr_left
      intro current _
      show schedule (if _ then _ else _) = _
      split <;> rfl

/-- What a resync writes of a row that it has read is about the schedule of that row. -/
theorem sameSchedules_written (same : SameSchedules refreshed loaded) :
    ∀ row ∈ listEnabled loaded, ∀ written, refreshed.get row.id = some written →
      schedule written = schedule row := by
  intro row listed written found
  obtain ⟨there, named⟩ := Table.get_eq_some.mp found
  obtain ⟨other, stored, equal⟩ := same.exists_mem there
  have parts := Registration.BackupJob.mk.inj equal
  have one : other = row :=
    Table.eq_of_key stored (mem_listEnabled.mp listed).1 (parts.1.trans named)
  rw [← equal, one]

/-- What a resync writes of the rows it has read keeps the schedules. -/
theorem sameSchedules_flushAll (same : SameSchedules refreshed loaded)
    (wrote : flushAll rows loaded refreshed = some after) : SameSchedules after rows := by
  have kept := sameSchedules_written same
  unfold flushAll at wrote
  generalize listEnabled loaded = items at kept wrote
  induction items generalizing rows with
  | nil =>
    rw [List.foldlM_nil] at wrote
    rw [Option.some.inj wrote]
    rfl
  | cons first rest ih =>
    rw [List.foldlM_cons] at wrote
    obtain ⟨middle, stepped, remaining⟩ := Option.bind_eq_some_iff.mp wrote
    have others := ih (fun row inside => kept row (List.mem_cons_of_mem _ inside)) remaining
    apply others.trans
    cases found : refreshed.get first.id with
    | none =>
      rw [found] at stepped
      rw [Option.some.inj stepped]
    | some written =>
      rw [found] at stepped
      exact sameSchedules_flush (kept first List.mem_cons_self written found) stepped

/-- While the schedules are those that were read, a resync can write its rows. -/
theorem flushAll_isSome (same : SameSchedules refreshed loaded)
    (current : SameSchedules rows loaded) :
    (flushAll rows loaded refreshed).isSome = true := by
  have kept := sameSchedules_written same
  have listed : ∀ row ∈ listEnabled loaded, row ∈ loaded :=
    fun row inside => (mem_listEnabled.mp inside).1
  unfold flushAll
  generalize listEnabled loaded = items at kept listed
  induction items generalizing rows with
  | nil => rfl
  | cons first rest ih =>
    have here := listed first List.mem_cons_self
    have others := fun middle (current : SameSchedules middle loaded) => ih current
      (fun row inside => kept row (List.mem_cons_of_mem _ inside))
      (fun row inside => listed row (List.mem_cons_of_mem _ inside))
    rw [List.foldlM_cons]
    cases found : refreshed.get first.id with
    | none => exact others rows current
    | some written =>
      have equal := kept first List.mem_cons_self written found
      obtain ⟨row, there, same⟩ := SameSchedules.exists_mem (Eq.symm current) here
      have one := (Registration.BackupJob.mk.inj same).1
      have named := (Registration.BackupJob.mk.inj equal).2.1
      obtain ⟨middle, wrote⟩ := Option.isSome_iff_exists.mp (flush_isSome named there one)
      dsimp only
      rw [wrote]
      exact others middle ((sameSchedules_flush equal wrote).trans current)

/-- A resync that cannot write what it has read has read a row that is gone. -/
theorem exists_gone (same : SameSchedules refreshed loaded)
    (refused : flushAll rows loaded refreshed = none) :
    ∃ row ∈ loaded, ∀ other ∈ rows, other.id ≠ row.id := by
  have kept := sameSchedules_written same
  have listed : ∀ row ∈ listEnabled loaded, row ∈ loaded :=
    fun row inside => (mem_listEnabled.mp inside).1
  unfold flushAll at refused
  generalize listEnabled loaded = items at kept listed refused
  induction items generalizing rows with
  | nil => cases refused
  | cons first rest ih =>
    have others := fun middle => @ih middle
      (fun row inside => kept row (List.mem_cons_of_mem _ inside))
      (fun row inside => listed row (List.mem_cons_of_mem _ inside))
    rw [List.foldlM_cons] at refused
    cases found : refreshed.get first.id with
    | none =>
      rw [found] at refused
      exact others rows refused
    | some written =>
      rw [found] at refused
      have equal := kept first List.mem_cons_self written found
      cases wrote : flush rows first written with
      | none =>
        refine ⟨first, listed first List.mem_cons_self, fun other there one => ?_⟩
        have made := flush_isSome (Registration.BackupJob.mk.inj equal).2.1 there one
        rw [wrote] at made
        cases made
      | some middle =>
        dsimp only at refused
        rw [wrote] at refused
        obtain ⟨row, read, gone⟩ := others middle refused
        refine ⟨row, read, fun other there one => ?_⟩
        obtain ⟨image, stored, alike⟩ :=
          SameSchedules.exists_mem (Eq.symm (sameSchedules_flush equal wrote)) there
        exact gone image stored ((Registration.BackupJob.mk.inj alike).1.trans one)

/-! ## Registering -/

/-- Every job of the scheduler under a key of a backup job is under that of an identifier that can
be read again. -/
def Keyed (jobs : Jobs Trigger) : Prop :=
  ∀ key job, jobs.lookup key = some job → startsWithPrefix key = true →
    ∃ jobId ≤ maxId, key = jobKey jobId

/-- An id that is not too large is read back. -/
theorem integer_of_le {jobId : ℕ} (bound : jobId ≤ maxId) :
    integer (toString jobId) = .ok (jobId : ℤ) := by
  have short : (Nat.toDigits 10 jobId).length ≤ maxStrDigits := by
    have digits : (Nat.toDigits 10 jobId).length ≤ 19 := by
      apply Nat.toDigits_length 10 jobId 19 (by omega)
      unfold maxId at bound
      omega
    unfold maxStrDigits
    omega
  have read := toOption_integer_toString jobId
  rw [if_pos short] at read
  cases answer : integer (toString jobId) with
  | error invalid =>
    rw [answer] at read
    cases read
  | ok value =>
    rw [answer] at read
    rw [Option.some.inj read]

/-- A key of the scheduler has a job. -/
theorem exists_job {key : String} (inside : key ∈ jobs) : ∃ job, jobs.lookup key = some job :=
  Option.isSome_iff_exists.mp (AList.lookup_isSome.mpr inside)

/-- Rows that are fine are registered, whatever is registered already. -/
theorem exists_synced (fine : Fine library rows) (keyed : Keyed jobs) (now : ℕ → Instant) :
    ∃ after, syncJobs library grace now rows jobs = .ok after ∧ SameSchedules after.1 rows := by
  have valid : ∀ row ∈ listEnabled rows, Valid library row :=
    fun row listed => (fine row (mem_listEnabled.mp listed).1).1
  obtain ⟨refreshed, written, same⟩ := exists_refreshed now valid rows
  have dropped : ∃ remaining, jobs.keys.foldlM
      (dropUnwanted ((listEnabled rows).map (·.id))) jobs = .ok remaining := by
    refine ⟨_, (foldlM_eq_ok (dropUnwanted_eq_ok _)).mpr ⟨?_, rfl⟩⟩
    intro key inside prefixed
    obtain ⟨job, found⟩ := exists_job (AList.mem_keys.mp inside)
    obtain ⟨jobId, bound, rfl⟩ := keyed key job found prefixed
    rw [removePrefix_jobKey]
    exact ⟨jobId, integer_of_le bound⟩
  obtain ⟨remaining, dropped⟩ := dropped
  have added : ∃ placed, (listEnabled rows).foldlM (addJob library grace) remaining =
      .ok placed := by
    refine ⟨_, (foldlM_eq_ok (addJob_eq_ok library grace)).mpr ⟨?_, rfl⟩⟩
    intro row listed raised refused
    obtain ⟨trigger, built⟩ := valid row listed
    rw [built] at refused
    cases refused
  obtain ⟨placed, added⟩ := added
  refine ⟨(refreshed, placed), ?_, same⟩
  unfold syncJobs
  apply bind_eq_ok.mpr ⟨refreshed, written, _⟩
  apply bind_eq_ok.mpr ⟨remaining, dropped, _⟩
  exact bind_eq_ok.mpr ⟨placed, added, rfl⟩

/-- Registering in steps what was read is registering it at once. -/
theorem registerAll_eq {now : ℕ → Instant} {synced : Rows × Jobs Trigger}
    (answered : syncJobs config.library config.misfireGraceSeconds now loaded jobs = .ok synced) :
    registerAll config jobs loaded = (synced.2, none) := by
  unfold syncJobs at answered
  obtain ⟨refreshed, -, answered⟩ := bind_eq_ok.mp answered
  obtain ⟨remaining, dropped, answered⟩ := bind_eq_ok.mp answered
  obtain ⟨placed, added, answered⟩ := bind_eq_ok.mp answered
  obtain rfl := Except.ok.inj answered
  unfold registerAll
  dsimp only
  rw [attempt_of_foldlM dropped]
  exact attempt_of_foldlM added

/-- What a synchronisation of fine rows leaves in the scheduler. -/
theorem synced_matches (fine : Fine library rows) (keyed : Keyed jobs) {now : ℕ → Instant}
    {synced : Rows × Jobs Trigger} (answered : syncJobs library grace now rows jobs = .ok synced) :
    Registration.Matches library grace rows synced.2 ∧ Keyed synced.2 := by
  have matching : Registration.Matches library grace rows synced.2 := by
    apply (matches_iff_replaceable answered).mpr
    intro key inside prefixed row stored on read
    obtain ⟨job, found⟩ := exists_job inside
    obtain ⟨jobId, bound, rfl⟩ := keyed key job found prefixed
    rw [removePrefix_jobKey, integer_of_le bound] at read
    have same : jobId = row.id := Int.ofNat_inj.mp (Except.ok.inj read)
    rw [same]
    exact ⟨rfl, (fine row stored).1⟩
  constructor
  · exact matching
  · intro key job found prefixed
    obtain ⟨row, stored, -, spelled, -⟩ := (matching key prefixed job).mp found
    exact ⟨row.id, (fine row stored).2, spelled⟩

/-! ## What every step keeps -/

variable {state next : State Trigger} {action : Action}

/-- What a request that holds the guard will write fits the rows. -/
def Guarded.Fits (library : Library TimeZone Trigger) (rows : Rows) : Guarded → Prop
  | .update old written => Valid library written ∧
      ∃ row ∈ rows, row.id = old.id ∧ SameExpression row old
  | .delete _ => True

/-- What another request or a firing will write fits any rows. -/
def Request.Fits (library : Library TimeZone Trigger) : Request → Prop
  | .create draft => ∀ jobId, Valid library (draft.row jobId)
  | .setEnabled old written => SameExpression written old
  | .fire old written => schedule written = schedule old

/-- What a resync has read is fine, and it will write next instants only. -/
def Phase.Fits (library : Library TimeZone Trigger) : Phase → Prop
  | .starting => True
  | .read loaded refreshed => Fine library loaded ∧ SameSchedules refreshed loaded
  | .stored loaded => Fine library loaded

/-- What holds whatever overlaps and whatever is lost. -/
structure Sound (config : Setup TimeZone Trigger) (state : State Trigger) : Prop where
  fine : Fine config.library state.rows
  keyed : Keyed state.jobs
  inventory : state.jobs.lookup inventoryJobId = some config.inventory
  guarded : ∀ request, state.guarded = some request → request.Fits config.library state.rows
  requests : ∀ request ∈ state.requests, request.Fits config.library
  resync : ∀ phase, state.resync = some phase → phase.Fits config.library
  calm : ∀ raised, .unreadable raised ∉ state.halts

/-- A request that fits some rows fits later ones that they are within. -/
theorem Guarded.Fits.carry {request : Guarded} (fits : request.Fits library rows)
    (within : Within rows after) : request.Fits library after := by
  cases request with
  | delete jobId => trivial
  | update old written =>
    obtain ⟨valid, row, stored, named, same⟩ := fits
    obtain ⟨later, there, identical, kept⟩ := within row stored
    exact ⟨valid, later, there, identical.trans named, kept.1.symm.trans same.1,
      kept.2.symm.trans same.2⟩

/-- The commit of a request leaves rows that are fine, and no row without its expression. -/
theorem Request.Fits.write {request : Request} (fits : request.Fits library)
    (fine : Fine library rows) (wrote : request.write rows = some after) :
    Fine library after ∧ Within rows after := by
  cases request with
  | create draft =>
    constructor
    · exact fine_add fine (fits _) wrote
    · intro row stored
      exact ⟨row, ((add_eq_some wrote).2 row).mpr (.inl stored), rfl, rfl, rfl⟩
  | setEnabled old written =>
    obtain ⟨back, on⟩ := within_flush fits wrote
    exact ⟨fine.within back, on⟩
  | fire old written =>
    have parts := Registration.BackupJob.mk.inj fits
    obtain ⟨back, on⟩ := within_flush ⟨parts.2.2.2.1, parts.2.2.2.2.1⟩ wrote
    exact ⟨fine.within back, on⟩

/-- The commit of a request that holds the guard leaves rows that are fine. -/
theorem Guarded.Fits.write {request : Guarded} (fits : request.Fits library rows)
    (fine : Fine library rows) (wrote : request.write rows = some after) : Fine library after := by
  cases request with
  | update old written =>
    obtain ⟨valid, row, stored, named, same⟩ := fits
    exact fine_flush fine valid stored named same wrote
  | delete jobId =>
    obtain rfl := Option.some.inj wrote
    intro row listed
    exact fine row (mem_remove.mp listed).1

/-- A request that fits may wait. -/
theorem Sound.await {request : Request} (sound : Sound config state)
    (fits : request.Fits config.library) : Sound config (state.await request) :=
  { sound with requests := List.forall_mem_cons.mpr ⟨fits, sound.requests⟩ }

/-- A request that is over is no longer under way. -/
theorem Sound.withdraw (sound : Sound config state) (index : ℕ) :
    Sound config { state with requests := state.requests.eraseIdx index } :=
  { sound with
    requests := fun request inside => sound.requests request (List.mem_of_mem_eraseIdx inside) }

/-- New rows that are fine and keep every expression are as sound as the old ones. -/
theorem Sound.rewrite (sound : Sound config state) (fine : Fine config.library after)
    (within : Within state.rows after) (committed : ℕ) :
    Sound config { state with rows := after, committed } :=
  { sound with
    fine
    guarded := fun request held => (sound.guarded request held).carry within }

/-- The end of a resync forgets what it has read. -/
theorem Sound.finish (sound : Sound config state) : Sound config { state with resync := none } :=
  { sound with
    resync := by
      intro phase running
      cases running }

/-- A resync may stop for whatever is no expression and no identifier. -/
theorem Sound.halt (sound : Sound config state) {halt : Halt}
    (other : ∀ raised, halt ≠ .unreadable raised) : Sound config (state.halt halt) :=
  { sound.finish with
    calm := by
      intro raised inside
      rcases List.mem_cons.mp inside with same | before
      · exact other raised same.symm
      · exact sound.calm raised before }

/-- The refresh of the inventory is no backup job. -/
theorem inventory_not_prefixed : startsWithPrefix inventoryJobId = false := by decide +kernel

/-- A start reads rows that are fine, so that nothing it does raises. -/
theorem Sound.restarts (sound : Sound config state) (now : ℕ → Instant) (raised : Raised) :
    syncJobs config.library config.misfireGraceSeconds now state.rows ∅ ≠ .error raised := by
  have keyed : Keyed (∅ : Jobs Trigger) := by
    intro key job found
    cases found
  obtain ⟨synced, answered, -⟩ := @exists_synced _ _ config.library config.misfireGraceSeconds _ _
    sound.fine keyed now
  rw [answered]
  intro same
  cases same

/-- A restart leaves the scheduler sound. -/
theorem Sound.restart {now : ℕ → Instant} {synced : Rows × Jobs Trigger}
    (sound : Sound config state)
    (answered : syncJobs config.library config.misfireGraceSeconds now state.rows ∅ = .ok synced) :
    Sound config { initial config with
      rows := synced.1, jobs := synced.2.assign inventoryJobId config.inventory,
      halts := state.halts } := by
  have keyed : Keyed (∅ : Jobs Trigger) := by
    intro key job found
    cases found
  obtain ⟨other, again, same⟩ := @exists_synced _ _ config.library config.misfireGraceSeconds _ _
    sound.fine keyed now
  rw [answered] at again
  obtain rfl := Except.ok.inj again
  have placed := synced_matches sound.fine keyed answered
  constructor
  · exact sound.fine.within (within_of_same same)
  · intro key job found prefixed
    have differ : key ≠ inventoryJobId := by
      rintro rfl
      rw [inventory_not_prefixed] at prefixed
      cases prefixed
    rw [OrderedDict.lookup_assign_ne differ] at found
    exact placed.2 key job found prefixed
  · exact OrderedDict.lookup_assign
  · intro request held
    cases held
  · intro request inside
    cases inside
  · intro phase running
    cases running
  · exact sound.calm

/-- A commit leaves the scheduler sound. -/
theorem Sound.commit {index : ℕ} (sound : Sound config state)
    (stepped : step config state (.commit index) = some next) : Sound config next := by
  simp only [step] at stepped
  cases found : state.requests[index]? with
  | none =>
    rw [found] at stepped
    cases stepped
  | some request =>
    rw [found] at stepped
    have fits := sound.requests request (List.mem_of_getElem? found)
    dsimp only at stepped
    cases wrote : request.write state.rows with
    | none =>
      rw [wrote] at stepped
      obtain rfl := Option.some.inj stepped
      exact sound.withdraw index
    | some rows =>
      rw [wrote] at stepped
      obtain rfl := Option.some.inj stepped
      obtain ⟨fine, within⟩ := fits.write sound.fine wrote
      exact (sound.withdraw index).rewrite fine within _

/-- A commit under the guard leaves the scheduler sound. -/
theorem Sound.commitGuarded (sound : Sound config state)
    (stepped : step config state .commitGuarded = some next) : Sound config next := by
  simp only [step] at stepped
  have freed : Sound config { state with guarded := none } := by
    have none_held : ∀ request, (none : Option Guarded) = some request →
        request.Fits config.library state.rows := by
      intro request held
      cases held
    exact { sound with guarded := none_held }
  cases holder : state.guarded with
  | none =>
    rw [holder] at stepped
    cases stepped
  | some request =>
    rw [holder] at stepped
    dsimp only at stepped
    cases wrote : request.write state.rows with
    | none =>
      rw [wrote] at stepped
      obtain rfl := Option.some.inj stepped
      exact freed
    | some rows =>
      rw [wrote] at stepped
      obtain rfl := Option.some.inj stepped
      have fine := (sound.guarded request holder).write sound.fine wrote
      exact { freed with
        fine
        guarded := by
          intro request held
          cases held }

/-- A resync reads rows that are fine, so that nothing it does raises. -/
theorem Sound.read {now : ℕ → Instant} (sound : Sound config state)
    (stepped : step config state (.read now) = some next) : Sound config next := by
  simp only [step] at stepped
  split at stepped
  · have valid : ∀ row ∈ listEnabled state.rows, Valid config.library row :=
      fun row listed => (sound.fine row (mem_listEnabled.mp listed).1).1
    obtain ⟨refreshed, answered, same⟩ := exists_refreshed now valid state.rows
    rw [answered] at stepped
    obtain rfl := Option.some.inj stepped
    exact { sound with
      resync := by
        intro phase running
        obtain rfl := Option.some.inj running
        exact ⟨sound.fine, same⟩ }
  · cases stepped

/-- A stored next instant leaves the scheduler sound. -/
theorem Sound.store (sound : Sound config state)
    (stepped : step config state .store = some next) : Sound config next := by
  simp only [step] at stepped
  split at stepped
  · rename_i loaded refreshed running
    obtain ⟨fine, same⟩ := sound.resync _ running
    split at stepped
    · obtain rfl := Option.some.inj stepped
      exact sound.halt fun _ same => Halt.noConfusion same
    · rename_i rows wrote
      obtain rfl := Option.some.inj stepped
      have kept := sameSchedules_flushAll same wrote
      have rewritten := sound.rewrite (sound.fine.within (within_of_same kept))
        (within_of_same (Eq.symm kept)) state.committed
      exact { rewritten with
        resync := by
          intro phase running
          obtain rfl := Option.some.inj running
          exact fine }
  · cases stepped

/-- A resync that has stored what it has read registers it. -/
theorem registered_of_stored (sound : Sound config state)
    (running : state.resync = some (.stored loaded)) : ∃ placed,
      registerAll config state.jobs loaded = (placed, none) ∧
        Registration.Matches config.library config.misfireGraceSeconds loaded placed ∧
        Keyed placed ∧ placed.lookup inventoryJobId = some config.inventory := by
  have fine : Fine config.library loaded := sound.resync _ running
  obtain ⟨synced, answered, -⟩ := @exists_synced _ _ config.library config.misfireGraceSeconds _ _
    fine sound.keyed fun _ => 0
  obtain ⟨matching, keyed⟩ := synced_matches fine sound.keyed answered
  refine ⟨synced.2, registerAll_eq answered, matching, keyed, ?_⟩
  rw [lookup_syncJobs_of_not_prefixed answered inventory_not_prefixed]
  exact sound.inventory

/-- A registration leaves the scheduler sound. -/
theorem Sound.register (sound : Sound config state)
    (stepped : step config state .register = some next) : Sound config next := by
  simp only [step] at stepped
  split at stepped
  · rename_i loaded running
    obtain ⟨placed, registered_, -, keyed, inventory⟩ := registered_of_stored sound running
    rw [registered_] at stepped
    obtain rfl := Option.some.inj stepped
    exact { sound.finish with keyed, inventory }
  · cases stepped

/-- Every step keeps the rows fine and the scheduler readable. -/
theorem step_sound (sound : Sound config state) (stepped : step config state action = some next) :
    Sound config next := by
  cases action with
  | create payload now =>
    simp only [step] at stepped
    split at stepped
    · exact Option.some.inj stepped ▸ sound
    · rename_i draft accepted
      obtain rfl := Option.some.inj stepped
      exact sound.await fun jobId => createJob_valid accepted
  | setEnabled jobId enabled now =>
    simp only [step] at stepped
    split at stepped
    · exact Option.some.inj stepped ▸ sound
    · rename_i loaded written accepted
      obtain rfl := Option.some.inj stepped
      exact sound.await (setEnabled_eq_ok accepted)
  | fire jobId now =>
    simp only [step] at stepped
    split at stepped
    · rename_i loaded written fired
      obtain rfl := Option.some.inj stepped
      exact sound.await (fire_eq_ok fired)
    · exact Option.some.inj stepped ▸ sound
  | update jobId payload now =>
    simp only [step] at stepped
    split_ifs at stepped
    split at stepped
    · exact Option.some.inj stepped ▸ sound
    · rename_i loaded written accepted
      obtain rfl := Option.some.inj stepped
      obtain ⟨stored, -, -, valid⟩ := updateJob_eq_ok accepted
      have fits : (Guarded.update loaded written).Fits config.library state.rows :=
        ⟨valid, loaded, stored, rfl, rfl, rfl⟩
      exact { sound with
        guarded := by
          intro request held
          obtain rfl := Option.some.inj held
          exact fits }
  | delete jobId =>
    simp only [step] at stepped
    split_ifs at stepped
    split at stepped
    · exact Option.some.inj stepped ▸ sound
    · obtain rfl := Option.some.inj stepped
      exact { sound with
        guarded := by
          intro request held
          obtain rfl := Option.some.inj held
          trivial }
  | commit index => exact sound.commit stepped
  | abort index =>
    obtain rfl := Option.some.inj stepped
    exact sound.withdraw index
  | commitGuarded => exact sound.commitGuarded stepped
  | abortGuarded =>
    obtain rfl := Option.some.inj stepped
    exact { sound with
      guarded := by
        intro request held
        cases held }
  | announce =>
    simp only [step] at stepped
    split at stepped
    · cases stepped
    · obtain rfl := Option.some.inj stepped
      exact { sound with }
  | begin =>
    simp only [step] at stepped
    split_ifs at stepped
    split at stepped
    · obtain rfl := Option.some.inj stepped
      exact { sound with
        resync := by
          intro phase running
          obtain rfl := Option.some.inj running
          trivial }
    · obtain rfl := Option.some.inj stepped
      exact { sound with }
  | read now => exact sound.read stepped
  | store => exact sound.store stepped
  | register => exact sound.register stepped
  | fail =>
    simp only [step] at stepped
    split_ifs at stepped
    obtain rfl := Option.some.inj stepped
    exact sound.halt fun _ same => Halt.noConfusion same
  | restart now =>
    simp only [step] at stepped
    split at stepped
    · rename_i raised refused
      exact absurd refused (sound.restarts now raised)
    · rename_i rows jobs answered
      obtain rfl := Option.some.inj stepped
      exact sound.restart answered

/-- The scheduler of a new installation is sound. -/
theorem sound_initial : Sound config (initial config) := by
  constructor
  · intro row stored
    cases stored
  · intro key job found prefixed
    have differ : key ≠ inventoryJobId := by
      rintro rfl
      rw [inventory_not_prefixed] at prefixed
      cases prefixed
    unfold initial at found
    rw [OrderedDict.lookup_assign_ne differ] at found
    cases found
  · exact OrderedDict.lookup_assign
  · intro request held
    cases held
  · intro request inside
    cases inside
  · intro phase running
    cases running
  · exact fun _ => List.not_mem_nil

/-- Whatever overlaps and whatever is lost, what is stored can be scheduled. -/
theorem sound_of_reachable (reached : (system config).Reachable System.unguarded state) :
    Sound config state := by
  apply reached.invariant_alone
  constructor
  · rintro state rfl
    exact sound_initial
  · intro state action next _ sound _ stepped
    exact step_sound sound stepped

/-- Whatever overlaps, fails or is lost, every expression that is stored has a trigger, no resync
and no start has stopped at an expression or at the identifier of a job, and a resync that stops
when it writes has read a row that is gone. -/
theorem never_raises (reached : (system config).Reachable System.unguarded state) :
    (∀ raised, .unreadable raised ∉ state.halts) ∧
      (∀ row ∈ state.rows, Valid config.library row) ∧
      ∀ next, step config state .store = some next → next.halts ≠ state.halts →
        ∃ loaded refreshed, state.resync = some (.read loaded refreshed) ∧
          ∃ row ∈ loaded, ∀ other ∈ state.rows, other.id ≠ row.id := by
  have sound := sound_of_reachable reached
  refine ⟨sound.calm, fun row stored => (sound.fine row stored).1, ?_⟩
  intro next stepped stopped
  simp only [step] at stepped
  split at stepped
  · rename_i loaded refreshed running
    obtain ⟨-, same⟩ := sound.resync _ running
    split at stepped
    · rename_i refused
      exact ⟨loaded, refreshed, running, exists_gone same refused⟩
    · obtain rfl := Option.some.inj stepped
      exact absurd rfl stopped
  · cases stepped

/-- A scheduler whose triggers keep their fields. -/
def usual : Setup String (List String) where
  library := oneZone
  misfireGraceSeconds := 3600
  lowered := lower
  inventory := ⟨.refreshInventory, [], [], "", true, 1, none⟩

/-- A schedule that is created and registered. -/
def creating : List Action :=
  [.create ⟨"weekly", true, "0 1 * * 0", "UTC"⟩ 0, .commit 0, .announce, .begin,
    .read fun _ => 0, .store, .register]

/-- A schedule that is deleted after a resync has read it, while another one stays. -/
def vanishing : List Action :=
  [.create ⟨"weekly", true, "0 1 * * 0", "UTC"⟩ 0, .commit 0,
    .create ⟨"daily", true, "0 2 * * *", "UTC"⟩ 0, .commit 0, .announce, .begin,
    .read fun _ => 262800000000, .delete 1, .commitGuarded, .store]

/-- A resync that read a schedule that is gone has stopped, and the one that is left can be
scheduled. -/
theorem never_raises_created : ∃ state, (system usual).Reachable System.unguarded state ∧
    state.rows.rows.length = 1 ∧ state.halts = [.staleRow] ∧
      (∀ raised, .unreadable raised ∉ state.halts) ∧
      ∀ row ∈ state.rows, Valid usual.library row := by
  obtain ⟨state, reached, shown⟩ : ∃ state, (system usual).Reachable System.unguarded state ∧
      (state.rows.rows.length == 1 && state.halts == [.staleRow]) = true :=
    System.exists_of_runFrom (Eq.refl (initial usual)) vanishing _ (by decide +kernel)
  rw [Bool.and_eq_true, beq_iff_eq, beq_iff_eq] at shown
  obtain ⟨unread, valid, -⟩ := never_raises reached
  exact ⟨state, reached, shown.1, shown.2, unread, valid⟩

end ProxSync.Scheduler.Resync
