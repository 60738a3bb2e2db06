import ProxSync.Runner.Progress
/-!
# A running row is followed

A row that is running should belong to a run that will be taken up again, because a restart puts
only running runs back on the queue. The executor keeps this except where it ends a run over a
running row: a shutdown that lands in the poll of the last target falls through to the end of the
loop, the crash handler ends the run whatever its rows are, and a queued run can be cancelled while
a row of an earlier attempt is still running.
-/
open ProxSync.Lib ProxSync.Retention ProxSync.History

namespace ProxSync.Runner

/-- Every running row of a run is of one that is queued or running. -/
def RowsFollowed (db : Database) : Prop :=
  ∀ record ∈ db.history, record.status = .running → ∀ runId, record.runId = some runId →
    runStatus db runId = some .queued ∨ runStatus db runId = some .running

/-- No row of the run is running. -/
def NoRunning (db : Database) (runId : Nat) : Prop :=
  ∀ record ∈ db.history, record.runId = some runId → record.status ≠ .running

instance (db : Database) (runId : Nat) : Decidable (NoRunning db runId) :=
  inferInstanceAs (Decidable (∀ record ∈ db.history, _))

/-- The run in whose loop the executor is. -/
def Phase.looping : Phase → Option Nat
  | .claimed runId => some runId
  | .opening work | .asking work _ | .awaiting work _ | .storing work _ _ | .polling work _ _ _ |
    .querying work _ _ _ => some work.runId
  | _ => none

/-- The run whose loop is over. -/
def Phase.ending : Phase → Option Nat
  | .finalising runId _ | .committing runId _ _ _ => some runId
  | _ => none

/-- The run that is being taken off the queue. -/
def Phase.taking : Phase → Option Nat
  | .claiming runId => some runId
  | _ => none

/-- Another row of the storage carries the name under which the outcome would be recorded. -/
def rejectsOutcome (db : Database) (work : Work) (backupId : Nat) (task : AgentTask)
    (now : Instant) : Bool :=
  (db.history.get backupId).any fun record =>
    nameTaken db (History.recordOutcome task work.plan.options.upload now record)

/-- The action does not end a run over a running row: polling is not stopped at the last target,
the crash handler is entered without a running row of the run, and a queued run that is cancelled
is not in its loop and has no running row. -/
def settlesFirst (config : Config) (state : State) : Action → Bool
  | .pollStop => match state.phase with
    | .polling work _ _ _ => !work.rest.isEmpty
    | _ => true
  | .raise => state.phase.looping.all fun runId => decide (NoRunning state.db runId)
  | .loadPlan _ => match state.phase with
    | .claimed runId => ((state.db.runs.get runId).all fun run => (runOptions config run).isSome) ||
        decide (NoRunning state.db runId)
    | _ => true
  | .taskReply (.task task) now _ => match state.phase with
    | .querying work backupId _ _ =>
      !task.state.isTerminal || !rejectsOutcome state.db work backupId task now
    | _ => true
  | .cancelCommit runId _ => decide (state.phase.looping ≠ some runId) &&
      decide (NoRunning state.db runId)
  | _ => true

/-- Running rows are followed, the run in whose loop the executor is is running, and a run whose
loop is over has no running row. -/
structure Followed (state : State) : Prop where
  rows : RowsFollowed state.db
  looping : ∀ runId, state.phase.looping = some runId → runStatus state.db runId = some .running
  taken : ∀ runId, state.phase.taking = some runId → (runStatus state.db runId).isSome = true
  clear : ∀ runId, state.phase.ending = some runId → NoRunning state.db runId

/-- The executor has no run on its hands. -/
structure Phase.Rests (phase : Phase) : Prop where
  looping : phase.looping = none
  taking : phase.taking = none
  ending : phase.ending = none

/-- No other run is on the executor's hands than before. -/
def Within (later before : Option Nat) : Prop := later = none ∨ later = before

/-- Running rows come from running rows of the same run. -/
def RunningFrom (before after : Database) : Prop :=
  ∀ later ∈ after.history, later.status = .running →
    ∃ record ∈ before.history, record.status = .running ∧ record.runId = later.runId

section Rows

variable {db after : Database}

/-- A run on the executor's hands was so before. -/
theorem Within.eq_some {later before : Option Nat} {runId : Nat} (within : Within later before)
    (here : later = some runId) : before = some runId := by
  rcases within with none | same
  · rw [none] at here
    cases here
  · exact same.symm.trans here

/-- The rows are where they were. -/
theorem RunningFrom.refl (db : Database) : RunningFrom db db :=
  fun later stored running => ⟨later, stored, running, rfl⟩

/-- Where no row is disturbed, running rows were running. -/
theorem Undisturbed.runningFrom (same : Undisturbed db after) (book : Book after) :
    RunningFrom db after := by
  intro later stored running
  obtain ⟨record, recordStored, alike⟩ := same.back later stored (book.owned later stored running)
  exact ⟨record, recordStored, alike.running.mp running, alike.owner.runId.symm⟩

/-- Closing a row starts none. -/
theorem Settles.runningFrom {record closed : BackupHistory}
    (settles : Settles db after record closed) : RunningFrom db after := by
  intro later stored running
  exact ⟨later, (settles.running stored running).1, running, rfl⟩

/-- Storing an accepted task starts no row. -/
theorem runningFrom_storeTask (db : Database) (backupId : Nat) (taskId : String)
    (correlationId : Option String) : RunningFrom db
      (setRecord db backupId (History.storeTask taskId correlationId) fun _ => rfl) := by
  intro later stored running
  have keeps : ∀ row, (History.storeTask taskId correlationId row).id = row.id := fun _ => rfl
  rcases (Table.mem_modify keeps).mp stored with ⟨old, oldStored, _, rfl⟩ | ⟨old, _⟩
  · exact ⟨old, oldStored, running, rfl⟩
  · exact ⟨later, old, running, rfl⟩

/-- A run without running rows gets none. -/
theorem NoRunning.carry {runId : Nat} (none : NoRunning db runId) (back : RunningFrom db after) :
    NoRunning after runId := by
  intro later stored owned running
  obtain ⟨record, recordStored, wasRunning, same⟩ := back later stored running
  exact none record recordStored (same.trans owned) wasRunning

/-- Rows stay followed where their runs stay queued or running. -/
theorem RowsFollowed.carry (rows : RowsFollowed db) (back : RunningFrom db after)
    (stays : ∀ runId, ¬ NoRunning db runId →
      runStatus db runId = some .queued ∨ runStatus db runId = some .running →
      runStatus after runId = some .queued ∨ runStatus after runId = some .running) :
    RowsFollowed after := by
  intro later stored running runId owned
  obtain ⟨record, recordStored, wasRunning, same⟩ := back later stored running
  have mine : record.runId = some runId := same.trans owned
  exact stays runId (fun none => none record recordStored mine wasRunning)
    (rows record recordStored wasRunning runId mine)

/-- A run each of whose targets is settled or untouched has no running row. -/
theorem noRunning_of_settled (book : Book db) {run : BackupRun} (stored : run ∈ db.runs)
    (all : ∀ target ∈ run.targets.list, Settled db run.id target.key ∨
      ¬ HasRow db run.id target.key) : NoRunning db run.id := by
  intro record recordStored owned running
  obtain ⟨other, otherStored, named, listed⟩ := book.known record recordStored run.id owned
  have equal : other = run := Table.eq_of_key otherStored stored named
  obtain ⟨target, isTarget, key⟩ := List.mem_map.mp (equal ▸ listed)
  rcases all target isTarget with ⟨done, doneStored, doneOwned, doneKey, isOver⟩ | absent
  · have same : record = done := book.single record recordStored done doneStored
      (by simp [owned]) (owned.trans doneOwned.symm) (key.symm.trans doneKey.symm)
    exact isOver (same ▸ running)
  · exact absent ⟨record, recordStored, owned, key.symm⟩

/-- Once its current target is settled, a run on track has no running row. -/
theorem OnTrack.noRunning {work : Work} (book : Book db) (track : OnTrack db work)
    (settled : Settled db work.runId work.target.key) : NoRunning db work.runId := by
  obtain ⟨run, stored, named, done, split, before, behind⟩ := track
  rw [← named] at settled before behind ⊢
  refine noRunning_of_settled book stored fun target listed => ?_
  rw [split] at listed
  rcases List.mem_append.mp listed with isDone | isRest
  · exact .inl (before target isDone)
  · rcases List.mem_cons.mp isRest with rfl | later
    · exact .inl settled
    · exact .inr (behind target later).absent

/-- A resumed loop is its own run's only, and takes none. -/
theorem Resumed.looping {runId : Nat} {plan : RunPlan} {cancelled : List Nat}
    {stopping : Bool} {rest : List ResolvedTarget} {phase : Phase}
    (resumed : Resumed runId plan cancelled stopping rest phase) :
    Within phase.looping (some runId) ∧ phase.taking = none := by
  cases resumed with
  | paused | finished => exact ⟨.inl rfl, rfl⟩
  | next => exact ⟨.inr rfl, rfl⟩

/-- A loop that is resumed into its end is of its own run, and the run is cancelled or every
target left is finished. -/
theorem Resumed.ending {runId : Nat} {plan : RunPlan} {cancelled : List Nat}
    {stopping : Bool} {rest : List ResolvedTarget} {phase : Phase}
    (resumed : Resumed runId plan cancelled stopping rest phase) {owner : Nat}
    (ending : phase.ending = some owner) :
    owner = runId ∧ (runId ∈ cancelled ∨ ∀ target ∈ rest, target.key ∈ plan.completed) := by
  cases resumed with
  | paused | next => simp [Phase.ending] at ending
  | finished why => exact ⟨(Option.some.inj ending).symm, why⟩

/-- A stopping loop with a target left is left. -/
theorem resumeLoop_stopping {runId : Nat} {plan : RunPlan} {cancelled : List Nat}
    {rest : List ResolvedTarget} (remaining : rest ≠ []) :
    resumeLoop runId plan cancelled true rest = .idle := by
  cases rest with
  | nil => exact absurd rfl remaining
  | cons => rfl

/-- An outcome that is not recorded was rejected for its name. -/
theorem rejectsOutcome_of_none {work : Work} {backupId : Nat} {task : AgentTask} {now : Instant}
    (rejected : recordOutcome db backupId work.runId task work.plan.options.upload now = none) :
    rejectsOutcome db work backupId task now = true := by
  unfold recordOutcome at rejected
  split at rejected
  · cases rejected
  · rename_i record found
    split at rejected
    · rename_i taken
      rw [rejectsOutcome, found]
      exact taken
    · cases rejected

end Rows

section Steps

variable {config : Config} {state after : State} {action : Action}

/-- Where the executor has no run on its hands, only the rows have to be followed. -/
theorem followed_of_rests (rows : RowsFollowed state.db) (rests : state.phase.Rests) :
    Followed state := by
  refine ⟨rows, fun runId looping => ?_, fun runId taking => ?_, fun runId ending => ?_⟩
  · rw [rests.looping] at looping
    cases looping
  · rw [rests.taking] at taking
    cases taking
  · rw [rests.ending] at ending
    cases ending

/-- What is noted leaves running rows followed. -/
theorem Followed.note (followed : Followed state) (event : Event) : Followed (state.note event) :=
  ⟨followed.rows, followed.looping, followed.taken, followed.clear⟩

/-- A write that starts no row and leaves the status of every run keeps running rows followed. -/
theorem Followed.write (followed : Followed state) {db : Database} {phase : Phase}
    (back : RunningFrom state.db db)
    (statuses : ∀ runId, runStatus db runId = runStatus state.db runId)
    (looping : Within phase.looping state.phase.looping)
    (taking : Within phase.taking state.phase.taking)
    (clear : ∀ runId, phase.ending = some runId →
      state.phase.ending = some runId ∨ NoRunning db runId) :
    Followed (state.commit db phase) := by
  refine ⟨followed.rows.carry back fun runId _ active => ?_, ?_, ?_, ?_⟩
  · change runStatus db runId = _ ∨ runStatus db runId = _
    rw [statuses]
    exact active
  · intro runId current
    exact (statuses runId).trans (followed.looping runId (looping.eq_some current))
  · intro runId taken
    have stored := followed.taken runId (taking.eq_some taken)
    rw [← statuses] at stored
    exact stored
  · intro runId ending
    rcases clear runId ending with before | none
    · exact (followed.clear runId before).carry back
    · exact none

/-- Closing the row of the current target keeps running rows followed. -/
theorem Followed.closeRow (followed : Followed state) {db : Database}
    {record closed : BackupHistory} {work : Work} (book : Book db)
    (settles : Settles state.db db record closed)
    (track : OnTrack state.db work) (owned : record.runId = some work.runId)
    (key : record.key = work.target.key) (here : state.phase.looping = some work.runId)
    (statuses : ∀ runId, runStatus db runId = runStatus state.db runId) :
    Followed (state.commit db (state.nextTarget work)) := by
  have resumed := resumeLoop_resumed work.runId work.plan state.cancelled state.stopping work.rest
  refine followed.write settles.runningFrom statuses ?_ (.inl resumed.looping.2) ?_
  · rw [here]
    exact resumed.looping.1
  · intro runId ending
    rw [(resumed.ending ending).1]
    have tracked := track.carry settles.grows settles.noNewRows
    exact .inr (tracked.noRunning book (key ▸ settles.settled owned))

/-- Closing the held row of the current target without an outcome. -/
theorem Followed.close (followed : Followed state) (sound : Sound state) {work : Work}
    {backupId : Nat} {task : Option String} (track : OnTrack state.db work)
    (held : Held state.db work.runId work.target.key backupId task)
    (here : state.phase.looping = some work.runId) (status : BackupStatus)
    (isOver : status ≠ .running) (barren : status ≠ .success ∧ status ≠ .deleted) (message : String)
    (now : Instant) : Followed (state.close work backupId status message now) := by
  obtain ⟨_, _, _, owned, key, settles, book⟩ :=
    held.closes sound.book status isOver barren message now
  exact followed.closeRow book settles track owned key here
    (runStatus_closeBackup state.db backupId status message now)

/-- Closing a row during recovery keeps running rows followed. -/
theorem Followed.recoverRow (followed : Followed state) {db : Database}
    {record closed : BackupHistory} (pending : List Nat) (adoptable : List (Nat × String))
    (settles : Settles state.db db record closed)
    (statuses : ∀ runId, runStatus db runId = runStatus state.db runId) :
    Followed (state.commit db (.recovering pending adoptable)) :=
  followed.write settles.runningFrom statuses (.inl rfl) (.inl rfl) fun _ ending => by cases ending

/-- A phase in which a failure is handled is in the loop of the run or past its end. -/
theorem Handled.looping_or_ending {phase : Phase} {runId : Nat} (here : Handled phase runId) :
    phase.looping = some runId ∨ phase.ending = some runId := by
  cases here with
  | claimed | opening | asking | awaiting | storing | polling | querying => exact .inl rfl
  | finalising | committing => exact .inr rfl

/-- The crash handler takes over a run without running rows. -/
theorem Followed.crashed (followed : Followed state) {runId : Nat}
    (none : NoRunning state.db runId) : Followed (state.crashed runId) := by
  refine followed.write (.refl state.db) (fun _ => rfl) (.inl rfl) (.inl rfl) ?_
  intro owner ending
  exact .inr (Option.some.inj ending ▸ none)

/-- An executor that stays in the loop of its run leaves running rows followed. -/
theorem Followed.stay (followed : Followed state) {phase : Phase}
    (looping : phase.looping = state.phase.looping) (taking : phase.taking = none)
    (going : phase.ending = none) : Followed (state.goto phase) := by
  refine followed.write (.refl state.db) (fun _ => rfl) (.inr looping) (.inl taking) ?_
  intro owner ending
  rw [going] at ending
  cases ending

/-- Entering the loop of a stored run keeps running rows followed. -/
theorem Followed.loadPlan (followed : Followed state) (sound : Sound state) {runId : Nat}
    {run : BackupRun} {options : RunOptions} {now : Instant} (here : state.phase = .claimed runId)
    (found : state.db.runs.get runId = some run) :
    Followed { state with
      db := setRun state.db runId (started now) fun _ => rfl
      cancelled := state.cancelled.filter fun other => other != runId
      phase := resumeLoop runId (runPlan options run (forRun state.db runId))
        (state.cancelled.filter fun other => other != runId) state.stopping run.targets.list } := by
  obtain ⟨stored, rfl⟩ := Table.get_eq_some.mp found
  let plan := runPlan options run (forRun state.db run.id)
  let cancelled := state.cancelled.filter fun other => other != run.id
  have resumed := resumeLoop_resumed run.id plan cancelled state.stopping run.targets.list
  have kept : Followed (state.commit (setRun state.db run.id (started now) fun _ => rfl)
      (resumeLoop run.id plan cancelled state.stopping run.targets.list)) := by
    refine followed.write (.refl state.db) (runStatus_started state.db run.id now) ?_
      (.inl resumed.looping.2) ?_
    · rw [here]
      exact resumed.looping.1
    · -- The loop is over at once only when every target was settled before.
      intro other ending
      obtain ⟨rfl, requested | all⟩ := resumed.ending ending
      · simp [cancelled] at requested
      · refine .inr (noRunning_of_settled sound.book stored fun target listed => .inl ?_)
        exact (sorted_runPlan options target).finished.mp (all target listed)
  exact ⟨kept.rows, kept.looping, kept.taken, kept.clear⟩

/-- One step that does not end a run over a running row keeps running rows followed. -/
theorem step_followed (sound : Sound state) (followed : Followed state)
    (settled : settlesFirst config state action = true)
    (stepped : step config state action = some after) : Followed after := by
  have facts := sound.facts
  have book := (step_sound sound stepped).book
  have grows := step_grows sound stepped
  cases step_moves stepped with
  | createRun fresh =>
    have back := (Undisturbed.createRun fresh).runningFrom book
    refine ⟨followed.rows.carry back fun _ _ active => ?_, fun runId looping => ?_,
      fun runId taking => ?_, fun runId ending => ?_⟩
    · exact active.imp (runStatus_createRun fresh) (runStatus_createRun fresh)
    · exact runStatus_createRun fresh (followed.looping runId looping)
    · exact grows.runStatus (followed.taken runId taking)
    · exact (followed.clear runId ending).carry back
  | @importFile id artifact fresh =>
    have same : Undisturbed state.db { state.db with
        history := state.db.history.insert (importRow id artifact) fresh } :=
      Undisturbed.importFile fresh
    exact followed.write (same.runningFrom book) (fun _ => rfl) (.inr rfl) (.inr rfl)
      fun _ ending => .inl ending
  | changeRestores => exact ⟨followed.rows, followed.looping, followed.taken, followed.clear⟩
  | writeHistory found applies =>
    obtain ⟨stored, rfl⟩ := Table.get_eq_some.mp found
    have same := Undisturbed.writeHistory sound.book stored applies
    exact followed.write (same.runningFrom book) (fun _ => rfl) (.inr rfl) (.inr rfl)
      fun _ ending => .inl ending
  | stop | cancelRead | cancelMark | cancelReturn =>
    exact ⟨followed.rows, followed.looping, followed.taken, followed.clear⟩
  | interruptPending here =>
    rw [here] at facts
    obtain ⟨_, _, _, _, settles, _⟩ := facts.interrupts sound.book _ _
    exact followed.recoverRow _ _ settles (runStatus_closeBackup _ _ _ _ _)
  | forget here =>
    rw [here] at facts
    obtain ⟨_, _, _, _, settles, _⟩ := facts.forgets sound.book _ _
    exact followed.recoverRow _ _ settles (runStatus_closeBackup _ _ _ _ _)
  | recover here terminal context recorded =>
    rw [here] at facts
    obtain ⟨_, _, _, settles, _⟩ := facts.records sound.book context recorded
    exact (followed.recoverRow _ _ settles (runStatus_recordOutcome recorded)).note _
  | requeue =>
    refine followed_of_rests (followed.rows.carry (Undisturbed.requeue.runningFrom book) ?_)
      ⟨rfl, rfl, rfl⟩
    intro runId _ active
    refine .inl ((runStatus_requeue state.db runId).trans ?_)
    rcases active with queued | running
    · rw [queued]; rfl
    · rw [running]; rfl
  | claimRead _ _ found =>
    refine ⟨followed.rows, fun _ looping => (by cases looping), fun runId taking => ?_,
      fun _ ending => (by cases ending)⟩
    obtain rfl := Option.some.inj taking
    exact Option.isSome_iff_exists.mpr ⟨.queued, nextQueued_status found⟩
  | @claimCommit runId now here =>
    have given : runStatus (setRun state.db runId (claim now) fun _ => rfl) runId =
        some .running := by
      have taking : state.phase.taking = some runId := by rw [here]; rfl
      obtain ⟨status, before⟩ := Option.isSome_iff_exists.mp (followed.taken runId taking)
      exact runStatus_setRun_self (claim_leavesTally now) before fun _ => rfl
    refine ⟨followed.rows.carry (.refl state.db) fun other _ active => ?_, ?_,
      fun _ taking => (by cases taking), fun _ ending => (by cases ending)⟩
    · by_cases same : other = runId
      · exact .inr (same ▸ given)
      · have image : runStatus (setRun state.db runId (claim now) fun _ => rfl) other =
            runStatus state.db other := runStatus_setRun_other (claim_leavesTally now) same
        exact active.imp image.trans image.trans
    · exact fun other looping => Option.some.inj looping ▸ given
  | rejectPlan here stored invalid =>
    refine followed.crashed ?_
    simpa [settlesFirst, here, stored, invalid] using settled
  | @loadPlan runId now run options here stored valid => exact followed.loadPlan sound here stored
  | adoptTask here | adoptBare here | accept here | query here | keepPolling here =>
    exact followed.stay (by rw [here]; rfl) rfl rfl
  | openBackup here unlisted fresh =>
    have looping := fun runId current => followed.looping runId (by rw [here]; exact current)
    refine ⟨?_, looping, fun _ taking => (by cases taking), fun _ ending => (by cases ending)⟩
    intro record stored running runId owned
    rcases (Table.mem_insert fresh).mp stored with old | rfl
    · exact followed.rows record old running runId owned
    · exact .inr (looping runId owned)
  | @send work backupId here =>
    have kept : Followed (state.goto (.awaiting work backupId)) :=
      followed.stay (by rw [here]; rfl) rfl rfl
    exact kept.note _
  | refuseToSend here | lose here =>
    rw [here] at facts
    exact followed.close sound facts.1 facts.2 (by rw [here]; rfl) .failed (by decide) (by decide)
      _ _
  | refuse here =>
    rw [here] at facts
    exact (followed.close sound facts.1 facts.2 (by rw [here]; rfl) .failed (by decide) (by decide)
      _ _).note _
  | storeTask here =>
    refine followed.write (runningFrom_storeTask _ _ _ _) (fun _ => rfl) (.inr ?_) (.inl rfl)
      fun _ ending => by cases ending
    rw [here]
    rfl
  | giveUp here =>
    rw [here] at facts
    exact followed.close sound facts.1 facts.2 (by rw [here]; rfl) .interrupted (by decide)
      (by decide) _ _
  | record here terminal recorded =>
    rw [here] at facts
    obtain ⟨_, _, _, owned, key, settles, closed⟩ := facts.2.records sound.book recorded
    exact (followed.closeRow closed settles facts.1 owned key (by rw [here]; rfl)
      (runStatus_recordOutcome recorded)).note _
  | recordFails here terminal rejected =>
    have conflict := rejectsOutcome_of_none rejected
    simp [settlesFirst, here, terminal, conflict] at settled
  | @pollStop work backupId taskId since here stopped =>
    have remaining : work.rest ≠ [] := by simpa [settlesFirst, here] using settled
    have paused : state.nextTarget work = .idle := by
      rw [State.nextTarget, stopped]
      exact resumeLoop_stopping remaining
    rw [paused]
    exact followed_of_rests followed.rows ⟨rfl, rfl, rfl⟩
  | handle here =>
    refine followed.crashed ?_
    rcases here.looping_or_ending with looping | ending
    · simpa [settlesFirst, looping] using settled
    · exact followed.clear _ ending
  | decide here =>
    refine followed.write (.refl state.db) (fun _ => rfl) (.inl rfl) (.inl rfl) ?_
    exact fun runId ending => .inl (by rw [here]; exact ending)
  | @finalise runId error status exit now here =>
    refine followed_of_rests (followed.rows.carry (.refl state.db) fun other some active => ?_)
      ⟨rfl, rfl, rfl⟩
    have different : other ≠ runId := by
      rintro rfl
      exact some (followed.clear other (by rw [here]; rfl))
    have image : runStatus (setRun state.db runId (finished status error now) fun _ => rfl) other =
        runStatus state.db other :=
      runStatus_setRun_other (finished_leavesTally status error now) different
    exact active.imp image.trans image.trans
  | boot | crash | scan | leave | loseRun | claimFails | die | decideGone | exitLoop =>
    exact followed_of_rests followed.rows ⟨rfl, rfl, rfl⟩
  | @cancelCommit runId now pending =>
    obtain ⟨outside, none⟩ : state.phase.looping ≠ some runId ∧
        NoRunning state.db runId := by simpa [settlesFirst] using settled
    have others : ∀ other, other ≠ runId → runStatus (setRun state.db runId
        (finished .cancelled (some "Cancelled before it started") now) fun _ => rfl) other =
          runStatus state.db other := by
      intro other different
      exact runStatus_setRun_other (finished_leavesTally _ _ now) different
    refine ⟨followed.rows.carry (.refl state.db) fun other some active => ?_, ?_, ?_,
      followed.clear⟩
    · have different : other ≠ runId := fun same => some (same ▸ none)
      exact active.imp (others other different).trans (others other different).trans
    · intro other looping
      have different : other ≠ runId := fun same => outside (same ▸ looping)
      exact (others other different).trans (followed.looping other looping)
    · exact fun other taking => grows.runStatus (followed.taken other taking)

end Steps

/-- Where no step ends a run over a running row, every running row is of a queued or running run. -/
theorem rows_followed (config : Config) (state : State)
    (reached : (system config).Reachable
      (fun state action => settlesFirst config state action = true) state) :
    RowsFollowed state.db := by
  have followed : Followed state := by
    refine reached.invariant (fun _ => sound_of_reachable) ⟨?_, ?_⟩
    · rintro _ rfl
      refine followed_of_rests ?_ ⟨rfl, rfl, rfl⟩
      exact fun record stored => absurd stored (Table.not_mem_empty record)
    · exact fun _ _ _ sound followed settled stepped => step_followed sound followed settled stepped
  exact followed.rows

/-- A shutdown in the poll of the first of two guests leaves its row running, of a running run. -/
theorem rows_followed_after_stop : ∃ state,
    (system plainConfig).Reachable
      (fun state action => settlesFirst plainConfig state action = true) state ∧
      state.phase = .ended ∧
      state.db.history.rows.map BackupHistory.status = [.running] ∧
      state.db.runs.rows.map BackupRun.status = [.running] ∧ RowsFollowed state.db := by
  obtain ⟨state, reached, shown⟩ : ∃ state,
      (system plainConfig).Reachable
        (fun state action => settlesFirst plainConfig state action = true) state ∧
      (decide (state.phase = .ended ∧
        state.db.history.rows.map BackupHistory.status = [.running] ∧
        state.db.runs.rows.map BackupRun.status = [.running])) = true :=
    System.exists_of_runFrom rfl (askAgent twoGuests ++
      [.startReply (.accepted ⟨"task-1", none⟩) 13, .storeTask, .stop, .pollStop, .exitLoop]) _
      (by decide)
  obtain ⟨ended, rows, runs⟩ := of_decide_eq_true shown
  exact ⟨state, reached, ended, rows, runs, rows_followed plainConfig state reached⟩

/-- A shutdown in the poll of the last guest ends the run over its running row. -/
theorem rows_lost_after_stop :
    ¬ ∀ state, (system plainConfig).Reachable System.unguarded state → RowsFollowed state.db := by
  intro always
  obtain ⟨state, reached, shown⟩ : ∃ state,
      (system plainConfig).Reachable System.unguarded state ∧
      (decide (∃ record ∈ state.db.history.rows, record.status = .running ∧
        record.runId = some 1 ∧ runStatus state.db 1 = some .failed)) = true :=
    System.exists_of_runFrom rfl (askAgent oneGuest ++
      [.startReply (.accepted ⟨"task-1", none⟩) 13, .storeTask, .stop, .pollStop, .decide,
        .finalise 30]) _ (by decide)
  obtain ⟨record, stored, running, owned, failed⟩ := of_decide_eq_true shown
  rcases always state reached record stored running 1 owned with queued | running
  · rw [failed] at queued
    cases queued
  · rw [failed] at running
    cases running

end ProxSync.Runner
