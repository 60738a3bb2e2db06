import ProxSync.Runner.Progress
/-!
# Requests for a run of a job

A schedule that fires and an operator who presses the button both ask for a run of a job: the job is
read, its active run is looked for, its guests are resolved against the inventory, and only then is
the run stored and committed. The steps of two requests interleave with each other, with the
executor and with the cancellation of runs, and the process may die between any two of them.
-/
open ProxSync.Lib ProxSync.Retention ProxSync.History

namespace ProxSync.Runner.Requests

/-- How a job selects its guests. -/
inductive TargetSelector
  | all
  | including
  | excluding
  deriving DecidableEq, Repr

/-- A guest of the inventory. -/
structure Guest where
  vmid : Nat
  guestType : GuestType
  name : String
  node : String
  backupEnabled : Bool
  deriving DecidableEq, Repr

/-- The key of a guest. -/
def Guest.key (guest : Guest) : GuestKey := (guest.vmid, guest.guestType)

/-- A job as a request reads it. -/
structure Job where
  id : Nat
  name : String
  enabled : Bool
  targetSelector : TargetSelector
  /-- The guests it names. -/
  targets : List GuestKey
  /-- The options its runs are given. -/
  options : JsonDict
  /-- An id is named once. -/
  distinct : (targets.map Prod.fst).Nodup

/-- Why a request is refused. -/
inductive RequestError
  | conflict (detail : String)
  | validationFailed (detail : String) (skipped : List String)
  deriving DecidableEq, Repr

/-- A request for a run, with what it has read. -/
inductive Request
  | asking (job : Job) (trigger : TriggerType)
  /-- No active run was found. -/
  | resolving (job : Job) (trigger : TriggerType)
  | creating (job : Job) (trigger : TriggerType) (targets : Targets)

/-- The executor with its database, the jobs, the requests in flight and the refusals. -/
structure State where
  runner : Runner.State
  jobs : Table Job.id
  requests : Nat → Option Request
  refused : List (Nat × RequestError)

/-- What may happen next; a request is known by a number. -/
inductive Action
  | executor (action : Runner.Action)
  | crash
  /-- Jobs are created, edited and deleted. -/
  | changeJobs (jobs : Table Job.id)
  | fire (request jobId : Nat)
  | runNow (request jobId : Nat)
  | check (request : Nat)
  | resolve (request : Nat) (inventory : List Guest)
  | commit (request runId : Nat)
  /-- A request is rolled back. -/
  | drop (request : Nat)

/-! ## Targets -/

/-- Put a guest under its key, in place of an earlier one. -/
def putGuest (guests : List Guest) (guest : Guest) : List Guest :=
  if guests.any fun other => other.key == guest.key then
    guests.map fun other => if other.key = guest.key then guest else other
  else guests ++ [guest]

/-- The guests that may be backed up, one for each key. -/
def enabledGuests (inventory : List Guest) : List Guest :=
  (inventory.filter Guest.backupEnabled).foldl putGuest []

/-- The guests a job selects. -/
def selectGuests (job : Job) (inventory : List Guest) : List Guest :=
  let enabled := enabledGuests inventory
  match job.targetSelector with
  | .all => enabled
  | .excluding => enabled.filter fun guest => !job.targets.contains guest.key
  | .including => job.targets.filterMap fun key => enabled.find? fun guest => guest.key == key

/-- Why a named guest is not backed up. -/
def skipReason (inventory : List Guest) (key : GuestKey) : String :=
  match inventory.find? fun guest => guest.key == key with
  | none => s!"{key.2.value} {key.1}: no longer in the inventory"
  | some guest => s!"{key.2.value} {key.1} ({guest.name}): not enabled for backup"

/-- The named guests that are left out, with the reasons. -/
def skipped (job : Job) (inventory : List Guest) : List String :=
  match job.targetSelector with
  | .including =>
    (job.targets.filter fun key => (enabledGuests inventory).all fun guest => guest.key != key).map
      (skipReason inventory)
  | _ => []

/-- A guest as a target of a run. -/
def resolveGuest (guest : Guest) : ResolvedTarget :=
  ⟨guest.vmid, guest.guestType, guest.name, guest.node⟩

/-- Putting a guest under its key keeps the keys distinct. -/
theorem putGuest_nodup {guests : List Guest} (distinct : (guests.map Guest.key).Nodup)
    (guest : Guest) : ((putGuest guests guest).map Guest.key).Nodup := by
  unfold putGuest
  split
  · have same : (fun other : Guest => (if other.key = guest.key then guest else other).key) =
        Guest.key := by
      funext other
      by_cases named : other.key = guest.key <;> simp [named]
    rw [List.map_map]
    exact (congrArg (fun keys => (guests.map keys).Nodup) same).mpr distinct
  · rename_i absent
    have apart : guest.key ∉ guests.map Guest.key := by
      simpa [List.any_eq_true] using absent
    rw [List.map_append, List.map_singleton]
    exact distinct.append (List.nodup_singleton _) (List.disjoint_singleton.mpr apart)

/-- One guest is enabled for each key. -/
theorem enabledGuests_nodup (inventory : List Guest) :
    ((enabledGuests inventory).map Guest.key).Nodup := by
  unfold enabledGuests
  generalize inventory.filter Guest.backupEnabled = rest
  have start : (([] : List Guest).map Guest.key).Nodup := List.nodup_nil
  generalize ([] : List Guest) = guests at start
  induction rest generalizing guests with
  | nil => exact start
  | cons guest rest ih => exact ih (putGuest guests guest) (putGuest_nodup start guest)

/-- Guests that are looked up by key come in the order of the keys. -/
theorem filterMap_find_sublist (guests : List Guest) (keys : List GuestKey) :
    ((keys.filterMap fun key => guests.find? fun guest => guest.key == key).map
      Guest.key).Sublist keys := by
  induction keys with
  | nil => exact .slnil
  | cons key rest ih =>
    rw [List.filterMap_cons]
    split
    · exact ih.cons key
    · rename_i guest found
      have named : guest.key = key := by simpa using List.find?_some found
      rw [List.map_cons, named]
      exact ih.cons_cons key

/-- A job selects a guest once. -/
theorem selectGuests_nodup (job : Job) (inventory : List Guest) :
    ((selectGuests job inventory).map Guest.key).Nodup := by
  unfold selectGuests
  have enabled := enabledGuests_nodup inventory
  cases job.targetSelector with
  | all => exact enabled
  | excluding => exact enabled.sublist (List.filter_sublist.map Guest.key)
  | including =>
    have named : job.targets.Nodup := .of_map Prod.fst job.distinct
    exact named.sublist (filterMap_find_sublist _ job.targets)

/-- Resolving a guest keeps its key. -/
theorem resolveGuest_nodup {guests : List Guest} (distinct : (guests.map Guest.key).Nodup) :
    ((guests.map resolveGuest).map ResolvedTarget.key).Nodup := by
  rw [List.map_map]
  exact distinct

/-- The targets of a run of a job. -/
def resolveJobTargets (job : Job) (inventory : List Guest) : Targets where
  list := (selectGuests job inventory).map resolveGuest
  distinct := resolveGuest_nodup (selectGuests_nodup job inventory)

/-! ## Steps -/

/-- A run that is queued or in flight for a job. -/
def activeFor (jobId : Nat) (run : BackupRun) : Bool :=
  run.jobId == some jobId && !run.status.isTerminal

/-- The first active run of a job. -/
def activeForJob (db : Database) (jobId : Nat) : Option BackupRun :=
  db.runs.rows.find? (activeFor jobId)

/-- The refusal of a request for a job that has an active run. -/
def alreadyRunning (job : Job) (run : BackupRun) : RequestError :=
  .conflict (s!"Job '{job.name}' already has run #{run.id} in progress. " ++
    "Wait for it to finish, or cancel it first.")

/-- The refusal of a request for a job that selects no guest. -/
def resolvesToNothing (job : Job) (skipped : List String) : RequestError :=
  let listed := String.intercalate "; " skipped
  let detail := if listed.isEmpty then "no guests are enabled for backup" else listed
  .validationFailed s!"Job '{job.name}' resolves to no guests: {detail}" skipped

/-- A run whose job is deleted keeps no job. -/
def detach (jobs : Table Job.id) (run : BackupRun) : BackupRun :=
  if run.jobId.all fun jobId => (jobs.get jobId).isSome then run else { run with jobId := none }

/-- A run that loses its job keeps its id. -/
theorem detach_id (jobs : Table Job.id) (run : BackupRun) : (detach jobs run).id = run.id := by
  unfold detach
  split <;> rfl

namespace State

/-- Take up a request, or let go of it. -/
def track (state : State) (request : Nat) (progress : Option Request) : State :=
  { state with requests := Function.update state.requests request progress }

/-- Answer a request with an error. -/
def refuse (state : State) (request : Nat) (jobId : Nat) (error : RequestError) : State :=
  { state.track request none with refused := (jobId, error) :: state.refused }

/-- Take up a request for a job. -/
def ask (state : State) (request : Nat) (job : Job) (trigger : TriggerType) : Option State :=
  match state.requests request with
  | none => if state.runner.serving then some (state.track request (some (.asking job trigger)))
    else none
  | some _ => none

end State

/-- Whether an action of the executor's system is not one of those that this system splits. -/
def isOwn : Runner.Action → Bool
  | .createRun _ (some _) _ _ _ | .crash => false
  | _ => true

/-- The effect of one action, or nothing where it cannot happen. -/
def step (config : Config) (state : State) : Action → Option State
  | .executor action =>
    if isOwn action then
      (Runner.step config state.runner action).map fun runner => { state with runner := runner }
    else none
  | .crash =>
    (Runner.step config state.runner .crash).map fun runner =>
      { state with runner := runner, requests := fun _ => none }
  | .changeJobs jobs =>
    let runs := state.runner.db.runs.map (detach jobs) (detach_id jobs)
    some { state with
      runner := state.runner.commit { state.runner.db with runs } state.runner.phase, jobs := jobs }
  | .fire request jobId =>
    match state.jobs.get jobId with
    | some job => if job.enabled then state.ask request job .schedule else none
    | none => none
  | .runNow request jobId => (state.jobs.get jobId).bind fun job => state.ask request job .manual
  | .check request =>
    match state.requests request with
    | some (.asking job trigger) =>
      match activeForJob state.runner.db job.id with
      | some run => some (state.refuse request job.id (alreadyRunning job run))
      | none => some (state.track request (some (.resolving job trigger)))
    | _ => none
  | .resolve request inventory =>
    match state.requests request with
    | some (.resolving job trigger) =>
      let targets := resolveJobTargets job inventory
      if targets.list.isEmpty then
        some (state.refuse request job.id (resolvesToNothing job (skipped job inventory)))
      else some (state.track request (some (.creating job trigger targets)))
    | _ => none
  | .commit request runId =>
    match state.requests request with
    | some (.creating job trigger targets) =>
      -- The job of a run has to exist, or the insert is rejected.
      if (state.jobs.get job.id).isSome then
        (Runner.step config state.runner
          (.createRun runId (some job.id) trigger targets (some job.options))).map fun runner =>
            { state.track request none with runner := runner }
      else none
    | _ => none
  | .drop request => some (state.track request none)

/-- The requests of a new installation. -/
def system (config : Config) : System State Action where
  init state := state = ⟨⟨.empty, .down, [], false, [], []⟩, .empty, fun _ => none, []⟩
  step := step config

/-- At most one run of a job is queued or in flight. -/
def SingleRun (state : State) : Prop :=
  ∀ jobId, state.runner.db.runs.count (activeFor jobId) ≤ 1

/-- Whether what a request or a claim read is still so when it commits: the job has no active run,
the run is on the queue. -/
def unraced (state : State) : Action → Bool
  | .commit request _ =>
    match state.requests request with
    | some (.creating job _ _) => (activeForJob state.runner.db job.id).isNone
    | _ => true
  | .executor (.claimCommit _) =>
    match state.runner.phase with
    | .claiming runId => runStatus state.runner.db runId == some .queued
    | _ => true
  | _ => true

/-- A request commits only while its job has no active run, and a claim only while the run it read
is on the queue. -/
def Unraced (state : State) (action : Action) : Prop := unraced state action = true

instance (state : State) (action : Action) : Decidable (Unraced state action) :=
  inferInstanceAs (Decidable (_ = true))

/-! ## The executor activates no run -/

section Executor

variable {config : Config} {before after : Runner.State} {action : Runner.Action}

/-- No job has more active runs. -/
def Calms (before after : Database) : Prop :=
  ∀ jobId, after.runs.count (activeFor jobId) ≤ before.runs.count (activeFor jobId)

/-- Where nothing changes, no job has more active runs. -/
theorem Calms.refl (db : Database) : Calms db db := fun _ => le_rfl

/-- Rewriting one run activates none if it leaves the job and ends the run or leaves it active. -/
theorem calms_setRun {db : Database} {runId : Nat} {update : BackupRun → BackupRun}
    (keeps : ∀ run, (update run).id = run.id) (job : ∀ run, (update run).jobId = run.jobId)
    (status : ∀ run ∈ db.runs, run.id = runId → (update run).status.isTerminal = false →
      run.status.isTerminal = false) : Calms db (setRun db runId update keeps) := by
  intro jobId
  apply Table.count_modify_le keeps
  intro run stored named active
  obtain ⟨own, live⟩ := Bool.and_eq_true_iff.mp active
  have unfinished := status run stored named (by simpa using live)
  rw [job] at own
  rw [activeFor, own, unfinished, Bool.not_false, Bool.and_true]

/-- Counting a guest activates no run. -/
theorem calms_bumpCounters (db : Database) (runId : Nat) (succeeded : Bool) :
    Calms db (bumpCounters db runId succeeded) := by
  apply calms_setRun
  · exact fun run => by cases succeeded <;> rfl
  · intro run _ _ live
    cases succeeded <;> exact live

/-- Closing a row activates no run. -/
theorem calms_closeBackup (db : Database) (backupId : Nat) (status : BackupStatus)
    (message : String) (now : Instant) : Calms db (closeBackup db backupId status message now) := by
  unfold closeBackup
  split
  · exact .refl db
  · split
    · exact .refl db
    · exact calms_bumpCounters (setRecord db backupId _ _) _ false

/-- Recording an outcome activates no run. -/
theorem calms_recordOutcome {db recorded : Database} {backupId runId : Nat} {task : AgentTask}
    {upload : Bool} {now : Instant}
    (written : recordOutcome db backupId runId task upload now = some recorded) :
    Calms db recorded := by
  unfold recordOutcome at written
  split at written
  · exact Option.some.inj written ▸ .refl db
  · split at written
    · cases written
    · exact Option.some.inj written ▸ calms_bumpCounters (setRecord db backupId _ _) _ _

/-- A status that is about to be written ends its run. -/
def Conclusive (phase : Phase) : Prop :=
  ∀ runId error status exit, phase = .committing runId error status exit →
    status.isTerminal = true

/-- A phase that commits no run is conclusive. -/
theorem conclusive_of_ne {phase : Phase}
    (other : ∀ runId error status exit, phase ≠ .committing runId error status exit) :
    Conclusive phase := fun _ _ _ _ here => absurd here (other _ _ _ _)

/-- A resumed loop commits no run. -/
theorem resumeLoop_conclusive (runId : Nat) (plan : RunPlan) (cancelled : List Nat)
    (stopping : Bool) (rest : List ResolvedTarget) :
    Conclusive (resumeLoop runId plan cancelled stopping rest) := by
  have resumed := resumeLoop_resumed runId plan cancelled stopping rest
  apply conclusive_of_ne
  intro _ _ _ _ here
  rw [here] at resumed
  cases resumed

/-- The executor commits only statuses that end a run. -/
theorem step_conclusive (conclusive : Conclusive before.phase)
    (stepped : Runner.step config before action = some after) : Conclusive after.phase := by
  cases step_moves stepped with
  | decide here decided =>
    intro _ _ _ _ committing
    cases committing
    cases decided with
    | cancelled | crashed => rfl
    | normal => exact summariseRun_isTerminal _ _
  | loadPlan | refuseToSend | refuse | lose | giveUp | record | pollStop =>
    exact resumeLoop_conclusive _ _ _ _ _
  | createRun | importFile | changeRestores | writeHistory | stop | cancelRead | cancelCommit |
    cancelMark | cancelReturn => exact conclusive
  | boot | crash | scan | interruptPending | forget | leave | recover | requeue | claimRead |
    claimCommit | loseRun | rejectPlan | adoptTask | adoptBare | openBackup | send | accept |
    storeTask | query | keepPolling | recordFails | claimFails | handle | die | decideGone |
    finalise | exitLoop =>
    apply conclusive_of_ne
    intro _ _ _ _ here
    cases here

/-- A step of the executor activates no run, if it claims only runs that are on the queue. -/
theorem step_calms (conclusive : Conclusive before.phase) (own : isOwn action = true)
    (queued : ∀ runId now, before.phase = .claiming runId → action = .claimCommit now →
      runStatus before.db runId = some .queued)
    (stepped : Runner.step config before action = some after) : Calms before.db after.db := by
  cases step_moves stepped with
  | @createRun id jobId trigger targets options fresh =>
    cases jobId with
    | some jobId => cases own
    | none =>
      intro jobId
      exact (Table.count_insert fresh _).le
  | interruptPending | forget | refuseToSend | refuse | lose | giveUp =>
    exact calms_closeBackup _ _ _ _ _
  | recover here terminal context recorded => exact calms_recordOutcome recorded
  | record here terminal recorded => exact calms_recordOutcome recorded
  | requeue =>
    intro jobId
    apply Table.count_map_le requeued_id
    intro run stored active
    unfold requeued at active
    split at active
    · rename_i running
      obtain ⟨own, _⟩ := Bool.and_eq_true_iff.mp active
      rw [activeFor, running, own]
      rfl
    · exact active
  | @claimCommit runId now here =>
    apply calms_setRun
    · exact fun _ => rfl
    · intro run stored named _
      obtain ⟨found, isFound, status⟩ := Option.map_eq_some_iff.mp (queued runId now here rfl)
      obtain ⟨there, same⟩ := Table.get_eq_some.mp isFound
      rw [Table.eq_of_key stored there (named.trans same.symm), status]
      rfl
  | @loadPlan runId now =>
    exact calms_setRun (started_leavesTally now).id (fun _ => rfl) fun _ _ _ live => live
  | @finalise runId error status exit now here =>
    apply calms_setRun
    · exact fun _ => rfl
    · intro run _ _ live
      exact absurd (conclusive _ _ _ _ here) (Bool.eq_false_iff.mp live)
  | cancelCommit =>
    apply calms_setRun
    · exact fun _ => rfl
    · intro run _ _ live
      cases live
  | importFile | changeRestores | writeHistory | boot | crash | stop | scan | leave | claimRead |
    loseRun | rejectPlan | adoptTask | adoptBare | openBackup | send | accept | storeTask | query |
    keepPolling | recordFails | pollStop | claimFails | handle | die | decideGone | decide |
    exitLoop | cancelRead | cancelMark | cancelReturn => exact .refl before.db

end Executor

/-! ## One run of a job -/

section Requests

variable {config : Config} {state after : State} {action : Action}

/-- What every reached state satisfies while no commit is raced. -/
structure Sound (state : State) : Prop where
  single : SingleRun state
  conclusive : Conclusive state.runner.phase

/-- Taking up a request writes no run. -/
theorem Sound.ask (sound : Sound state) {request : Nat} {job : Job} {trigger : TriggerType}
    (asked : state.ask request job trigger = some after) : Sound after := by
  unfold State.ask at asked
  split at asked
  · split at asked
    · obtain rfl := Option.some.inj asked
      exact ⟨sound.single, sound.conclusive⟩
    · cases asked
  · cases asked

/-- A job without an active run gets its only one. -/
theorem single_insert (single : SingleRun state) {jobId : Nat}
    (free : activeForJob state.runner.db jobId = none) {run : BackupRun}
    (own : run.jobId = some jobId)
    (fresh : ∀ other ∈ state.runner.db.runs, other.id < run.id) (other : Nat) :
    (state.runner.db.runs.insert run fresh).count (activeFor other) ≤ 1 := by
  rw [Table.count_insert]
  by_cases same : other = jobId
  · have empty : state.runner.db.runs.count (activeFor jobId) = 0 := by
      have absent := List.find?_eq_none.mp free
      exact List.countP_eq_zero.mpr absent
    rw [same, empty]
    split <;> omega
  · have apart : activeFor other run = false := by
      rw [activeFor, own]
      simp [Ne.symm same]
    have alone := single other
    rw [apart]
    simpa using alone

/-- One step that is not raced keeps the state sound. -/
theorem step_sound (sound : Sound state) (allowed : Unraced state action)
    (stepped : step config state action = some after) : Sound after := by
  cases action with
  | executor action =>
    simp only [step] at stepped
    split at stepped
    · rename_i own
      obtain ⟨runner, moved, rfl⟩ := Option.map_eq_some_iff.mp stepped
      have calms : Calms state.runner.db runner.db := by
        apply step_calms sound.conclusive own _ moved
        rintro runId now here rfl
        simpa [Unraced, unraced, here] using allowed
      exact ⟨fun jobId => (calms jobId).trans (sound.single jobId),
        step_conclusive sound.conclusive moved⟩
    · cases stepped
  | crash =>
    simp only [step] at stepped
    obtain ⟨runner, moved, rfl⟩ := Option.map_eq_some_iff.mp stepped
    obtain rfl := Option.some.inj moved
    exact ⟨sound.single, conclusive_of_ne fun _ _ _ _ here => by cases here⟩
  | changeJobs jobs =>
    obtain rfl := Option.some.inj stepped
    refine ⟨fun jobId => ?_, sound.conclusive⟩
    refine (Table.count_map_le (detach_id jobs) ?_).trans (sound.single jobId)
    intro run _ active
    unfold detach at active
    split at active
    · exact active
    · cases active
  | fire request jobId =>
    simp only [step] at stepped
    split at stepped
    · split at stepped
      · exact sound.ask stepped
      · cases stepped
    · cases stepped
  | runNow request jobId =>
    obtain ⟨job, _, asked⟩ := Option.bind_eq_some_iff.mp stepped
    exact sound.ask asked
  | check request =>
    simp only [step] at stepped
    split at stepped
    · split at stepped <;>
        · obtain rfl := Option.some.inj stepped
          exact ⟨sound.single, sound.conclusive⟩
    · cases stepped
  | resolve request inventory =>
    simp only [step] at stepped
    split at stepped
    · split at stepped <;>
        · obtain rfl := Option.some.inj stepped
          exact ⟨sound.single, sound.conclusive⟩
    · cases stepped
  | commit request runId =>
    simp only [step] at stepped
    split at stepped
    · rename_i job trigger targets held
      split at stepped
      · obtain ⟨runner, moved, rfl⟩ := Option.map_eq_some_iff.mp stepped
        have free : activeForJob state.runner.db job.id = none := by
          simpa [Unraced, unraced, held] using allowed
        have conclusive := step_conclusive sound.conclusive moved
        cases step_moves moved with
        | createRun fresh => exact ⟨single_insert sound.single free rfl fresh, conclusive⟩
      · cases stepped
    · cases stepped
  | drop request =>
    obtain rfl := Option.some.inj stepped
    exact ⟨sound.single, sound.conclusive⟩

/-- However requests, the executor, cancellations and restarts interleave, while no request and no
claim commits on what it read and is no longer so, at most one run of a job is queued or in
flight. -/
theorem single_run_of_unraced (reached : (system config).Reachable Unraced state) :
    SingleRun state := by
  have sound : Sound state := by
    apply reached.invariant_alone
    constructor
    · rintro _ rfl
      exact ⟨fun _ => Nat.zero_le 1, conclusive_of_ne fun _ _ _ _ here => by cases here⟩
    · exact fun _ _ _ _ sound allowed stepped => step_sound sound allowed stepped
  exact sound.single

end Requests

/-- A job of every guest. -/
def nightlyJob : Job := ⟨1, "nightly", true, .all, [], .empty, List.nodup_nil⟩

/-- A guest that may be backed up. -/
def webGuest : Guest := ⟨101, .vm, "web", "pve", true⟩

/-- A process that serves requests and has the job. -/
def served : List Action :=
  startUp.map .executor ++ [.changeJobs (.singleton nightlyJob)]

/-- A request that is refused because the run of an earlier one is queued. -/
theorem single_run_refused :
    ∃ state, 1 ≤ state.runner.db.runs.count (activeFor 1) ∧ state.refused ≠ [] ∧
      SingleRun state := by
  obtain ⟨state, reached, shown⟩ : ∃ state,
      (system plainConfig).Reachable Unraced state ∧
        decide (1 ≤ state.runner.db.runs.count (activeFor 1) ∧ state.refused ≠ []) = true := by
    refine System.exists_of_runFrom rfl (served ++ [.fire 1 1, .check 1, .resolve 1 [webGuest],
      .commit 1 1, .runNow 2 1, .check 2]) _ ?_
    decide
  obtain ⟨one, refused⟩ := of_decide_eq_true shown
  exact ⟨state, one, refused, single_run_of_unraced reached⟩

/-- A schedule that fires while an operator's request resolves its guests: both find no active run,
and the job has two. -/
theorem raced_requests_queue_two :
    ¬ ∀ config state, (system config).Reachable System.unguarded state → SingleRun state := by
  intro always
  obtain ⟨state, reached, shown⟩ : ∃ state,
      (system plainConfig).Reachable System.unguarded state ∧
        decide (2 ≤ state.runner.db.runs.count (activeFor 1)) = true := by
    refine System.exists_of_runFrom rfl (served ++ [.runNow 1 1, .fire 2 1, .check 1, .check 2,
      .resolve 1 [webGuest], .resolve 2 [webGuest], .commit 1 1, .commit 2 2]) _ ?_
    decide
  have two := of_decide_eq_true shown
  have one := always plainConfig state reached 1
  omega

end ProxSync.Runner.Requests
