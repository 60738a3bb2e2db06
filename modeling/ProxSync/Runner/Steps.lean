import ProxSync.Runner.Executor
/-!
# What a step can do

Every enabled action of the executor, with where it finds the executor and what it leaves. The
invariants of the executor are derived from this list, so that a change of one step function is
met here and in the cases that name it.
-/
open ProxSync.Lib ProxSync.Retention ProxSync.History

namespace ProxSync.Runner

variable {config : Config} {state after : State} {action : Action}

/-- Phases in which an unexpected failure reaches the crash handler, with the run it is for. -/
inductive Handled : Phase → Nat → Prop
  | claimed (runId : Nat) : Handled (.claimed runId) runId
  | opening (work : Work) : Handled (.opening work) work.runId
  | asking (work : Work) (backupId : Nat) : Handled (.asking work backupId) work.runId
  | awaiting (work : Work) (backupId : Nat) : Handled (.awaiting work backupId) work.runId
  | storing (work : Work) (backupId : Nat) (accepted : AgentTaskAccepted) :
      Handled (.storing work backupId accepted) work.runId
  | polling (work : Work) (backupId : Nat) (taskId : String) (since : Option Nat) :
      Handled (.polling work backupId taskId since) work.runId
  | querying (work : Work) (backupId : Nat) (taskId : String) (since : Option Nat) :
      Handled (.querying work backupId taskId since) work.runId
  | finalising (runId : Nat) : Handled (.finalising runId none) runId
  | committing (runId : Nat) (status : RunStatus) (exit : RunExit) :
      Handled (.committing runId none status exit) runId

/-- Phases of the crash handler itself, whose failure ends the executor. -/
inductive Handling : Phase → Prop
  | finalising (runId : Nat) (error : String) : Handling (.finalising runId (some error))
  | committing (runId : Nat) (error : String) (status : RunStatus) (exit : RunExit) :
      Handling (.committing runId (some error) status exit)

/-- How a run ends: cancelled, failed by the crash handler, or by its rows. -/
inductive Decided (state : State) (runId : Nat) (error : Option String) :
    RunStatus → RunExit → Prop
  | cancelled (requested : runId ∈ state.cancelled) :
      Decided state runId error .cancelled .cancelled
  | crashed (unrequested : runId ∉ state.cancelled) (failed : error.isSome = true) :
      Decided state runId error .failed .crashed
  | normal {run : BackupRun} (stored : state.db.runs.get runId = some run)
      (unrequested : runId ∉ state.cancelled) (fine : error = none) :
      Decided state runId error (summariseRun run (forRun state.db runId)) .normal

/-- Where a resumed loop is suspended: left for a shutdown, at its end, or at a target. -/
inductive Resumed (runId : Nat) (plan : RunPlan) (cancelled : List Nat) (stopping : Bool)
    (rest : List ResolvedTarget) : Phase → Prop
  | paused (stopped : stopping = true) (remaining : rest ≠ []) :
      Resumed runId plan cancelled stopping rest .idle
  | finished (why : runId ∈ cancelled ∨ ∀ target ∈ rest, target.key ∈ plan.completed) :
      Resumed runId plan cancelled stopping rest (.finalising runId none)
  | next (target : ResolvedTarget) (behind : List ResolvedTarget) (running : stopping = false)
      (wanted : runId ∉ cancelled) :
      Resumed runId plan cancelled stopping rest (.opening ⟨runId, plan, target, behind⟩)

/-- A resumed loop is suspended in one of three ways. -/
theorem resumeLoop_resumed (runId : Nat) (plan : RunPlan) (cancelled : List Nat)
    (stopping : Bool) (rest : List ResolvedTarget) :
    Resumed runId plan cancelled stopping rest
      (resumeLoop runId plan cancelled stopping rest) := by
  induction rest with
  | nil => exact .finished (.inr nofun)
  | cons target rest ih =>
    unfold resumeLoop
    by_cases stopped : stopping = true
    · rw [if_pos stopped]
      exact .paused stopped nofun
    · rw [if_neg stopped]
      by_cases requested : runId ∈ cancelled
      · rw [if_pos requested]
        exact .finished (.inl requested)
      · rw [if_neg requested]
        by_cases finished : target.key ∈ plan.completed
        · rw [if_pos finished]
          generalize resumeLoop runId plan cancelled stopping rest = phase at ih ⊢
          cases ih with
          | paused stopped => exact absurd stopped ‹_›
          | finished why =>
            refine .finished (why.imp_right fun all other listed => ?_)
            rcases List.mem_cons.mp listed with rfl | later
            · exact finished
            · exact all other later
          | next target behind running wanted => exact .next target behind running wanted
        · rw [if_neg finished]
          exact .next target rest (by simpa using stopped) requested

/-- The enabled actions and their effects. -/
inductive Moves (config : Config) (state : State) : Action → State → Prop
  | createRun {id : Nat} {jobId : Option Nat} {trigger : TriggerType} {targets : Targets}
      {options : Option JsonDict} (fresh : ∀ other ∈ state.db.runs, other.id < id)
      (nonempty : targets.list ≠ []) :
      Moves config state (.createRun id jobId trigger targets options)
        (state.commit { state.db with
          runs := state.db.runs.insert (queuedRun id jobId trigger targets options) fresh }
          state.phase)
  | importFile {id : Nat} {artifact : AgentArtifact}
      (fresh : ∀ other ∈ state.db.history, other.id < id) :
      Moves config state (.importFile id artifact)
        (state.commit { state.db with
          history := state.db.history.insert (importRow id artifact) fresh } state.phase)
  | changeRestores {restores : Table RestoreHistory.id} :
      Moves config state (.changeRestores restores)
        (state.commit { state.db with restores := restores } state.phase)
  | writeHistory {id : Nat} {write : HistoryWrite} {record : BackupHistory}
      (found : state.db.history.get id = some record)
      (applies : write.applies state.db record = true) :
      Moves config state (.writeHistory id write)
        (state.commit (setRecord state.db id write.write write.write_id) state.phase)
  | boot (here : state.phase = .down) :
      Moves config state .boot { state with phase := .starting, cancelled := [], stopping := false }
  | crash : Moves config state .crash { state with phase := .down, requests := [] }
  | stop (serving : state.serving = true) :
      Moves config state .stop { state with stopping := true }
  | scan (here : state.phase = .starting) :
      Moves config state .scan (state.goto (.recovering
        (((runningRows state.db).filter fun record => record.agentTaskId.isNone).map
          BackupHistory.id)
        ((runningRows state.db).filterMap fun record =>
          record.agentTaskId.map fun taskId => (record.id, taskId))))
  | interruptPending {backupId : Nat} {pending : List Nat} {adoptable : List (Nat × String)}
      {now : Instant} (here : state.phase = .recovering (backupId :: pending) adoptable) :
      Moves config state (.interruptPending now)
        (state.commit (closeBackup state.db backupId .interrupted restartMessage now)
          (.recovering pending adoptable))
  | forget {backupId : Nat} {taskId detail : String} {rest : List (Nat × String)} {now : Instant}
      (here : state.phase = .recovering [] ((backupId, taskId) :: rest)) :
      Moves config state (.recoverTask (.notFound detail) now)
        (state.commit (closeBackup state.db backupId .interrupted forgottenMessage now)
          (.recovering [] rest))
  | leave {backupId : Nat} {taskId : String} {rest : List (Nat × String)} {reply : TaskReply}
      {now : Instant} (here : state.phase = .recovering [] ((backupId, taskId) :: rest)) :
      Moves config state (.recoverTask reply now) (state.goto (.recovering [] rest))
  | recover {backupId runId : Nat} {taskId : String} {rest : List (Nat × String)}
      {task : AgentTask} {upload : Bool} {now : Instant} {db : Database}
      (here : state.phase = .recovering [] ((backupId, taskId) :: rest))
      (terminal : task.state.isTerminal = true)
      (context : contextFor config state.db backupId = some (runId, upload))
      (recorded : recordOutcome state.db backupId runId task upload now = some db) :
      Moves config state (.recoverTask (.task task) now)
        ((state.commit db (.recovering [] rest)).note (.reported backupId taskId task.state))
  | requeue (here : state.phase = .recovering [] []) :
      Moves config state .requeue { state with
        db := { state.db with runs := state.db.runs.map requeued requeued_id }
        phase := .idle, stopping := false }
  | claimRead {run : BackupRun} (here : state.phase = .idle) (running : state.stopping = false)
      (found : nextQueued state.db = some run) :
      Moves config state .claimRead (state.goto (.claiming run.id))
  | claimCommit {runId : Nat} {now : Instant} (here : state.phase = .claiming runId) :
      Moves config state (.claimCommit now)
        (state.commit (setRun state.db runId (claim now) fun _ => rfl) (.claimed runId))
  | loseRun {runId : Nat} {now : Instant} (here : state.phase = .claimed runId)
      (absent : state.db.runs.get runId = none) :
      Moves config state (.loadPlan now) (state.goto .idle)
  | rejectPlan {runId : Nat} {now : Instant} {run : BackupRun}
      (here : state.phase = .claimed runId) (stored : state.db.runs.get runId = some run)
      (invalid : runOptions config run = none) :
      Moves config state (.loadPlan now) (state.crashed runId)
  | loadPlan {runId : Nat} {now : Instant} {run : BackupRun} {options : RunOptions}
      (here : state.phase = .claimed runId) (stored : state.db.runs.get runId = some run)
      (valid : runOptions config run = some options) :
      Moves config state (.loadPlan now) { state with
        db := setRun state.db runId (started now) fun _ => rfl
        cancelled := state.cancelled.filter fun other => other != runId
        phase := resumeLoop runId (runPlan options run (forRun state.db runId))
          (state.cancelled.filter fun other => other != runId) state.stopping run.targets.list }
  | adoptTask {work : Work} {id adoptId : Nat} {now : Instant} {adopted : BackupHistory}
      {taskId : String} (here : state.phase = .opening work)
      (listed : work.plan.adoptable.lookup work.target.key = some adoptId)
      (found : state.db.history.get adoptId = some adopted)
      (known : adopted.agentTaskId = some taskId) :
      Moves config state (.openBackup id now) (state.goto (.polling work adopted.id taskId none))
  | adoptBare {work : Work} {id adoptId : Nat} {now : Instant} {adopted : BackupHistory}
      (here : state.phase = .opening work)
      (listed : work.plan.adoptable.lookup work.target.key = some adoptId)
      (found : state.db.history.get adoptId = some adopted)
      (unknown : adopted.agentTaskId = none) :
      Moves config state (.openBackup id now) (state.goto (.asking work adopted.id))
  | openBackup {work : Work} {id : Nat} {now : Instant} {uploadStatus : UploadStatus}
      (here : state.phase = .opening work)
      (unlisted : (work.plan.adoptable.lookup work.target.key).bind state.db.history.get = none)
      (fresh : ∀ other ∈ state.db.history, other.id < id) :
      Moves config state (.openBackup id now) (state.commit { state.db with
        history := state.db.history.insert (BackupHistory.create id (some work.runId) work.target
          work.plan.options.storage uploadStatus now) fresh } (.asking work id))
  | send {work : Work} {backupId : Nat} (here : state.phase = .asking work backupId) :
      Moves config state .send ((state.goto (.awaiting work backupId)).note
        (.sent work.runId work.target.key backupId))
  | refuseToSend {work : Work} {backupId : Nat} {detail : String} {now : Instant}
      (here : state.phase = .asking work backupId) :
      Moves config state (.refuseToSend detail now)
        (state.close work backupId .failed detail now)
  | accept {work : Work} {backupId : Nat} {accepted : AgentTaskAccepted} {now : Instant}
      (here : state.phase = .awaiting work backupId) :
      Moves config state (.startReply (.accepted accepted) now)
        (state.goto (.storing work backupId accepted))
  | refuse {work : Work} {backupId : Nat} {detail : String} {now : Instant}
      (here : state.phase = .awaiting work backupId) :
      Moves config state (.startReply (.refused detail) now)
        ((state.close work backupId .failed detail now).note (.refused backupId))
  | lose {work : Work} {backupId : Nat} {detail : String} {now : Instant}
      (here : state.phase = .awaiting work backupId) :
      Moves config state (.startReply (.lost detail) now)
        (state.close work backupId .failed detail now)
  | storeTask {work : Work} {backupId : Nat} {accepted : AgentTaskAccepted}
      (here : state.phase = .storing work backupId accepted) :
      Moves config state .storeTask (state.commit
        (setRecord state.db backupId
          (History.storeTask accepted.taskId accepted.correlationId) fun _ => rfl)
        (.polling work backupId accepted.taskId none))
  | query {work : Work} {backupId : Nat} {taskId : String} {since : Option Nat}
      (here : state.phase = .polling work backupId taskId since)
      (running : state.stopping = false) :
      Moves config state .query (state.goto (.querying work backupId taskId since))
  | keepPolling {work : Work} {backupId : Nat} {taskId : String} {since later : Option Nat}
      {reply : TaskReply} {now : Instant} {clock : Nat}
      (here : state.phase = .querying work backupId taskId since) :
      Moves config state (.taskReply reply now clock)
        (state.goto (.polling work backupId taskId later))
  | giveUp {work : Work} {backupId : Nat} {taskId message : String} {since : Option Nat}
      {reply : TaskReply} {now : Instant} {clock : Nat}
      (here : state.phase = .querying work backupId taskId since) :
      Moves config state (.taskReply reply now clock)
        (state.close work backupId .interrupted message now)
  | record {work : Work} {backupId : Nat} {taskId : String} {since : Option Nat}
      {task : AgentTask} {now : Instant} {clock : Nat} {db : Database}
      (here : state.phase = .querying work backupId taskId since)
      (terminal : task.state.isTerminal = true)
      (recorded : recordOutcome state.db backupId work.runId task work.plan.options.upload now =
        some db) :
      Moves config state (.taskReply (.task task) now clock)
        ((state.note (.reported backupId taskId task.state)).commit db (state.nextTarget work))
  | recordFails {work : Work} {backupId : Nat} {taskId : String} {since : Option Nat}
      {task : AgentTask} {now : Instant} {clock : Nat}
      (here : state.phase = .querying work backupId taskId since)
      (terminal : task.state.isTerminal = true)
      (rejected : recordOutcome state.db backupId work.runId task work.plan.options.upload now =
        none) :
      Moves config state (.taskReply (.task task) now clock)
        ((state.note (.reported backupId taskId task.state)).crashed work.runId)
  | pollStop {work : Work} {backupId : Nat} {taskId : String} {since : Option Nat}
      (here : state.phase = .polling work backupId taskId since) (stopped : state.stopping = true) :
      Moves config state .pollStop (state.goto (state.nextTarget work))
  | claimFails {runId : Nat} (here : state.phase = .claiming runId) :
      Moves config state .raise (state.goto .idle)
  | handle {runId : Nat} (here : Handled state.phase runId) :
      Moves config state .raise (state.crashed runId)
  | die (here : Handling state.phase) : Moves config state .raise (state.goto .ended)
  | decideGone {runId : Nat} {error : Option String} (here : state.phase = .finalising runId error)
      (absent : state.db.runs.get runId = none) : Moves config state .decide (state.goto .idle)
  | decide {runId : Nat} {error : Option String} {status : RunStatus} {exit : RunExit}
      (here : state.phase = .finalising runId error)
      (decided : Decided state runId error status exit) :
      Moves config state .decide (state.goto (.committing runId error status exit))
  | finalise {runId : Nat} {error : Option String} {status : RunStatus} {exit : RunExit}
      {now : Instant} (here : state.phase = .committing runId error status exit) :
      Moves config state (.finalise now) (state.finalise runId error status exit now)
  | exitLoop (here : state.phase = .idle) (stopped : state.stopping = true) :
      Moves config state .exitLoop (state.goto .ended)
  | cancelRead {runId : Nat} {run : BackupRun} {stage : RequestStage}
      (serving : state.serving = true) (stored : state.db.runs.get runId = some run)
      (seen : (run.status = .queued ∧ stage = .sawQueued) ∨
        (run.status = .running ∧ stage = .sawRunning)) :
      Moves config state (.cancelRead runId)
        { state with requests := (runId, stage) :: state.requests }
  | cancelCommit {runId : Nat} {now : Instant}
      (pending : (runId, RequestStage.sawQueued) ∈ state.requests) :
      Moves config state (.cancelCommit runId now) ({ state with
        db := setRun state.db runId
          (finished .cancelled (some "Cancelled before it started") now) fun _ => rfl
        requests := state.requests.erase (runId, .sawQueued) }.note (.cancelAccepted runId))
  | cancelMark {runId : Nat} (pending : (runId, RequestStage.sawRunning) ∈ state.requests) :
      Moves config state (.cancelMark runId) { state with
        cancelled := runId :: state.cancelled
        requests := (runId, .marked) :: state.requests.erase (runId, .sawRunning) }
  | cancelReturn {runId : Nat} (pending : (runId, RequestStage.marked) ∈ state.requests) :
      Moves config state (.cancelReturn runId) ({ state with
        requests := state.requests.erase (runId, .marked) }.note (.cancelAccepted runId))

/-- Recovering one task does one of three things. -/
theorem recoverTask_moves {backupId : Nat} {taskId : String} {rest : List (Nat × String)}
    {reply : TaskReply} {now : Instant}
    (here : state.phase = .recovering [] ((backupId, taskId) :: rest))
    (stepped : state.recoverTask config backupId taskId rest reply now = some after) :
    Moves config state (.recoverTask reply now) after := by
  cases reply with
  | notFound detail =>
    simp only [State.recoverTask, Option.some.injEq] at stepped
    exact stepped ▸ .forget here
  | error detail =>
    simp only [State.recoverTask, Option.some.injEq] at stepped
    exact stepped ▸ .leave here
  | unavailable detail =>
    simp only [State.recoverTask, Option.some.injEq] at stepped
    exact stepped ▸ .leave here
  | task task =>
    simp only [State.recoverTask] at stepped
    split at stepped
    · rename_i terminal
      split at stepped
      · simp at stepped
      · rename_i runId upload context
        obtain ⟨db, recorded, result⟩ := Option.map_eq_some_iff.mp stepped
        exact result ▸ .recover here terminal context recorded
    · rw [Option.some.injEq] at stepped
      exact stepped ▸ .leave here

/-- Reading a claimed run finds it gone, rejects its options or enters its loop. -/
theorem loadPlan_moves {runId : Nat} {now : Instant} (here : state.phase = .claimed runId) :
    Moves config state (.loadPlan now) (state.loadPlan config runId now) := by
  unfold State.loadPlan
  cases stored : state.db.runs.get runId with
  | none => exact .loseRun here stored
  | some run =>
    dsimp only
    cases valid : runOptions config run with
    | none => exact .rejectPlan here stored valid
    | some options => exact .loadPlan here stored valid

/-- Opening a guest adopts a row with or without a task, or creates one. -/
theorem openBackup_moves {work : Work} {id : Nat} {now : Instant}
    (here : state.phase = .opening work) (stepped : state.openBackup work id now = some after) :
    Moves config state (.openBackup id now) after := by
  unfold State.openBackup at stepped
  split at stepped
  · rename_i adopted found
    obtain ⟨adoptId, listed, found⟩ := Option.bind_eq_some_iff.mp found
    split at stepped
    · rename_i taskId known
      rw [Option.some.injEq] at stepped
      exact stepped ▸ .adoptTask here listed found known
    · rename_i unknown
      rw [Option.some.injEq] at stepped
      exact stepped ▸ .adoptBare here listed found unknown
  · rename_i unlisted
    dsimp only at stepped
    split at stepped
    · rename_i fresh
      rw [Option.some.injEq] at stepped
      exact stepped ▸ .openBackup here unlisted fresh
    · simp at stepped

/-- An unanswered poll goes on, or gives up once the grace period is over. -/
theorem agentSilent_moves {work : Work} {backupId : Nat} {taskId detail : String}
    {since : Option Nat} {reply : TaskReply} {now : Instant} {clock : Nat}
    (here : state.phase = .querying work backupId taskId since) :
    Moves config state (.taskReply reply now clock)
      (state.agentSilent config work backupId taskId since detail now clock) := by
  unfold State.agentSilent
  dsimp only
  split
  · exact .giveUp here
  · exact .keepPolling here

/-- A poll gives up, records the outcome, fails to record it, or goes on. -/
theorem taskReply_moves {work : Work} {backupId : Nat} {taskId : String}
    {since : Option Nat} {reply : TaskReply} {now : Instant} {clock : Nat}
    (here : state.phase = .querying work backupId taskId since) :
    Moves config state (.taskReply reply now clock)
      (state.taskReply config work backupId taskId since reply now clock) := by
  cases reply with
  | notFound | error | unavailable => exact agentSilent_moves here
  | task task =>
    unfold State.taskReply
    dsimp only
    by_cases terminal : task.state.isTerminal = true
    · rw [if_pos terminal]
      cases recorded : recordOutcome state.db backupId work.runId task work.plan.options.upload now
        with
      | none => exact .recordFails here terminal recorded
      | some db => exact .record here terminal recorded
    · rw [if_neg terminal]
      exact .keepPolling here

/-- An unexpected failure ends a claim, enters the crash handler or ends the executor. -/
theorem raise_moves (stepped : state.raise = some after) : Moves config state .raise after := by
  unfold State.raise at stepped
  split at stepped <;> try simp only [Option.some.injEq, reduceCtorEq] at stepped
  all_goals rename_i here; subst stepped
  · exact .claimFails here
  · exact .handle (here ▸ .claimed _)
  · exact .handle (here ▸ .finalising _)
  · exact .handle (here ▸ .committing _ _ _)
  · exact .handle (here ▸ .opening _)
  · exact .handle (here ▸ .asking _ _)
  · exact .handle (here ▸ .awaiting _ _)
  · exact .handle (here ▸ .storing _ _ _)
  · exact .handle (here ▸ .polling _ _ _ _)
  · exact .handle (here ▸ .querying _ _ _ _)
  · exact .die (here ▸ .finalising _ _)
  · exact .die (here ▸ .committing _ _ _ _)

/-- A run that is still stored ends in one of three ways. -/
theorem decide_moves {runId : Nat} {error : Option String}
    (here : state.phase = .finalising runId error) :
    Moves config state .decide (state.decide runId error) := by
  unfold State.decide
  cases stored : state.db.runs.get runId with
  | none => exact .decideGone here stored
  | some run =>
    dsimp only
    by_cases requested : runId ∈ state.cancelled
    · rw [if_pos requested]
      exact .decide here (.cancelled requested)
    · rw [if_neg requested]
      cases error with
      | some message => exact .decide here (.crashed requested rfl)
      | none => exact .decide here (.normal stored requested rfl)

/-- Every enabled action is one of the listed moves. -/
theorem step_moves (stepped : step config state action = some after) :
    Moves config state action after := by
  cases action with
  | createRun id jobId trigger targets options =>
    simp only [step] at stepped
    split at stepped
    · rename_i fresh
      rw [Option.some.injEq] at stepped
      exact stepped ▸ .createRun fresh.1 fresh.2
    · simp at stepped
  | importFile id artifact =>
    simp only [step] at stepped
    split at stepped
    · rename_i fresh
      rw [Option.some.injEq] at stepped
      exact stepped ▸ .importFile fresh
    · simp at stepped
  | changeRestores restores =>
    simp only [step, Option.some.injEq] at stepped
    exact stepped ▸ .changeRestores
  | writeHistory id write =>
    simp only [step] at stepped
    split at stepped
    · simp at stepped
    · rename_i record found
      split at stepped
      · rename_i applies
        rw [Option.some.injEq] at stepped
        exact stepped ▸ .writeHistory found applies
      · simp at stepped
  | boot =>
    simp only [step] at stepped
    split at stepped
    · rename_i here
      rw [Option.some.injEq] at stepped
      exact stepped ▸ .boot here
    · simp at stepped
  | crash =>
    simp only [step, Option.some.injEq] at stepped
    exact stepped ▸ .crash
  | stop =>
    simp only [step] at stepped
    split at stepped
    · rename_i serving
      rw [Option.some.injEq] at stepped
      exact stepped ▸ .stop serving
    · simp at stepped
  | scan =>
    simp only [step] at stepped
    split at stepped
    · rename_i here
      rw [Option.some.injEq] at stepped
      exact stepped ▸ .scan here
    · simp at stepped
  | interruptPending now =>
    simp only [step] at stepped
    split at stepped
    · rename_i here
      rw [Option.some.injEq] at stepped
      exact stepped ▸ .interruptPending here
    · simp at stepped
  | recoverTask reply now =>
    simp only [step] at stepped
    split at stepped
    · rename_i here
      exact recoverTask_moves here stepped
    · simp at stepped
  | requeue =>
    simp only [step] at stepped
    split at stepped
    · rename_i here
      rw [Option.some.injEq] at stepped
      exact stepped ▸ .requeue here
    · simp at stepped
  | claimRead =>
    simp only [step] at stepped
    split at stepped
    · rename_i here
      by_cases stopping : state.stopping = true
      · simp [stopping] at stepped
      · rw [if_neg stopping] at stepped
        obtain ⟨run, found, result⟩ := Option.map_eq_some_iff.mp stepped
        exact result ▸ .claimRead here (by simpa using stopping) found
    · simp at stepped
  | claimCommit now =>
    simp only [step] at stepped
    split at stepped
    · rename_i here
      rw [Option.some.injEq] at stepped
      exact stepped ▸ .claimCommit here
    · simp at stepped
  | loadPlan now =>
    simp only [step] at stepped
    split at stepped
    · rename_i here
      rw [Option.some.injEq] at stepped
      exact stepped ▸ loadPlan_moves here
    · simp at stepped
  | openBackup id now =>
    simp only [step] at stepped
    split at stepped
    · rename_i here
      exact openBackup_moves here stepped
    · simp at stepped
  | send =>
    simp only [step] at stepped
    split at stepped
    · rename_i here
      rw [Option.some.injEq] at stepped
      exact stepped ▸ .send here
    · simp at stepped
  | refuseToSend detail now =>
    simp only [step] at stepped
    split at stepped
    · rename_i here
      rw [Option.some.injEq] at stepped
      exact stepped ▸ .refuseToSend here
    · simp at stepped
  | startReply reply now =>
    simp only [step] at stepped
    split at stepped
    · rename_i here
      cases reply <;> rw [Option.some.injEq] at stepped
      · exact stepped ▸ .accept here
      · exact stepped ▸ .refuse here
      · exact stepped ▸ .lose here
    · simp at stepped
  | storeTask =>
    simp only [step] at stepped
    split at stepped
    · rename_i here
      rw [Option.some.injEq] at stepped
      exact stepped ▸ .storeTask here
    · simp at stepped
  | query =>
    simp only [step] at stepped
    split at stepped
    · rename_i here
      by_cases stopping : state.stopping = true
      · simp [stopping] at stepped
      · rw [if_neg stopping, Option.some.injEq] at stepped
        exact stepped ▸ .query here (by simpa using stopping)
    · simp at stepped
  | taskReply reply now clock =>
    simp only [step] at stepped
    split at stepped
    · rename_i here
      rw [Option.some.injEq] at stepped
      exact stepped ▸ taskReply_moves here
    · simp at stepped
  | pollStop =>
    simp only [step] at stepped
    split at stepped
    · rename_i here
      by_cases stopped : state.stopping = true
      · rw [if_pos stopped, Option.some.injEq] at stepped
        exact stepped ▸ .pollStop here stopped
      · simp [stopped] at stepped
    · simp at stepped
  | raise => exact raise_moves stepped
  | decide =>
    simp only [step] at stepped
    split at stepped
    · rename_i here
      rw [Option.some.injEq] at stepped
      exact stepped ▸ decide_moves here
    · simp at stepped
  | finalise now =>
    simp only [step] at stepped
    split at stepped
    · rename_i here
      rw [Option.some.injEq] at stepped
      exact stepped ▸ .finalise here
    · simp at stepped
  | exitLoop =>
    simp only [step] at stepped
    split at stepped
    · rename_i here
      by_cases stopped : state.stopping = true
      · rw [if_pos stopped, Option.some.injEq] at stepped
        exact stepped ▸ .exitLoop here stopped
      · simp [stopped] at stepped
    · simp at stepped
  | cancelRead runId =>
    simp only [step] at stepped
    split at stepped
    · rename_i serving
      unfold State.cancelRead at stepped
      split at stepped
      · simp at stepped
      · rename_i run stored
        split at stepped
        · rename_i queued
          rw [Option.some.injEq] at stepped
          exact stepped ▸ .cancelRead serving stored (.inl ⟨queued, rfl⟩)
        · rename_i running
          rw [Option.some.injEq] at stepped
          exact stepped ▸ .cancelRead serving stored (.inr ⟨running, rfl⟩)
        · simp at stepped
    · simp at stepped
  | cancelCommit runId now =>
    simp only [step] at stepped
    split at stepped
    · rename_i pending
      rw [Option.some.injEq] at stepped
      exact stepped ▸ .cancelCommit pending
    · simp at stepped
  | cancelMark runId =>
    simp only [step] at stepped
    split at stepped
    · rename_i pending
      rw [Option.some.injEq] at stepped
      exact stepped ▸ .cancelMark pending
    · simp at stepped
  | cancelReturn runId =>
    simp only [step] at stepped
    split at stepped
    · rename_i pending
      rw [Option.some.injEq] at stepped
      exact stepped ▸ .cancelReturn pending
    · simp at stepped

/-- What a step may add to the journal, by where it finds the executor. -/
inductive Noted (state : State) : Event → Prop
  | sent {work : Work} {backupId : Nat} (here : state.phase = .asking work backupId) :
      Noted state (.sent work.runId work.target.key backupId)
  | refused {work : Work} {backupId : Nat} (here : state.phase = .awaiting work backupId) :
      Noted state (.refused backupId)
  | polled {work : Work} {backupId : Nat} {taskId : String} {since : Option Nat}
      {reported : AgentTaskState} (here : state.phase = .querying work backupId taskId since) :
      Noted state (.reported backupId taskId reported)
  | recovered {backupId : Nat} {taskId : String} {rest : List (Nat × String)}
      {reported : AgentTaskState}
      (here : state.phase = .recovering [] ((backupId, taskId) :: rest)) :
      Noted state (.reported backupId taskId reported)
  | cancelAccepted (runId : Nat) : Noted state (.cancelAccepted runId)
  | finalised {runId : Nat} {error : Option String} {status : RunStatus} {exit : RunExit}
      (here : state.phase = .committing runId error status exit) :
      Noted state (.finalised runId status exit)

/-- A step adds at most one event to the journal. -/
theorem step_journal (stepped : step config state action = some after) :
    after.journal = state.journal ∨
      ∃ event, Noted state event ∧ after.journal = event :: state.journal := by
  cases step_moves stepped with
  | recover here => exact .inr ⟨_, .recovered here, rfl⟩
  | send here => exact .inr ⟨_, .sent here, rfl⟩
  | refuse here => exact .inr ⟨_, .refused here, rfl⟩
  | record here => exact .inr ⟨_, .polled here, rfl⟩
  | recordFails here => exact .inr ⟨_, .polled here, rfl⟩
  | finalise here => exact .inr ⟨_, .finalised here, rfl⟩
  | cancelCommit => exact .inr ⟨_, .cancelAccepted _, rfl⟩
  | cancelReturn => exact .inr ⟨_, .cancelAccepted _, rfl⟩
  | createRun | importFile | changeRestores | writeHistory | boot | crash | stop | scan |
    interruptPending | forget | leave | requeue | claimRead | claimCommit | loseRun | rejectPlan |
    loadPlan | adoptTask | adoptBare | openBackup | refuseToSend | accept | lose | storeTask |
    query | keepPolling | giveUp | pollStop | claimFails | handle | die | decideGone | decide |
    exitLoop | cancelRead | cancelMark => exact .inl rfl

end ProxSync.Runner
