import ProxSync.Runner.Progress
/-!
# A guest is started at most once

A running row without a task is one the executor is about to start, has started without an answer,
or will not touch again: its run is over, or the crash handler is ending it. A restart interrupts
every such row before it takes runs up again, provided it sees them all, so a plan never lists one,
and a start request is sent only for a row that was never asked for before.
-/
open ProxSync.Lib ProxSync.Retention ProxSync.History

namespace ProxSync.Runner

/-- The row that is being started. -/
def Phase.unconfirmed : Phase → Option Nat
  | .asking _ backupId | .awaiting _ backupId | .storing _ backupId _ => some backupId
  | _ => none

/-- The run the crash handler is ending. -/
def Phase.handled : Phase → Option Nat
  | .finalising runId (some _) | .committing runId (some _) _ _ => some runId
  | _ => none

/-- The run that is being claimed or executed. -/
def Phase.executing : Phase → Option Nat
  | .claiming runId | .claimed runId | .finalising runId none | .committing runId none _ _ =>
    some runId
  | .opening work | .asking work _ | .awaiting work _ | .storing work _ _ | .polling work _ _ _ |
    .querying work _ _ _ => some work.runId
  | _ => none

/-- The run has ended. -/
def Over (db : Database) (runId : Nat) : Prop :=
  ∃ status, runStatus db runId = some status ∧ status.isTerminal = true

/-- Why a running row of a run may have no task. -/
def Accounted (db : Database) (phase : Phase) (id runId : Nat) : Prop :=
  match phase with
  | .down | .starting | .ended => True
  | .recovering pending _ => id ∈ pending
  | phase => phase.unconfirmed = some id ∨ phase.handled = some runId ∨
      (Over db runId ∧ phase.executing ≠ some runId)

/-- Every running row of a run without a task is accounted for. -/
def BareAccounted (db : Database) (phase : Phase) : Prop :=
  ∀ record ∈ db.history, record.status = .running → record.agentTaskId = none →
    ∀ runId, record.runId = some runId → Accounted db phase record.id runId

/-- The start requests of a journal: the run and the guest of each. -/
def startsOf (journal : List Event) : List (Nat × GuestKey) :=
  journal.filterMap fun event => match event with
    | .sent runId guest _ => some (runId, guest)
    | _ => none

/-- What holds of the start requests that were sent. -/
structure Starts (state : State) : Prop where
  bare : BareAccounted state.db state.phase
  known : ∀ runId guest backupId, Event.sent runId guest backupId ∈ state.journal →
    ∃ record ∈ state.db.history, record.id = backupId ∧ record.runId = some runId ∧
      record.key = guest
  unsent : ∀ work backupId, state.phase = .asking work backupId →
    ∀ runId guest, Event.sent runId guest backupId ∉ state.journal
  once : (startsOf state.journal).Nodup
  covered : ∀ runId status, Event.finalised runId status .normal ∈ state.journal →
    Covered state.db runId

/-- A restart looks at every running row. -/
def seesAll (state : State) : Action → Bool
  | .scan => decide (state.db.history.count (fun record => record.status == .running) ≤
      recoveryScanLimit)
  | _ => true

section Bare

variable {db after : Database} {phase : Phase}

/-- Where a loop is resumed no row is being started and no run is being handled. -/
theorem resumeLoop_accounts (runId : Nat) (plan : RunPlan) (cancelled : List Nat)
    (stopping : Bool) (rest : List ResolvedTarget) {id owner : Nat}
    (isOver : Over db owner) (other : runId ≠ owner) :
    Accounted db (resumeLoop runId plan cancelled stopping rest) id owner := by
  have apart : some runId ≠ some owner := fun same => other (Option.some.inj same)
  have resumed := resumeLoop_resumed runId plan cancelled stopping rest
  generalize resumeLoop runId plan cancelled stopping rest = phase at resumed ⊢
  cases resumed with
  | paused => exact .inr (.inr ⟨isOver, nofun⟩)
  | finished | next => exact .inr (.inr ⟨isOver, apart⟩)

/-- While a run is executed, a row that is not being started is of a run that is over. -/
theorem Accounted.elsewhere {id runId current : Nat} (accounted : Accounted db phase id runId)
    (executing : phase.executing = some current) (unhandled : phase.handled = none)
    (other : phase.unconfirmed ≠ some id) : Over db runId ∧ current ≠ runId := by
  have cases : phase.unconfirmed = some id ∨ phase.handled = some runId ∨
      (Over db runId ∧ phase.executing ≠ some runId) := by
    cases phase with
    | down | starting | recovering | ended => simp [Phase.executing] at executing
    | idle | claiming | claimed | opening | asking | awaiting | storing | polling | querying |
      finalising | committing => exact accounted
  rcases cases with starting | handled | ⟨isOver, apart⟩
  · exact absurd starting other
  · simp [unhandled] at handled
  · exact ⟨isOver, fun same => apart (executing.trans (congrArg some same))⟩

/-- A row of a run that is over is accounted for while another run is executed. -/
theorem accounted_elsewhere {id runId current : Nat} (isOver : Over db runId)
    (other : current ≠ runId) (executing : phase.executing = some current) :
    Accounted db phase id runId := by
  have apart : phase.executing ≠ some runId := by
    rw [executing]
    exact fun same => other (Option.some.inj same)
  cases phase with
  | down | starting | recovering | ended | idle => simp [Phase.executing] at executing
  | claiming | claimed | opening | asking | awaiting | storing | polling | querying |
    finalising | committing => exact .inr (.inr ⟨isOver, apart⟩)

/-- Rows stay accounted for while the execution of a run goes on. -/
theorem BareAccounted.proceed {later : Phase} {current : Nat} (bare : BareAccounted db phase)
    (before : phase.executing = some current) (unhandled : phase.handled = none)
    (ready : phase.unconfirmed = none) (executing : later.executing = some current) :
    BareAccounted db later := by
  intro record stored running unknown runId owned
  have accounted := bare record stored running unknown runId owned
  obtain ⟨isOver, other⟩ := accounted.elsewhere before unhandled (by simp [ready])
  exact accounted_elsewhere isOver other executing

/-- A row that is accounted for stays so where its run stays over. -/
theorem Accounted.carry {id runId : Nat} (accounted : Accounted db phase id runId)
    (stays : Over db runId → Over after runId) : Accounted after phase id runId := by
  cases phase with
  | down | starting | ended => trivial
  | recovering => exact accounted
  | idle | claiming | claimed | opening | asking | awaiting | storing | polling | querying |
    finalising | committing =>
    exact accounted.imp_right fun rest => rest.imp_right fun last => ⟨stays last.1, last.2⟩

/-- An undisturbing write under which ended runs stay ended keeps rows accounted for. -/
theorem BareAccounted.undisturbed (bare : BareAccounted db phase) (same : Undisturbed db after)
    (stays : ∀ record ∈ db.history, record.status = .running → record.agentTaskId = none →
      ∀ runId, record.runId = some runId → Over db runId → Over after runId) :
    BareAccounted after phase := by
  intro later stored running unknown runId owned
  obtain ⟨record, recordStored, alike⟩ := same.back later stored (by simp [owned])
  have before : record.status = .running := alike.running.mp running
  have untold : record.agentTaskId = none := alike.task.symm.trans unknown
  have mine : record.runId = some runId := alike.owner.runId.symm.trans owned
  have accounted := (bare record recordStored before untold runId mine).carry
    (stays record recordStored before untold runId mine)
  rw [alike.owner.id]
  exact accounted

/-- Closing a row leaves the other rows; they are accounted for where the old ones were. -/
theorem BareAccounted.settle {later : Phase} {record closed : BackupHistory}
    (bare : BareAccounted db phase) (settles : Settles db after record closed)
    (moves : ∀ id runId, id ≠ record.id → Accounted db phase id runId →
      Accounted after later id runId) : BareAccounted after later := by
  intro row stored running unknown runId owned
  obtain ⟨old, different⟩ := settles.running stored running
  exact moves row.id runId different (bare row old running unknown runId owned)

/-- The same rows are accounted for elsewhere. -/
theorem BareAccounted.goto {later : Phase} (bare : BareAccounted db phase)
    (moves : ∀ id runId, Accounted db phase id runId → Accounted db later id runId) :
    BareAccounted db later :=
  fun record stored running unknown runId owned =>
    moves record.id runId (bare record stored running unknown runId owned)

end Bare

/-- A restart that sees every running row lists the ones without a task. -/
theorem mem_pending {db : Database} {record : BackupHistory} (stored : record ∈ db.history)
    (running : record.status = .running) (unknown : record.agentTaskId = none)
    (few : db.history.count (fun record => record.status == .running) ≤ recoveryScanLimit) :
    record.id ∈ ((runningRows db).filter fun record => record.agentTaskId.isNone).map
      BackupHistory.id := by
  have kept : record ∈ db.history.rows.filter fun record => record.status == .running :=
    List.mem_filter.mpr ⟨stored, by simp [running]⟩
  have whole : runningRows db =
      orderNewestFirst (db.history.rows.filter fun record => record.status == .running) := by
    refine List.take_of_length_le ?_
    rw [(orderNewestFirst_perm _).length_eq, ← List.countP_eq_length_filter]
    exact few
  refine List.mem_map.mpr ⟨record, List.mem_filter.mpr ⟨?_, by simp [unknown]⟩, rfl⟩
  rw [whole]
  exact (orderNewestFirst_perm _).mem_iff.mpr kept

/-- Ending a run ends no other and revives none. -/
theorem Over.finished {db : Database} {runId owner : Nat} {status : RunStatus}
    {error : Option String} {now : Instant} (isOver : Over db owner)
    (terminal : status.isTerminal = true) :
    Over (setRun db runId (finished status error now) fun _ => rfl) owner := by
  obtain ⟨before, given, wasTerminal⟩ := isOver
  have leaves := finished_leavesTally status error now
  by_cases same : owner = runId
  · subst same
    exact ⟨status, runStatus_setRun_self leaves given fun _ => rfl, terminal⟩
  · exact ⟨before, (runStatus_setRun_other leaves same).trans given, wasTerminal⟩

/-- A stored run that is given a terminal status is over. -/
theorem over_finished {db : Database} {runId : Nat} {status : RunStatus} {error : Option String}
    {now : Instant} {run : BackupRun} (stored : db.runs.get runId = some run)
    (terminal : status.isTerminal = true) :
    Over (setRun db runId (finished status error now) fun _ => rfl) runId := by
  have before : runStatus db runId = some run.status := by rw [runStatus, stored]; rfl
  exact ⟨status, runStatus_setRun_self (finished_leavesTally status error now) before fun _ => rfl,
    terminal⟩

/-- A write of another run leaves a run that is over alone. -/
theorem Over.setRun {db : Database} {runId owner : Nat} {update : BackupRun → BackupRun}
    (leaves : LeavesTally update) (isOver : Over db owner) (other : runId ≠ owner) :
    Over (setRun db runId update leaves.id) owner := by
  obtain ⟨before, given, wasTerminal⟩ := isOver
  exact ⟨before, (runStatus_setRun_other leaves other.symm).trans given, wasTerminal⟩

/-- Settling a row ends no run and revives none. -/
theorem Over.closeBackup {db : Database} {owner backupId : Nat} {status : BackupStatus}
    {message : String} {now : Instant} (isOver : Over db owner) :
    Over (closeBackup db backupId status message now) owner := by
  obtain ⟨before, given, wasTerminal⟩ := isOver
  exact ⟨before, (runStatus_closeBackup db backupId status message now owner).trans given,
    wasTerminal⟩

/-- Recording an outcome ends no run and revives none. -/
theorem Over.recordOutcome {db after : Database} {owner backupId runId : Nat} {task : AgentTask}
    {upload : Bool} {now : Instant} (isOver : Over db owner)
    (recorded : recordOutcome db backupId runId task upload now = some after) :
    Over after owner := by
  obtain ⟨before, given, wasTerminal⟩ := isOver
  exact ⟨before, (runStatus_recordOutcome recorded owner).trans given, wasTerminal⟩

/-- Closing the row of the current target, the one that may be being started, lets the loop go
on. -/
theorem BareAccounted.close {state : State} (bare : BareAccounted state.db state.phase)
    {db : Database} {record closed : BackupHistory} {work : Work}
    (settles : Settles state.db db record closed)
    (executing : state.phase.executing = some work.runId) (unhandled : state.phase.handled = none)
    (own : ∀ id, state.phase.unconfirmed = some id → id = record.id)
    (stays : ∀ runId, Over state.db runId → Over db runId) :
    BareAccounted db (state.nextTarget work) := by
  refine bare.settle settles fun id runId different accounted => ?_
  have notOwn : state.phase.unconfirmed ≠ some id := fun same => different (own id same)
  obtain ⟨isOver, other⟩ := accounted.elsewhere executing unhandled notOwn
  exact resumeLoop_accounts _ _ _ _ _ (stays runId isOver) other

/-- A row without a task is not taken up again. -/
theorem BareAccounted.adopted {db : Database} {work : Work} {adopted : BackupHistory}
    (bare : BareAccounted db (.opening work))
    (held : Held db work.runId work.target.key adopted.id adopted.agentTaskId)
    (unknown : adopted.agentTaskId = none) : False := by
  obtain ⟨record, stored, named, owned, _, running, task⟩ := held
  have accounted := bare record stored running (task.trans unknown) work.runId owned
  exact (accounted.elsewhere rfl rfl nofun).2 rfl

/-- The run that is summed up is the one being handled, if one is. -/
theorem handled_finalising {runId owner : Nat} {error : Option String}
    (handled : (Phase.finalising runId error).handled = some owner) : runId = owner := by
  cases error <;> simp_all [Phase.handled]

/-- The run that is committed is the one being handled, if one is. -/
theorem handled_committing {runId owner : Nat} {error : Option String} {status : RunStatus}
    {exit : RunExit} (handled : (Phase.committing runId error status exit).handled = some owner) :
    runId = owner := by
  cases error <;> simp_all [Phase.handled]

/-- A row that was being started when its run crashed is of the run that crashed. -/
theorem Sound.bare_crashed {state : State} (sound : Sound state)
    (bare : BareAccounted state.db state.phase) {runId : Nat} (here : Handled state.phase runId) :
    BareAccounted state.db (.finalising runId (some crashMessage)) := by
  have facts := sound.facts
  intro record stored running unknown owner owned
  have accounted := bare record stored running unknown owner owned
  have ending : Over state.db owner → Accounted state.db (.finalising runId (some crashMessage))
      record.id owner := fun isOver => .inr (.inr ⟨isOver, nofun⟩)
  -- The held row is of the run of the work.
  have starting : ∀ (work : Work) backupId, Held state.db work.runId work.target.key backupId none →
      backupId = record.id → work.runId = owner := by
    rintro work backupId ⟨row, rowStored, rfl, rowOwned, _⟩ same
    have equal := Table.eq_of_key rowStored stored same
    rw [equal, owned] at rowOwned
    exact (Option.some.inj rowOwned).symm
  cases phase : state.phase <;> rw [phase] at here facts accounted <;> cases here
  case asking work backupId | awaiting work backupId | storing work backupId accepted =>
    obtain own | handled | ⟨isOver, _⟩ := accounted
    · refine .inr (.inl ?_)
      rw [← starting work backupId facts.2 (Option.some.inj own)]
      rfl
    · simp [Phase.handled] at handled
    · exact ending isOver
  all_goals exact ending (accounted.elsewhere rfl rfl nofun).1

/-- One step keeps the rows without a task accounted for, when a restart sees them all. -/
theorem step_bare {config : Config} {state after : State} {action : Action} (sound : Sound state)
    (bare : BareAccounted state.db state.phase) (sees : seesAll state action = true)
    (stepped : step config state action = some after) : BareAccounted after.db after.phase := by
  have facts := sound.facts
  cases step_moves stepped with
  | createRun fresh =>
    refine bare.undisturbed (.createRun fresh) fun _ _ _ _ runId _ isOver => ?_
    obtain ⟨status, given, terminal⟩ := isOver
    exact ⟨status, runStatus_createRun fresh given, terminal⟩
  | importFile fresh => exact bare.undisturbed (.importFile fresh) fun _ _ _ _ _ _ isOver => isOver
  | changeRestores => exact bare
  | writeHistory found applies =>
    obtain ⟨stored, rfl⟩ := Table.get_eq_some.mp found
    exact bare.undisturbed (.writeHistory sound.book stored applies)
      fun _ _ _ _ _ _ isOver => isOver
  | boot | crash => exact fun _ _ _ _ _ _ => trivial
  | stop | cancelRead | cancelMark | cancelReturn => exact bare
  | scan here =>
    intro record stored running unknown runId _
    exact mem_pending stored running unknown (of_decide_eq_true sees)
  | interruptPending here =>
    rw [here] at facts bare
    obtain ⟨_, _, rfl, _, settles, _⟩ := facts.interrupts sound.book _ _
    exact bare.settle settles fun id _ different listed =>
      (List.mem_cons.mp listed).resolve_left different
  | forget here =>
    rw [here] at facts bare
    obtain ⟨_, _, _, _, settles, _⟩ := facts.forgets sound.book _ _
    exact bare.settle settles fun _ _ _ listed => listed
  | leave here | send here | accept here =>
    rw [here] at bare
    exact bare.goto fun _ _ accounted => accounted
  | recover here terminal context recorded =>
    rw [here] at facts bare
    obtain ⟨_, _, _, settles, _⟩ := facts.records sound.book context recorded
    exact bare.settle settles fun _ _ _ listed => listed
  | requeue here =>
    -- Every row without a task was interrupted by now.
    rw [here] at bare
    intro record stored running unknown runId owned
    have listed := bare record stored running unknown runId owned
    exact absurd listed List.not_mem_nil
  | claimRead here _ found =>
    rw [here] at bare
    refine bare.goto fun id runId accounted => ?_
    obtain starting | handled | ⟨isOver, _⟩ := accounted
    · simp [Phase.unconfirmed] at starting
    · simp [Phase.handled] at handled
    · refine .inr (.inr ⟨isOver, fun same => ?_⟩)
      obtain ⟨status, given, terminal⟩ := isOver
      have queued := nextQueued_status found
      rw [Option.some.inj same, given, Option.some.injEq] at queued
      simp [queued, RunStatus.isTerminal] at terminal
  | @claimCommit runId now here =>
    rw [here] at bare
    intro record stored running unknown owner owned
    obtain ⟨isOver, other⟩ :=
      (bare record stored running unknown owner owned).elsewhere rfl rfl nofun
    exact accounted_elsewhere (isOver.setRun (claim_leavesTally now) other) other rfl
  | loseRun here | rejectPlan here | recordFails here | claimFails here =>
    rw [here] at bare
    intro record stored running unknown owner owned
    obtain ⟨isOver, _⟩ := (bare record stored running unknown owner owned).elsewhere rfl rfl nofun
    exact .inr (.inr ⟨isOver, nofun⟩)
  | @loadPlan runId now _ _ here =>
    rw [here] at bare
    intro record stored running unknown owner owned
    obtain ⟨isOver, other⟩ :=
      (bare record stored running unknown owner owned).elsewhere rfl rfl nofun
    exact resumeLoop_accounts _ _ _ _ _ (isOver.setRun (started_leavesTally now) other) other
  | adoptTask here =>
    rw [here] at bare
    exact bare.proceed rfl rfl rfl rfl
  | adoptBare here listed found unknown =>
    rw [here] at facts bare
    exact (bare.adopted (facts.2.adopted listed found) unknown).elim
  | openBackup here unlisted fresh =>
    rw [here] at bare
    intro record stored running unknown owner owned
    rcases (Table.mem_insert fresh).mp stored with old | rfl
    · have accounted := bare record old running unknown owner owned
      obtain ⟨isOver, other⟩ := accounted.elsewhere rfl rfl nofun
      exact accounted_elsewhere isOver other rfl
    · exact .inl rfl
  | refuseToSend here | refuse here | lose here =>
    rw [here] at facts
    obtain ⟨record, closed, named, _, _, settles, _⟩ :=
      facts.2.closes sound.book .failed (by decide) (by decide) _ _
    refine bare.close settles (by rw [here]; rfl) (by rw [here]; rfl) ?_ fun _ => .closeBackup
    exact fun id own => by rw [here] at own; exact (Option.some.inj own).symm.trans named.symm
  | @storeTask work backupId accepted here =>
    rw [here] at bare
    have keeps : ∀ row,
        (History.storeTask accepted.taskId accepted.correlationId row).id = row.id := fun _ => rfl
    intro record stored running unknown owner owned
    rcases (Table.mem_modify keeps).mp stored with ⟨old, _, _, rfl⟩ | ⟨old, different⟩
    · simp [History.storeTask] at unknown
    · have accounted := bare record old running unknown owner owned
      have notOwn : some backupId ≠ some record.id :=
        fun same => different (Option.some.inj same).symm
      obtain ⟨isOver, other⟩ := accounted.elsewhere rfl rfl notOwn
      exact accounted_elsewhere isOver other rfl
  | query here | keepPolling here =>
    rw [here] at bare
    exact bare.proceed rfl rfl rfl rfl
  | giveUp here =>
    rw [here] at facts
    obtain ⟨_, _, _, _, _, settles, _⟩ :=
      facts.2.closes sound.book .interrupted (by decide) (by decide) _ _
    refine bare.close settles (by rw [here]; rfl) (by rw [here]; rfl) ?_ fun _ => .closeBackup
    exact fun id own => by rw [here] at own; simp [Phase.unconfirmed] at own
  | record here terminal recorded =>
    rw [here] at facts
    obtain ⟨_, _, _, _, _, settles, _⟩ := facts.2.records sound.book recorded
    refine bare.close settles (by rw [here]; rfl) (by rw [here]; rfl) ?_
      fun _ isOver => isOver.recordOutcome recorded
    exact fun id own => by rw [here] at own; simp [Phase.unconfirmed] at own
  | pollStop here =>
    rw [here] at bare
    intro record stored running unknown owner owned
    obtain ⟨isOver, other⟩ :=
      (bare record stored running unknown owner owned).elsewhere rfl rfl nofun
    exact resumeLoop_accounts _ _ _ _ _ isOver other
  | handle here => exact sound.bare_crashed bare here
  | die here => exact fun _ _ _ _ _ _ => trivial
  | decideGone here absent =>
    rw [here] at bare
    intro record stored running unknown owner owned
    obtain ⟨run, isStored⟩ := sound.book.get_run stored owned
    obtain starting | handled | ⟨isOver, _⟩ := bare record stored running unknown owner owned
    · simp [Phase.unconfirmed] at starting
    · rw [handled_finalising handled, isStored] at absent
      simp at absent
    · exact .inr (.inr ⟨isOver, nofun⟩)
  | @decide runId error status exit here =>
    rw [here] at bare
    cases error with
    | none => exact bare.proceed rfl rfl rfl rfl
    | some => exact bare.goto fun _ _ accounted => accounted
  | @finalise runId error status exit now here =>
    rw [here] at facts bare
    intro record stored running unknown owner owned
    obtain ⟨run, isStored⟩ := sound.book.get_run stored owned
    obtain starting | handled | ⟨isOver, _⟩ := bare record stored running unknown owner owned
    · simp [Phase.unconfirmed] at starting
    · rw [handled_committing handled]
      exact .inr (.inr ⟨over_finished isStored facts.1, nofun⟩)
    · exact .inr (.inr ⟨isOver.finished facts.1, nofun⟩)
  | exitLoop here => exact fun _ _ _ _ _ _ => trivial
  | @cancelCommit runId now =>
    refine bare.undisturbed (.setRun (finished_leavesTally _ _ now) runId) ?_
    exact fun _ _ _ _ _ _ isOver => isOver.finished rfl

/-- A resumed loop is not asking for a start. -/
theorem resumeLoop_ne_asking (runId : Nat) (plan : RunPlan) (cancelled : List Nat)
    (stopping : Bool) (rest : List ResolvedTarget) (work : Work) (backupId : Nat) :
    resumeLoop runId plan cancelled stopping rest ≠ .asking work backupId := by
  have resumed := resumeLoop_resumed runId plan cancelled stopping rest
  generalize resumeLoop runId plan cancelled stopping rest = phase at resumed ⊢
  cases resumed <;> exact nofun

/-- The row that is about to be asked for was not asked for before. -/
theorem step_unsent {config : Config} {state after : State} {action : Action} (sound : Sound state)
    (starts : Starts state) (stepped : step config state action = some after) {work : Work}
    {backupId : Nat} (asking : after.phase = .asking work backupId) (runId : Nat)
    (guest : GuestKey) : Event.sent runId guest backupId ∉ after.journal := by
  have bare := starts.bare
  have facts := sound.facts
  have looped : ∀ runId plan cancelled stopping rest,
      resumeLoop runId plan cancelled stopping rest ≠ .asking work backupId :=
    fun runId plan cancelled stopping rest =>
      resumeLoop_ne_asking runId plan cancelled stopping rest work backupId
  cases step_moves stepped with
  | createRun | importFile | changeRestores | writeHistory | stop | cancelRead | cancelMark =>
    exact starts.unsent work backupId asking runId guest
  | cancelCommit | cancelReturn =>
    intro sent
    rcases List.mem_cons.mp sent with new | old
    · simp at new
    · exact starts.unsent work backupId asking runId guest old
  | adoptBare here listed found unknown =>
    rw [here] at facts bare
    exact (bare.adopted (facts.2.adopted listed found) unknown).elim
  | openBackup here unlisted fresh =>
    -- A new row is above every row that was asked for.
    intro sent
    obtain ⟨_, rfl⟩ := Phase.asking.inj asking
    obtain ⟨record, stored, named, _⟩ := starts.known runId guest _ sent
    have below := fresh record stored
    omega
  | loadPlan | refuseToSend | refuse | lose | giveUp | record | pollStop =>
    exact absurd asking (looped _ _ _ _ _)
  | boot | crash | scan | interruptPending | forget | leave | recover | requeue | claimRead |
    claimCommit | loseRun | rejectPlan | adoptTask | send | accept | storeTask | query |
    keepPolling | recordFails | claimFails | handle | die | decideGone | decide | finalise |
    exitLoop => cases asking

/-- One step keeps what holds of the start requests, when a restart sees every running row. -/
theorem step_starts {config : Config} {state after : State} {action : Action} (sound : Sound state)
    (starts : Starts state) (sees : seesAll state action = true)
    (stepped : step config state action = some after) : Starts after := by
  have grows := step_grows sound stepped
  have facts := sound.facts
  have known : ∀ runId guest backupId, Event.sent runId guest backupId ∈ state.journal →
      ∃ record ∈ after.db.history, record.id = backupId ∧ record.runId = some runId ∧
        record.key = guest := by
    intro runId guest backupId sent
    obtain ⟨record, stored, named, owned, key⟩ := starts.known runId guest backupId sent
    obtain ⟨later, laterStored, owner, _⟩ := grows.rows record stored
    exact ⟨later, laterStored, owner.id.trans named, owner.runId.trans owned, owner.key.trans key⟩
  have covered : ∀ runId status, Event.finalised runId status .normal ∈ state.journal →
      Covered after.db runId :=
    fun runId status ended => (starts.covered runId status ended).grows grows
  have bare := step_bare sound starts.bare sees stepped
  have unsent : ∀ work backupId, after.phase = .asking work backupId →
      ∀ runId guest, Event.sent runId guest backupId ∉ after.journal :=
    fun _ _ asking => step_unsent sound starts stepped asking
  rcases step_journal stepped with same | ⟨event, noted, journal⟩
  · refine ⟨bare, ?_, unsent, ?_, ?_⟩ <;> rw [same]
    · exact known
    · exact starts.once
    · exact covered
  · cases noted with
    | @sent work backupId here =>
      rw [here] at facts
      obtain ⟨_, record, stored, named, owned, key, _⟩ := facts
      refine ⟨bare, ?_, unsent, ?_, ?_⟩ <;> rw [journal]
      · intro runId guest id sent
        rcases List.mem_cons.mp sent with new | old
        · obtain ⟨rfl, rfl, rfl⟩ := Event.sent.inj new
          obtain ⟨later, laterStored, owner, _⟩ := grows.rows record stored
          exact ⟨later, laterStored, owner.id.trans named, owner.runId.trans owned,
            owner.key.trans key⟩
        · exact known runId guest id old
      · -- An earlier request for the guest was for the same row, which was not asked for yet.
        refine List.nodup_cons.mpr ⟨fun again => ?_, starts.once⟩
        obtain ⟨event, sent, is⟩ := List.mem_filterMap.mp again
        obtain ⟨id, rfl⟩ : ∃ id, event = .sent work.runId work.target.key id := by
          cases event <;> simp_all
        obtain ⟨other, otherStored, otherNamed, otherOwned, otherKey⟩ :=
          starts.known work.runId work.target.key id sent
        have equal : other = record := sound.book.single other otherStored record stored
          (by simp [otherOwned]) (otherOwned.trans owned.symm) (otherKey.trans key.symm)
        have sameId : id = backupId := by rw [← otherNamed, ← named, equal]
        exact starts.unsent work backupId here _ _ (sameId ▸ sent)
      · intro runId status ended
        exact covered runId status ((List.mem_cons.mp ended).resolve_left nofun)
    | finalised here =>
      rw [here] at facts
      refine ⟨bare, ?_, unsent, ?_, ?_⟩ <;> rw [journal]
      · intro runId guest id sent
        exact known runId guest id ((List.mem_cons.mp sent).resolve_left nofun)
      · exact starts.once
      · intro runId status ended
        rcases List.mem_cons.mp ended with new | old
        · obtain ⟨rfl, _, normal⟩ := Event.finalised.inj new
          exact (facts.2 normal.symm).grows grows
        · exact covered runId status old
    | refused | polled | recovered | cancelAccepted =>
      refine ⟨bare, ?_, unsent, ?_, ?_⟩ <;> rw [journal]
      · intro runId guest id sent
        exact known runId guest id ((List.mem_cons.mp sent).resolve_left nofun)
      · exact starts.once
      · intro runId status ended
        exact covered runId status ((List.mem_cons.mp ended).resolve_left nofun)

/-- Runs whose restarts see every running row send at most one start request for a guest. -/
theorem starts_of_reachable {config : Config} {state : State}
    (reached : (system config).Reachable (fun state action => seesAll state action = true) state) :
    Starts state := by
  refine reached.invariant (fun _ => sound_of_reachable) ⟨?_, ?_⟩
  · rintro _ rfl
    exact ⟨fun _ _ _ _ _ _ => trivial, nofun, nofun, List.nodup_nil, nofun⟩
  · exact fun _ _ _ sound starts sees stepped => step_starts sound starts sees stepped

/-- A guest has at most one row in a run and at most one start request was sent for it, and a run
that ended by its rows has exactly one row for each of its targets. -/
structure OncePerGuest (state : State) : Prop where
  rows : ∀ first ∈ state.db.history, ∀ second ∈ state.db.history, first.runId.isSome = true →
    first.runId = second.runId → first.key = second.key → first = second
  starts : (startsOf state.journal).Nodup
  complete : ∀ run ∈ state.db.runs, ∀ status,
    Event.finalised run.id status .normal ∈ state.journal → ∀ target ∈ run.targets.list,
      ∃! record, record ∈ state.db.history ∧ record.runId = some run.id ∧ record.key = target.key

/-- Whatever crashes, is refused, lost or forgotten, a guest gets one row and one start request. -/
theorem once_per_guest (config : Config) (state : State)
    (reached : (system config).Reachable (fun state action => seesAll state action = true) state) :
    OncePerGuest state := by
  have sound := sound_of_reachable reached
  have starts := starts_of_reachable reached
  refine ⟨sound.book.single, starts.once, fun run stored status ended target listed => ?_⟩
  obtain ⟨other, otherStored, named, all⟩ := starts.covered run.id status ended
  have equal : other = run := Table.eq_of_key otherStored stored named
  obtain ⟨record, recordStored, owned, key⟩ := all target (equal ▸ listed)
  refine ⟨record, ⟨recordStored, owned, key⟩, ?_⟩
  rintro found ⟨foundStored, foundOwned, foundKey⟩
  exact sound.book.single found foundStored record recordStored (by simp [foundOwned])
    (foundOwned.trans owned.symm) (foundKey.trans key.symm)

/-- A crash before the answer to a start request leads to no second request: the restart closes the
row, the run goes on with the next guest, and each guest ends with one row and one request. -/
theorem once_per_guest_after_crash : ∃ state,
    (system plainConfig).Reachable (fun state action => seesAll state action = true) state ∧
      startsOf state.journal = [(1, (102, .lxc)), (1, (101, .vm))] ∧
      state.db.history.rows.map BackupHistory.status = [.interrupted, .running] ∧
      OncePerGuest state := by
  obtain ⟨state, reached, shown⟩ : ∃ state,
      (system plainConfig).Reachable (fun state action => seesAll state action = true) state ∧
      (decide (startsOf state.journal = [(1, (102, .lxc)), (1, (101, .vm))] ∧
        state.db.history.rows.map BackupHistory.status = [.interrupted, .running])) = true :=
    System.exists_of_runFrom rfl (askAgent twoGuests ++ [.crash, .boot, .scan,
      .interruptPending 20, .requeue, .claimRead, .claimCommit 21, .loadPlan 22, .openBackup 2 23,
      .send]) _ (by decide)
  obtain ⟨asked, rows⟩ := of_decide_eq_true shown
  exact ⟨state, reached, asked, rows, once_per_guest plainConfig state reached⟩

end ProxSync.Runner
