import ProxSync.Runner.Progress
/-!
# A cancelled run stays cancelled

The intent to cancel a run is half in its row and half in a set the process holds in memory. It
takes effect when the row is written as cancelled while the executor has nothing to do with the
run, or when the mark is set while the executor is past the start of a guest and will look at the
mark before it starts another. It is lost between the claim and the loop, where the mark is
discarded, before the start request of the current guest, where nobody looks at it, after the
status was worked out, and with the process.
-/
open ProxSync.Lib ProxSync.Retention ProxSync.History

namespace ProxSync.Runner

/-- The run the executor is busy with. -/
def Phase.owner : Phase → Option Nat
  | .claiming runId | .claimed runId | .finalising runId _ | .committing runId _ _ _ => some runId
  | .opening work | .asking work _ | .awaiting work _ | .storing work _ _ | .polling work _ _ _ |
    .querying work _ _ _ => some work.runId
  | _ => none

/-- The run whose loop is over and whose status is not worked out yet, or is that it is
cancelled. -/
def Phase.closing : Phase → Option Nat
  | .finalising runId _ | .committing runId _ .cancelled _ => some runId
  | _ => none

/-- The guest that is opened was started by an earlier process. -/
def adoptsTask (db : Database) (work : Work) : Bool :=
  ((work.plan.adoptable.lookup work.target.key).bind db.history.get).any fun record =>
    record.agentTaskId.isSome

namespace State

/-- What the executor is doing for a guest that was started. -/
def pastStart (state : State) : Option Work :=
  match state.phase with
  | .awaiting work _ | .storing work _ _ | .polling work _ _ _ | .querying work _ _ _ => some work
  | .opening work => if adoptsTask state.db work then some work else none
  | _ => none

/-- No shutdown leaves the run for a later process, or it is written as cancelled anyway. -/
def goesOn (state : State) (work : Work) : Bool :=
  !state.stopping || work.rest.isEmpty || runStatus state.db work.runId == some .cancelled

/-- The run is marked, and the executor looks at the mark before it starts another guest. -/
def endsCancelled (state : State) (runId : Nat) : Bool :=
  Decidable.decide (runId ∈ state.cancelled) && (state.phase.closing == some runId ||
    state.pastStart.any fun work => work.runId == runId && state.goesOn work)

/-- A cancellation was accepted that is not written. -/
def owes (state : State) (runId : Nat) : Bool :=
  Decidable.decide (Event.cancelAccepted runId ∈ state.journal) &&
    runStatus state.db runId != some .cancelled

end State

/-- The action loses no intent to cancel: a request is accepted only when its run is written as
cancelled and the executor is not busy with it, or the executor will end it as cancelled; and while
an accepted cancellation is not written, no shutdown is requested with a guest left, the process
does not die and the crash handler does not fail. -/
def keepsIntent (state : State) : Action → Bool
  | .cancelCommit runId _ => state.phase.owner != some runId || state.endsCancelled runId
  | .cancelReturn runId =>
    (state.phase.owner != some runId && runStatus state.db runId == some .cancelled) ||
      state.endsCancelled runId
  | .stop => state.pastStart.all fun work => !state.owes work.runId || work.rest.isEmpty
  | .crash => state.phase.owner.all fun runId => !state.owes runId
  | .raise => match state.phase with
    | .finalising runId (some _) | .committing runId (some _) _ _ => !state.owes runId
    | _ => true
  | _ => true

/-- No guest is started after the cancellation of its run was accepted, and a run that was cancelled
and is over is recorded as cancelled. -/
structure CancelHonoured (state : State) : Prop where
  starts : ∀ later earlier runId, state.journal = later ++ .cancelAccepted runId :: earlier →
    ∀ guest backupId, .sent runId guest backupId ∈ later → ∃ id, .sent runId guest id ∈ earlier
  final : ∀ runId, .cancelAccepted runId ∈ state.journal → ∀ status,
    runStatus state.db runId = some status → status.isTerminal = true → status = .cancelled

/-! ## The status of a run over one step -/

/-- What a step may make of the status of a stored run. -/
inductive StatusMoves (state after : State) (runId : Nat) : RunStatus → RunStatus → Prop
  | kept (status : RunStatus) : StatusMoves state after runId status status
  | requeued : StatusMoves state after runId .running .queued
  | claimed {before : RunStatus} (here : state.phase = .claiming runId) :
      StatusMoves state after runId before .running
  | finalised {before status : RunStatus} {error : Option String} {exit : RunExit}
      (here : state.phase = .committing runId error status exit) (left : after.phase = .idle) :
      StatusMoves state after runId before status
  | cancelled {before : RunStatus} : StatusMoves state after runId before .cancelled

section Step

variable {config : Config} {state after : State} {action : Action}

/-- A rewritten run goes to the status of its image. -/
theorem runStatus_moves {update : BackupRun → BackupRun} (leaves : LeavesTally update)
    {runId other : Nat} {before given : RunStatus}
    (stored : runStatus state.db other = some before)
    (image : ∀ run, (update run).status = given)
    (moves : other = runId → StatusMoves state after other before given) :
    ∃ later, runStatus (setRun state.db runId update leaves.id) other = some later ∧
      StatusMoves state after other before later := by
  by_cases same : other = runId
  · subst same
    exact ⟨given, runStatus_setRun_self leaves stored image, moves rfl⟩
  · exact ⟨before, (runStatus_setRun_other leaves same).trans stored, .kept before⟩

/-- A stored run keeps its status, or the executor or a cancel request changes it. -/
theorem step_runStatus (stepped : step config state action = some after) {runId : Nat}
    {before : RunStatus} (stored : runStatus state.db runId = some before) :
    ∃ later, runStatus after.db runId = some later ∧
      StatusMoves state after runId before later := by
  cases step_moves stepped with
  | createRun fresh => exact ⟨before, runStatus_createRun fresh stored, .kept before⟩
  | interruptPending | forget | refuseToSend | refuse | lose | giveUp =>
    exact ⟨before, (runStatus_closeBackup _ _ _ _ _ runId).trans stored, .kept before⟩
  | recover here terminal context recorded =>
    exact ⟨before, (runStatus_recordOutcome recorded runId).trans stored, .kept before⟩
  | record here terminal recorded =>
    exact ⟨before, (runStatus_recordOutcome recorded runId).trans stored, .kept before⟩
  | requeue here =>
    have written := runStatus_requeue state.db runId
    rw [stored, Option.map_some] at written
    by_cases running : before = .running
    · rw [if_pos running] at written
      exact ⟨.queued, written, running ▸ .requeued⟩
    · rw [if_neg running] at written
      exact ⟨before, written, .kept before⟩
  | @claimCommit owner now here =>
    exact runStatus_moves (claim_leavesTally now) stored (fun _ => rfl)
      fun same => .claimed (same ▸ here)
  | @loadPlan owner now =>
    exact ⟨before, (runStatus_started state.db owner now runId).trans stored, .kept before⟩
  | @finalise owner error status exit now here =>
    exact runStatus_moves (finished_leavesTally status error now) stored (fun _ => rfl)
      fun same => .finalised (same ▸ here) rfl
  | @cancelCommit owner now =>
    exact runStatus_moves (finished_leavesTally .cancelled _ now) stored (fun _ => rfl)
      fun _ => .cancelled
  | importFile | changeRestores | writeHistory | boot | crash | stop | scan | leave | claimRead |
    loseRun | rejectPlan | adoptTask | adoptBare | openBackup | send | accept | storeTask | query |
    keepPolling | recordFails | pollStop | claimFails | handle | die | decideGone | decide |
    exitLoop | cancelRead | cancelMark | cancelReturn => exact ⟨before, stored, .kept before⟩

/-- A resumed loop is the executor's business for its own run only. -/
theorem resumeLoop_owner {runId owner : Nat} {plan : RunPlan} {cancelled : List Nat}
    {stopping : Bool} {rest : List ResolvedTarget}
    (owned : (resumeLoop runId plan cancelled stopping rest).owner = some owner) :
    owner = runId := by
  have resumed := resumeLoop_resumed runId plan cancelled stopping rest
  generalize resumeLoop runId plan cancelled stopping rest = phase at resumed owned
  cases resumed with
  | paused => cases owned
  | finished | next => exact (Option.some.inj owned).symm

/-- The executor takes up a run only from the queue. -/
theorem step_owner (stepped : step config state action = some after) {runId : Nat}
    (owned : after.phase.owner = some runId) :
    state.phase.owner = some runId ∨
      state.phase.owner = none ∧ runStatus state.db runId = some .queued := by
  cases step_moves stepped with
  | claimRead here _ found =>
    obtain rfl := Option.some.inj owned
    exact .inr ⟨by rw [here]; rfl, nextQueued_status found⟩
  | loadPlan here | refuseToSend here | refuse here | lose here | giveUp here | record here
  | pollStop here =>
    rw [here, resumeLoop_owner owned]
    exact .inl rfl
  | handle here =>
    obtain rfl := Option.some.inj owned
    refine .inl ?_
    cases phase : state.phase <;> rw [phase] at here <;> cases here <;> rfl
  | claimCommit here | rejectPlan here | adoptTask here | adoptBare here | openBackup here
  | send here | accept here | storeTask here | query here | keepPolling here | recordFails here
  | decide here =>
    rw [here]
    exact .inl owned
  | createRun | importFile | changeRestores | writeHistory | stop | cancelRead | cancelCommit |
    cancelMark | cancelReturn => exact .inl owned
  | boot | crash | scan | interruptPending | forget | leave | recover | requeue | loseRun |
    claimFails | die | decideGone | finalise | exitLoop => cases owned

/-- A run that is written as cancelled while the executor is not busy with it stays so. -/
theorem step_written (stepped : step config state action = some after) {runId : Nat}
    (written : runStatus state.db runId = some .cancelled)
    (free : state.phase.owner ≠ some runId) :
    runStatus after.db runId = some .cancelled ∧ after.phase.owner ≠ some runId := by
  constructor
  · obtain ⟨later, given, moves⟩ := step_runStatus stepped written
    cases moves with
    | kept | cancelled => exact given
    | claimed here | finalised here =>
      rw [here] at free
      exact absurd rfl free
  · intro owned
    rcases step_owner stepped owned with before | ⟨_, queued⟩
    · exact free before
    · rw [written] at queued
      cases queued

end Step

/-! ## The end of a marked run -/

section Ending

variable {state after : State} {runId : Nat}

/-- Phases past the start of a guest, with what is done for it. -/
inductive PastStart (db : Database) : Phase → Work → Prop
  | opening {work : Work} (adopts : adoptsTask db work = true) : PastStart db (.opening work) work
  | awaiting (work : Work) (backupId : Nat) : PastStart db (.awaiting work backupId) work
  | storing (work : Work) (backupId : Nat) (accepted : AgentTaskAccepted) :
      PastStart db (.storing work backupId accepted) work
  | polling (work : Work) (backupId : Nat) (taskId : String) (since : Option Nat) :
      PastStart db (.polling work backupId taskId since) work
  | querying (work : Work) (backupId : Nat) (taskId : String) (since : Option Nat) :
      PastStart db (.querying work backupId taskId since) work

/-- The executor is past the start of a guest in one of these phases. -/
theorem State.pastStart_eq_some {work : Work} :
    state.pastStart = some work ↔ PastStart state.db state.phase work := by
  unfold State.pastStart
  constructor
  · intro past
    split at past
    case h_5 opened here =>
      by_cases adopts : adoptsTask state.db opened = true
      · rw [if_pos adopts, Option.some.injEq] at past
        exact here ▸ past ▸ .opening adopts
      · rw [if_neg adopts] at past
        cases past
    case h_6 => cases past
    all_goals
      rename_i here
      rw [Option.some.injEq] at past
      subst past
      rw [here]
    · exact .awaiting _ _
    · exact .storing _ _ _
    · exact .polling _ _ _ _
    · exact .querying _ _ _ _
  · intro past
    generalize state.phase = phase at past
    cases past with
    | opening adopts => exact if_pos adopts
    | awaiting | storing | polling | querying => rfl

/-- What it takes for the executor to end a run as cancelled. -/
theorem State.endsCancelled_iff : state.endsCancelled runId = true ↔ runId ∈ state.cancelled ∧
    (state.phase.closing = some runId ∨
      ∃ work, state.pastStart = some work ∧ work.runId = runId ∧ state.goesOn work = true) := by
  simp [State.endsCancelled, Option.any_eq_true]

/-- The cancellation of the run took effect, or will. -/
def Answered (state : State) (runId : Nat) : Prop :=
  (runStatus state.db runId = some .cancelled ∧ state.phase.owner ≠ some runId) ∨
    state.endsCancelled runId = true

/-- A guest whose task is known is still adopted where no row is disturbed. -/
theorem adoptsTask_undisturbed {db later : Database} {work : Work} (same : Undisturbed db later)
    (adopts : adoptsTask db work = true) : adoptsTask later work = true := by
  obtain ⟨record, found, known⟩ := (Option.any_eq_true _ _).mp adopts
  obtain ⟨id, listed, found⟩ := Option.bind_eq_some_iff.mp found
  obtain ⟨stored, rfl⟩ := Table.get_eq_some.mp found
  obtain ⟨row, rowStored, alike⟩ := same.forth record stored
  have refound : later.history.get record.id = some row := by
    rw [← alike.owner.id]
    exact Table.get_of_mem rowStored
  rw [adoptsTask, listed, Option.bind_some, refound]
  simpa [alike.task] using known

/-- What happens beside the executor leaves a marked run to be ended as cancelled. -/
theorem State.endsCancelled_beside (ends : state.endsCancelled runId = true)
    (same : Undisturbed state.db after.db) (phase : after.phase = state.phase)
    (stopping : after.stopping = state.stopping) (marks : runId ∈ after.cancelled)
    (written : runStatus state.db runId = some .cancelled →
      runStatus after.db runId = some .cancelled) : after.endsCancelled runId = true := by
  obtain ⟨_, closing | ⟨work, past, rfl, goes⟩⟩ := State.endsCancelled_iff.mp ends
  · exact State.endsCancelled_iff.mpr ⟨marks, .inl (phase ▸ closing)⟩
  · refine State.endsCancelled_iff.mpr ⟨marks, .inr ⟨work, ?_, rfl, ?_⟩⟩
    · rw [State.pastStart_eq_some] at past ⊢
      rw [phase]
      generalize state.phase = here at past ⊢
      cases past with
      | opening adopts => exact .opening (adoptsTask_undisturbed same adopts)
      | awaiting => exact .awaiting _ _
      | storing => exact .storing _ _ _
      | polling => exact .polling _ _ _ _
      | querying => exact .querying _ _ _ _
    · simp only [State.goesOn, Bool.or_eq_true, beq_iff_eq, stopping] at goes ⊢
      exact goes.imp_right written

/-- A marked run is at its end after the current guest, unless it is left for a shutdown. -/
theorem State.nextTarget_marked {work : Work} (marked : work.runId ∈ state.cancelled) :
    state.nextTarget work = .finalising work.runId none ∨
      state.nextTarget work = .idle ∧ state.stopping = true ∧ work.rest ≠ [] := by
  unfold State.nextTarget
  cases work.rest with
  | nil => exact .inl rfl
  | cons target rest =>
    unfold resumeLoop
    by_cases stopped : state.stopping = true
    · rw [if_pos stopped]
      exact .inr ⟨rfl, stopped, List.cons_ne_nil target rest⟩
    · rw [if_neg stopped, if_pos marked]
      exact .inl rfl

/-- Going on after the current guest of a marked run answers the cancellation. -/
theorem State.answered_nextTarget {work : Work} {db : Database}
    (marked : work.runId ∈ state.cancelled) (goes : state.goesOn work = true)
    (same : runStatus db work.runId = runStatus state.db work.runId) :
    Answered (state.commit db (state.nextTarget work)) work.runId := by
  rcases State.nextTarget_marked marked with ends | ⟨idle, stopped, remaining⟩
  · refine .inr (State.endsCancelled_iff.mpr ⟨marked, .inl ?_⟩)
    exact congrArg Phase.closing ends
  · refine .inl ⟨same.trans ?_, ?_⟩
    · simpa [State.goesOn, stopped, remaining] using goes
    · change (state.nextTarget work).owner ≠ some work.runId
      rw [idle]
      exact Option.some_ne_none work.runId |>.symm

end Ending

/-! ## Runs -/

/-- What the executor and the cancel requests keep between them. -/
structure Intent (state : State) : Prop where
  known : ∀ entry ∈ state.requests, (runStatus state.db entry.1).isSome = true
  current : ∀ runId, state.phase.owner = some runId → ∃ status,
    runStatus state.db runId = some status ∧ (status.isTerminal = true → status = .cancelled)
  answered : ∀ runId, .cancelAccepted runId ∈ state.journal → Answered state runId
  starts : ∀ later earlier runId, state.journal = later ++ .cancelAccepted runId :: earlier →
    ∀ guest backupId, .sent runId guest backupId ∈ later → ∃ id, .sent runId guest id ∈ earlier

section Run

variable {config : Config} {state after : State} {action : Action}

/-- Every cancel request in flight is for a stored run. -/
theorem step_known (sound : Sound state) (intent : Intent state)
    (stepped : step config state action = some after) :
    ∀ entry ∈ after.requests, (runStatus after.db entry.1).isSome = true := by
  have grows := step_grows sound stepped
  have carried : ∀ entry ∈ state.requests, (runStatus after.db entry.1).isSome = true :=
    fun entry pending => grows.runStatus (intent.known entry pending)
  cases step_moves stepped with
  | @cancelRead runId run stage serving stored seen =>
    intro entry pending
    rcases List.mem_cons.mp pending with rfl | old
    · rw [runStatus, stored]
      rfl
    · exact carried entry old
  | @cancelMark runId marking =>
    intro entry pending
    rcases List.mem_cons.mp pending with rfl | old
    · exact carried (runId, .sawRunning) marking
    · exact carried entry (List.mem_of_mem_erase old)
  | cancelCommit | cancelReturn =>
    exact fun entry pending => carried entry (List.mem_of_mem_erase pending)
  | crash => exact fun entry pending => absurd pending List.not_mem_nil
  | createRun | importFile | changeRestores | writeHistory | boot | stop | scan | interruptPending |
    forget | leave | recover | requeue | claimRead | claimCommit | loseRun | rejectPlan | loadPlan |
    adoptTask | adoptBare | openBackup | send | refuseToSend | accept | refuse | lose | storeTask |
    query | keepPolling | giveUp | record | recordFails | pollStop | claimFails | handle | die |
    decideGone | decide | finalise | exitLoop => exact carried

/-- The run the executor is busy with is stored, and is over only when it was cancelled. -/
theorem step_current (intent : Intent state) (stepped : step config state action = some after)
    {runId : Nat} (owned : after.phase.owner = some runId) : ∃ status,
      runStatus after.db runId = some status ∧
        (status.isTerminal = true → status = .cancelled) := by
  obtain ⟨before, stored, active⟩ : ∃ before, runStatus state.db runId = some before ∧
      (before.isTerminal = true → before = .cancelled) := by
    rcases step_owner stepped owned with same | ⟨_, queued⟩
    · exact intent.current runId same
    · exact ⟨.queued, queued, nofun⟩
  obtain ⟨later, given, moves⟩ := step_runStatus stepped stored
  refine ⟨later, given, ?_⟩
  cases moves with
  | kept => exact active
  | requeued | claimed => exact nofun
  | finalised here left =>
    rw [left] at owned
    cases owned
  | cancelled => exact fun _ => rfl

/-- A cancellation that is accepted and not owed is written. -/
theorem written_of_not_owed {runId : Nat} (accepted : .cancelAccepted runId ∈ state.journal)
    (clear : state.owes runId = false) : runStatus state.db runId = some .cancelled := by
  simpa [State.owes, accepted] using clear

/-- The run a marked run's executor is busy with is the marked one. -/
theorem State.owner_of_ends {runId : Nat} (ends : state.endsCancelled runId = true) :
    state.phase.owner = some runId := by
  obtain ⟨_, closing | ⟨work, past, rfl, _⟩⟩ := State.endsCancelled_iff.mp ends
  · generalize state.phase = phase at closing ⊢
    cases phase with
    | finalising => exact closing
    | committing owner error status exit =>
      cases status with
      | cancelled => exact closing
      | _ => cases closing
    | _ => cases closing
  · rw [State.pastStart_eq_some] at past
    generalize state.phase = phase at past
    cases past <;> rfl

/-- Writing that a run is cancelled leaves a marked run to be ended as cancelled. -/
theorem State.ends_cancelCommit {runId : Nat} (ends : state.endsCancelled runId = true)
    (owner : Nat) (now : Instant) : State.endsCancelled ({ state with
      db := setRun state.db owner
        (finished .cancelled (some "Cancelled before it started") now) fun _ => rfl
      requests := state.requests.erase (owner, .sawQueued) }.note (.cancelAccepted owner)) runId =
        true := by
  have leaves := finished_leavesTally .cancelled (some "Cancelled before it started") now
  have marked := (State.endsCancelled_iff.mp ends).1
  refine State.endsCancelled_beside ends (.setRun leaves owner) rfl rfl marked fun written => ?_
  by_cases same : runId = owner
  · subst same
    exact runStatus_setRun_self leaves written fun _ => rfl
  · exact (runStatus_setRun_other leaves same).trans written

/-- One step of an accepted run that the executor is to end as cancelled answers it still. -/
theorem step_ends (sound : Sound state) (intent : Intent state)
    (kept : keepsIntent state action = true) (stepped : step config state action = some after)
    {runId : Nat} (accepted : .cancelAccepted runId ∈ state.journal)
    (ends : state.endsCancelled runId = true) : Answered after runId := by
  have busy := State.owner_of_ends ends
  obtain ⟨marked, doing⟩ := State.endsCancelled_iff.mp ends
  rw [State.pastStart] at doing
  cases step_moves stepped with
  | createRun fresh =>
    exact .inr (State.endsCancelled_beside ends (.createRun fresh) rfl rfl marked
      (runStatus_createRun fresh))
  | importFile fresh =>
    exact .inr (State.endsCancelled_beside ends (.importFile fresh) rfl rfl marked fun same => same)
  | changeRestores =>
    refine .inr (State.endsCancelled_beside ends ?_ rfl rfl marked fun same => same)
    exact .ofRuns (fun run stored => ⟨run, stored, rfl, rfl⟩) rfl
  | writeHistory found applies =>
    obtain ⟨stored, rfl⟩ := Table.get_eq_some.mp found
    exact .inr (State.endsCancelled_beside ends (.writeHistory sound.book stored applies) rfl rfl
      marked fun same => same)
  | cancelRead | cancelReturn => exact .inr ends
  | cancelMark =>
    refine .inr (State.endsCancelled_beside ends ?_ rfl rfl (List.mem_cons_of_mem _ marked)
      fun same => same)
    exact .ofRuns (fun run stored => ⟨run, stored, rfl, rfl⟩) rfl
  | @cancelCommit owner now => exact .inr (State.ends_cancelCommit ends owner now)
  | stop =>
    refine .inr (State.endsCancelled_iff.mpr ⟨marked, ?_⟩)
    obtain ⟨_, closing | ⟨work, past, rfl, goes⟩⟩ := State.endsCancelled_iff.mp ends
    · exact .inl closing
    · refine .inr ⟨work, past, rfl, ?_⟩
      have fine : state.owes work.runId = false ∨ work.rest.isEmpty = true := by
        simpa [keepsIntent, past] using kept
      rcases fine with clear | last
      · simp [State.goesOn, written_of_not_owed accepted clear]
      · simp [State.goesOn, last]
  | crash =>
    have clear : state.owes runId = false := by simpa [keepsIntent, busy] using kept
    exact .inl ⟨written_of_not_owed accepted clear, fun owned => by cases owned⟩
  | die here =>
    have clear : state.owes runId = false := by
      cases phase : state.phase <;> rw [phase] at here busy <;> cases here <;> cases busy <;>
        simpa [keepsIntent, phase] using kept
    exact .inl ⟨written_of_not_owed accepted clear, fun owned => by cases owned⟩
  | handle here =>
    refine .inr (State.endsCancelled_iff.mpr ⟨marked, .inl ?_⟩)
    rw [← busy]
    cases phase : state.phase <;> rw [phase] at here <;> cases here <;> rfl
  | recordFails here =>
    refine .inr (State.endsCancelled_iff.mpr ⟨marked, .inl ?_⟩)
    rw [← busy, here]
    rfl
  | @adoptTask work id adoptId now adopted taskId here =>
    rw [here] at doing
    obtain closing | ⟨other, past, rfl, goes⟩ := doing
    · cases closing
    · dsimp only at past
      split at past
      · obtain rfl := Option.some.inj past
        exact .inr (State.endsCancelled_iff.mpr ⟨marked, .inr ⟨work, rfl, rfl, goes⟩⟩)
      · cases past
  | adoptBare here listed found unknown =>
    rw [here] at doing
    simp [Phase.closing, adoptsTask, listed, found, unknown] at doing
  | openBackup here unlisted =>
    rw [here] at doing
    simp [Phase.closing, adoptsTask, unlisted] at doing
  | accept here | query here | keepPolling here | storeTask here =>
    rw [here] at doing
    obtain closing | ⟨work, past, rfl, goes⟩ := doing
    · cases closing
    · exact .inr (State.endsCancelled_iff.mpr ⟨marked, .inr ⟨work, past, rfl, goes⟩⟩)
  | refuse here | lose here | giveUp here =>
    rw [here] at doing
    obtain closing | ⟨work, past, rfl, goes⟩ := doing
    · cases closing
    · obtain rfl := Option.some.inj past
      exact State.answered_nextTarget marked goes (runStatus_closeBackup _ _ _ _ _ _)
  | record here terminal recorded =>
    rw [here] at doing
    obtain closing | ⟨work, past, rfl, goes⟩ := doing
    · cases closing
    · obtain rfl := Option.some.inj past
      exact State.answered_nextTarget marked goes (runStatus_recordOutcome recorded _)
  | pollStop here =>
    rw [here] at doing
    obtain closing | ⟨work, past, rfl, goes⟩ := doing
    · cases closing
    · obtain rfl := Option.some.inj past
      exact State.answered_nextTarget marked goes rfl
  | decide here decided =>
    rw [here] at busy
    obtain rfl := Option.some.inj busy
    cases decided with
    | cancelled => exact .inr (State.endsCancelled_iff.mpr ⟨marked, .inl rfl⟩)
    | crashed unrequested | normal _ unrequested => exact absurd marked unrequested
  | decideGone here absent =>
    obtain ⟨status, stored, _⟩ := intent.current runId busy
    rw [here] at busy
    obtain rfl := Option.some.inj busy
    simp [runStatus, absent] at stored
  | @finalise owner error status exit now here =>
    obtain ⟨before, stored, _⟩ := intent.current runId busy
    rw [here] at busy doing
    obtain rfl := Option.some.inj busy
    have cancelled : status = .cancelled := by
      cases status <;> simp [Phase.closing] at doing
      rfl
    have written := runStatus_setRun_self (finished_leavesTally status error now) stored
      fun _ => rfl
    exact .inl ⟨cancelled ▸ written, fun owned => by cases owned⟩
  | boot here | scan here | interruptPending here | forget here | leave here | recover here
  | requeue here | claimRead here | claimCommit here | loseRun here | rejectPlan here
  | loadPlan here | send here | refuseToSend here | claimFails here | exitLoop here =>
    rw [here] at doing
    simp [Phase.closing] at doing

/-- One step that loses no intent answers every accepted cancellation. -/
theorem step_answered (sound : Sound state) (intent : Intent state)
    (kept : keepsIntent state action = true) (stepped : step config state action = some after)
    {runId : Nat} (accepted : .cancelAccepted runId ∈ after.journal) : Answered after runId := by
  by_cases before : .cancelAccepted runId ∈ state.journal
  · rcases intent.answered runId before with ⟨written, free⟩ | ends
    · exact .inl (step_written stepped written free)
    · exact step_ends sound intent kept stepped before ends
  -- The request is accepted by this very step.
  cases step_moves stepped with
  | @cancelCommit owner now pending =>
    obtain rfl : runId = owner :=
      Event.cancelAccepted.inj ((List.mem_cons.mp accepted).resolve_right before)
    simp only [keepsIntent, Bool.or_eq_true, bne_iff_ne] at kept
    rcases kept with free | ends
    · obtain ⟨status, stored⟩ := Option.isSome_iff_exists.mp (intent.known _ pending)
      have written := runStatus_setRun_self
        (finished_leavesTally .cancelled (some "Cancelled before it started") now) stored
        fun _ => rfl
      exact .inl ⟨written, free⟩
    · exact .inr (State.ends_cancelCommit ends runId now)
  | @cancelReturn owner pending =>
    obtain rfl : runId = owner :=
      Event.cancelAccepted.inj ((List.mem_cons.mp accepted).resolve_right before)
    simp only [keepsIntent, Bool.or_eq_true, Bool.and_eq_true, bne_iff_ne, beq_iff_eq] at kept
    rcases kept with ⟨free, written⟩ | ends
    · exact .inl ⟨written, free⟩
    · exact .inr ends
  | recover | send | refuse | record | recordFails | finalise =>
    exact absurd ((List.mem_cons.mp accepted).resolve_left (by simp)) before
  | createRun | importFile | changeRestores | writeHistory | boot | crash | stop | scan |
    interruptPending | forget | leave | requeue | claimRead | claimCommit | loseRun | rejectPlan |
    loadPlan | adoptTask | adoptBare | openBackup | refuseToSend | accept | lose | storeTask |
    query | keepPolling | giveUp | pollStop | claimFails | handle | die | decideGone | decide |
    exitLoop | cancelRead | cancelMark => exact absurd accepted before

/-- No step that loses no intent starts a guest of a run whose cancellation was accepted. -/
theorem step_noStart (intent : Intent state) (stepped : step config state action = some after) :
    ∀ later earlier runId, after.journal = later ++ .cancelAccepted runId :: earlier →
      ∀ guest backupId, .sent runId guest backupId ∈ later →
        ∃ id, .sent runId guest id ∈ earlier := by
  intro later earlier runId split guest backupId started
  rcases step_journal stepped with same | ⟨event, noted, journal⟩
  · exact intent.starts later earlier runId (same.symm.trans split) guest backupId started
  · rw [journal] at split
    cases later with
    | nil => cases started
    | cons latest later =>
      obtain ⟨rfl, rest⟩ := List.cons.inj split
      rcases List.mem_cons.mp started with new | old
      · -- The executor would be asking for a start: the run is neither off its hands nor marked.
        have accepted : .cancelAccepted runId ∈ state.journal := by
          rw [rest]
          exact List.mem_append_right _ List.mem_cons_self
        subst new
        cases noted with
        | sent here =>
          rcases intent.answered _ accepted with ⟨_, free⟩ | ends
          · rw [here] at free
            exact absurd rfl free
          · simp [State.endsCancelled, State.pastStart, here, Phase.closing] at ends
      · exact intent.starts later earlier runId rest guest backupId old

/-- One step that loses no intent keeps what the executor and the requests keep between them. -/
theorem step_intent (sound : Sound state) (intent : Intent state)
    (kept : keepsIntent state action = true) (stepped : step config state action = some after) :
    Intent after where
  known := step_known sound intent stepped
  current _ owned := step_current intent stepped owned
  answered _ accepted := step_answered sound intent kept stepped accepted
  starts := step_noStart intent stepped

end Run

/-- Where no step loses the intent to cancel, accepted cancellations are honoured. -/
theorem cancel_honoured (config : Config) (state : State)
    (reached : (system config).Reachable
      (fun state action => keepsIntent state action = true) state) : CancelHonoured state := by
  have intent : Intent state := by
    refine reached.invariant (fun _ => sound_of_reachable) ⟨?_, ?_⟩
    · rintro _ rfl
      refine ⟨nofun, nofun, nofun, fun later earlier runId split => ?_⟩
      exact absurd split.symm (List.append_ne_nil_of_right_ne_nil later (List.cons_ne_nil _ _))
    · exact fun _ _ _ sound intent kept stepped => step_intent sound intent kept stepped
  refine ⟨intent.starts, fun runId accepted status given isOver => ?_⟩
  rcases intent.answered runId accepted with ⟨written, _⟩ | ends
  · exact Option.some.inj (given.symm.trans written)
  · obtain ⟨current, stored, cancelled⟩ := intent.current runId (State.owner_of_ends ends)
    obtain rfl := Option.some.inj (given.symm.trans stored)
    exact cancelled isOver

/-- A run cancelled while its first guest is backed up starts no other guest and ends as
cancelled. -/
theorem cancel_honoured_midway : ∃ state,
    (system plainConfig).Reachable (fun state action => keepsIntent state action = true) state ∧
      .cancelAccepted 1 ∈ state.journal ∧ runStatus state.db 1 = some .cancelled ∧
      CancelHonoured state := by
  obtain ⟨state, reached, shown⟩ : ∃ state,
      (system plainConfig).Reachable (fun state action => keepsIntent state action = true) state ∧
      (decide (Event.cancelAccepted 1 ∈ state.journal ∧
        runStatus state.db 1 = some .cancelled)) = true :=
    System.exists_of_runFrom rfl (askedTask twoGuests ++ [.cancelRead 1, .cancelMark 1,
      .cancelReturn 1, .taskReply (.task (archived "vzdump-qemu-101.vma.zst")) 20 0, .decide,
      .finalise 21]) _ (by decide)
  obtain ⟨accepted, written⟩ := of_decide_eq_true shown
  exact ⟨state, reached, accepted, written, cancel_honoured plainConfig state reached⟩

/-- A cancellation accepted between the claim and the loop is forgotten, and the guest is
started. -/
theorem cancel_forgotten_at_claim :
    ¬ ∀ state, (system plainConfig).Reachable System.unguarded state → CancelHonoured state := by
  intro always
  obtain ⟨state, reached, shown⟩ : ∃ state,
      (system plainConfig).Reachable System.unguarded state ∧
      (decide (state.journal = [.sent 1 (101, .vm) 1, .cancelAccepted 1])) = true :=
    System.exists_of_runFrom rfl (claimRun oneGuest ++ [.cancelRead 1, .cancelMark 1,
      .cancelReturn 1, .loadPlan 11, .openBackup 1 12, .send]) _ (by decide)
  have journal := of_decide_eq_true shown
  obtain ⟨id, earlier⟩ := (always state reached).starts [.sent 1 (101, .vm) 1] [] 1 journal
    (101, .vm) 1 List.mem_cons_self
  cases earlier

end ProxSync.Runner
