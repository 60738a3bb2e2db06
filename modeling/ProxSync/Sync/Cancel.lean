import ProxSync.Sync.Coherence
/-!
# When a cancellation lasts

A cancellation only marks the transfer. The worker does not look at the mark once it has picked the
transfer: its claim, its load and its verdict write the status again. So a cancelled transfer stays
cancelled, and is not sent again, exactly when the worker did not hold it as the cancellation was
committed.
-/
open ProxSync.Lib ProxSync.Retention ProxSync.History

namespace ProxSync.Sync

/-- Whether an event is the start of an upload for a transfer. -/
def Event.isStartOf (taskId : Nat) : Event → Bool
  | .started sent _ => sent == taskId
  | _ => false

/-- How many uploads were started for a transfer. -/
def starts (taskId : Nat) (journal : List Event) : Nat := journal.countP (Event.isStartOf taskId)

/-- Whether an operator asks for another try of a transfer. -/
def Action.isRetryOf (taskId : Nat) : Action → Bool
  | .retryTask retried => retried == taskId
  | _ => false

/-- No operator asks for another try of a transfer. -/
def Unretried (taskId : Nat) (_ : State) (action : Action) : Prop :=
  action.isRetryOf taskId = false

instance (taskId : Nat) (state : State) (action : Action) :
    Decidable (Unretried taskId state action) :=
  inferInstanceAs (Decidable (action.isRetryOf taskId = false))

/-- Until it is retried, a transfer stays cancelled and nothing more is uploaded for it. -/
structure StaysCancelled (taskId : Nat) (state : State) : Prop where
  status : ∀ later, (system.startingAt state).Reachable (Unretried taskId) later →
    ∃ task ∈ later.tasks, task.id = taskId ∧ task.status = .cancelled
  starts : ∀ later, (system.startingAt state).Reachable (Unretried taskId) later →
    starts taskId later.journal = starts taskId state.journal

/-- A cancelled transfer that nobody is about to write. -/
structure Settled (taskId uploads : Nat) (state : State) : Prop where
  status : ∀ task ∈ state.tasks, task.id = taskId → task.status = .cancelled
  stored : ∃ task ∈ state.tasks, task.id = taskId
  starts : starts taskId state.journal = uploads
  held : state.phase.held ≠ some taskId
  request : ∀ read, state.request = some (.retry read) → read.id ≠ taskId

section Settled

variable {state after : State} {action : Action} {taskId uploads : Nat}

/-- A transfer other than the rewritten one is as it was. -/
theorem mem_setTask_other {written : Nat} {update : SyncTask → SyncTask}
    (keeps : ∀ task, (update task).id = task.id) {task : SyncTask}
    (stored : task ∈ state.tasks.modify written update keeps) (other : written ≠ task.id) :
    task ∈ state.tasks := by
  rcases (Table.mem_modify keeps).mp stored with ⟨old, _, named, rfl⟩ | ⟨before, _⟩
  · exact absurd (((keeps old).trans named).symm) other
  · exact before

/-- An appended transfer has an id of its own. -/
theorem nextKey_ne (settled : Settled taskId uploads state) : state.tasks.nextKey ≠ taskId := by
  obtain ⟨task, stored, rfl⟩ := settled.stored
  exact (Table.lt_nextKey stored).ne'

/-- A settled transfer stays so where it is not written, started, picked or retried. -/
theorem Settled.carry (settled : Settled taskId uploads state) (grows : Grows state after)
    (status : ∀ task ∈ after.tasks, task.id = taskId → task ∈ state.tasks ∨
      task.status = .cancelled)
    (started : Sync.starts taskId after.journal = Sync.starts taskId state.journal)
    (held : after.phase.held ≠ some taskId)
    (request : ∀ read, after.request = some (.retry read) → read.id ≠ taskId) :
    Settled taskId uploads after where
  status task stored named := (status task stored named).elim
    (fun old => settled.status task old named) id
  stored := by
    obtain ⟨task, stored, named⟩ := settled.stored
    obtain ⟨later, laterStored, same⟩ := grows.tasks task stored
    exact ⟨later, laterStored, same.id.trans named⟩
  starts := started.trans settled.starts
  held := held
  request := request

/-- Queueing another transfer leaves a settled one settled. -/
theorem Settled.enqueue (settled : Settled taskId uploads state) (config : TransferConfig)
    (backupId : Nat) : Settled taskId uploads (state.enqueue config backupId) := by
  refine settled.carry (.enqueue config backupId) (fun task stored named => ?_) ?_ settled.held
    settled.request
  · rcases (Table.mem_append _).mp stored with old | rfl
    · exact .inl old
    · exact absurd named (nextKey_ne settled)
  · exact List.countP_cons_of_neg nofun

/-- A commit leaves a settled transfer settled unless it is its retry. -/
theorem commit_settled (settled : Settled taskId uploads state) {request : Request}
    (holds : state.request = some request) (now : Instant) :
    Settled taskId uploads (state.commit now request).release := by
  have grows := commit_grows state now request
  have held : (state.commit now request).release.phase.held ≠ some taskId :=
    (commit_frame state now request).1 ▸ settled.held
  cases request with
  | upload backupId config =>
    have queued := settled.enqueue config backupId
    exact ⟨queued.status, queued.stored, queued.starts, held,
      (fun _ holds => nomatch holds)⟩
  | importArtifact artifact config =>
    refine settled.carry grows (fun task stored named => ?_) ?_ held
      fun _ holds => nomatch holds
    · have other : state.tasks.nextKey ≠ taskId := nextKey_ne settled
      rcases (Table.mem_append _).mp stored with old | rfl
      · exact .inl old
      · exact absurd named other
    · exact List.countP_cons_of_neg nofun
  | cancel read =>
    have tasks : (state.commit now (.cancel read)).tasks =
        state.tasks.modify read.id (cancelledTask now read) (cancelledTask_id _ _) :=
      setUpload_tasks _ _
    refine settled.carry grows (fun task stored named => ?_) ?_ held
      fun _ holds => nomatch holds
    · rw [State.release, tasks] at stored
      rcases (Table.mem_modify (cancelledTask_id _ _)).mp stored with ⟨old, _, _, rfl⟩ | ⟨before, _⟩
      · exact .inr rfl
      · exact .inl before
    · exact congrArg (Sync.starts taskId) (setUpload_journal _ _)
  | retry read =>
    have tasks : (state.commit now (.retry read)).tasks =
        state.tasks.modify read.id (retriedTask read) (retriedTask_id _) := setUpload_tasks _ _
    refine settled.carry grows (fun task stored named => ?_) ?_ held
      fun _ holds => nomatch holds
    · rw [State.release, tasks] at stored
      exact .inl (mem_setTask_other (retriedTask_id _) stored (named ▸ settled.request read holds))
    · have journal : (state.commit now (.retry read)).journal = .retried read.id :: state.journal :=
        congrArg (List.cons _) (setUpload_journal _ _)
      rw [State.release, journal]
      exact List.countP_cons_of_neg nofun

/-- The transfer the worker holds is not the settled one. -/
theorem Settled.other (settled : Settled taskId uploads state) {written : Nat} {stage : Stage}
    (here : state.phase = .holding written stage) : written ≠ taskId := by
  have held := settled.held
  rw [here] at held
  exact fun same => held (congrArg some same)

/-- What the worker writes to the transfer it holds leaves a settled one settled. -/
theorem Settled.write (settled : Settled taskId uploads state) {written : Nat} {stage : Stage}
    (here : state.phase = .holding written stage) {update : SyncTask → SyncTask}
    (keeps : ∀ task, (update task).id = task.id) (grows : Grows state after)
    (tasks : after.tasks = state.tasks.modify written update keeps)
    (started : Sync.starts taskId after.journal = Sync.starts taskId state.journal)
    (held : after.phase.held = some written ∨ after.phase.held = none)
    (request : after.request = state.request) : Settled taskId uploads after := by
  have other := settled.other here
  refine settled.carry grows (fun task stored named => .inl ?_) started ?_
    (request ▸ settled.request)
  · rw [tasks] at stored
    exact mem_setTask_other keeps stored (named ▸ other)
  · rcases held with same | free
    · exact same ▸ fun equal => other (Option.some.inj equal)
    · exact free ▸ nofun

/-- A step leaves a settled transfer settled unless its retry is asked for. -/
theorem moves_settled (settled : Settled taskId uploads state)
    (allowed : Unretried taskId state action) (moved : Moves state action after) :
    Settled taskId uploads after := by
  have grows := moves_grow moved
  have held := settled.held
  have unchanged : ∀ task ∈ state.tasks, task.id = taskId → task ∈ state.tasks ∨
      task.status = .cancelled := fun _ stored _ => .inl stored
  have noted : ∀ event, event.isStartOf taskId = false →
      Sync.starts taskId (event :: state.journal) = Sync.starts taskId state.journal :=
    fun event other => List.countP_cons_of_neg (by simp [other])
  cases moved with
  | configure | arrive | mark =>
    exact settled.carry grows unchanged rfl held settled.request
  | verify | fetch | remove =>
    exact settled.carry grows unchanged (noted _ rfl) held settled.request
  | holdUpload | holdMatched | holdImport | holdCancel =>
    exact settled.carry grows unchanged rfl held fun _ holds => nomatch holds
  | @holdRetry task free stored =>
    refine settled.carry grows unchanged rfl held fun read holds => ?_
    have same : task = read := by injection Option.some.inj holds
    exact same ▸ by simpa [Unretried, Action.isRetryOf] using allowed
  | abort => exact settled.carry grows unchanged rfl held fun _ holds => nomatch holds
  | crash =>
    exact settled.carry grows unchanged rfl (fun holds => nomatch holds)
      fun _ holds => nomatch holds
  | commit holds => exact commit_settled settled holds _
  | recover =>
    refine settled.carry grows (fun task stored named => .inr ?_) rfl (fun holds => nomatch holds)
      settled.request
    obtain ⟨old, before, rfl⟩ := mem_requeueAll.mp stored
    have cancelled := settled.status old before ((afterRestart_same old).id.symm.trans named)
    rw [Lifecycle.afterRestart, if_neg (by rw [cancelled]; exact nofun)]
    exact cancelled
  | leave free =>
    refine settled.carry grows unchanged rfl ?_ settled.request
    rcases free with rfl | rfl | rfl <;> exact nofun
  | scan | skip | pick =>
    exact settled.carry grows unchanged rfl (fun holds => nomatch holds) settled.request
  | @enqueuePending config fresh here =>
    have queued : Settled taskId uploads (fresh.foldl (fun queued backupId =>
        queued.enqueue config backupId) state) :=
      enqueueAll_keeps _ fresh (fun _ kept backupId _ => kept.enqueue config backupId) settled
    exact ⟨queued.status, queued.stored, queued.starts, (fun holds => nomatch holds),
      queued.request⟩
  | @select task here stored queued =>
    refine settled.carry grows unchanged rfl (fun picked => ?_) settled.request
    have cancelled := settled.status task stored (Option.some.inj picked)
    rw [queued] at cancelled
    cases cancelled
  | @claim written attempt here =>
    exact settled.write here (fun task => (claimedTask_same attempt task).id) grows rfl rfl
      (.inl rfl) rfl
  | @attach written agentTaskId here =>
    exact settled.write here (fun task => (attachedTask_same agentTaskId task).id) grows rfl rfl
      (.inl rfl) rfl
  | @vanish transfer now here stored =>
    exact settled.write here (fun task => (vanishedTask_same now task).id) grows rfl rfl
      (.inr rfl) rfl
  | load here | accept here =>
    have other := settled.other here
    exact settled.carry grows unchanged rfl (fun equal => other (Option.some.inj equal))
      settled.request
  | send here =>
    have other := settled.other here
    refine settled.carry grows unchanged (noted _ ?_) (fun equal => other (Option.some.inj equal))
      settled.request
    simpa [Event.isStartOf] using other
  | @succeed task agentTaskId finishedAt verification here stored =>
    obtain ⟨idle, request, _, journal⟩ := recordSuccess_frame stored finishedAt verification
    refine settled.write here (fun task => (succeededTask_same finishedAt task).id) grows
      (recordSuccess_tasks stored finishedAt verification) ?_ (.inr (idle ▸ rfl)) request
    exact journal ▸ noted _ rfl
  | @fail task stage message now here claimed stored =>
    obtain ⟨idle, request, _, journal⟩ := recordFailure_frame stored message now
    refine settled.write here (Lifecycle.afterFailure_id message now) grows
      (recordFailure_tasks stored message now) ?_ (.inr (idle ▸ rfl)) request
    exact journal ▸ noted _ rfl

/-- From a settled transfer on, it stays cancelled and unsent until it is retried. -/
theorem Settled.stays (settled : Settled taskId uploads state) : StaysCancelled taskId state := by
  have always : ∀ later, (system.startingAt state).Reachable (Unretried taskId) later →
      Settled taskId uploads later := by
    intro later reached
    refine reached.invariant_alone ⟨?_, ?_⟩
    · rintro _ rfl
      exact settled
    · exact fun _ _ _ _ kept allowed stepped => moves_settled kept allowed (step_moves stepped)
  refine ⟨fun later reached => ?_, fun later reached => ?_⟩
  · obtain ⟨task, stored, named⟩ := (always later reached).stored
    exact ⟨task, stored, named, (always later reached).status task stored named⟩
  · exact (always later reached).starts.trans settled.starts.symm

/-- What a cancellation leaves is settled when the worker does not hold the transfer. -/
theorem cancel_settled {read : SyncTask} (known : (Request.cancel read).Known state)
    (apart : state.phase.held ≠ some read.id) (now : Instant) :
    Settled read.id (starts read.id state.journal)
      (state.commit now (.cancel read)).release := by
  have tasks : (state.commit now (.cancel read)).tasks =
      state.tasks.modify read.id (cancelledTask now read) (cancelledTask_id _ _) :=
    setUpload_tasks _ _
  obtain ⟨current, stored, same⟩ := known
  refine ⟨fun task kept named => ?_, ?_, ?_, ?_, fun _ holds => nomatch holds⟩
  · rw [State.release, tasks] at kept
    rcases (Table.mem_modify (cancelledTask_id _ _)).mp kept with ⟨old, _, _, rfl⟩ | ⟨_, other⟩
    · rfl
    · exact absurd named other
  · rw [State.release, tasks]
    exact Table.exists_mem_modify (cancelledTask_id _ _) stored same.id fun _ => same.id
  · exact congrArg (starts read.id) (setUpload_journal _ _)
  · exact (commit_frame state now (.cancel read)).1 ▸ apart

/-- A transfer whose status the next step overwrites does not stay cancelled. -/
theorem not_staysCancelled {update : SyncTask → SyncTask}
    (keeps : ∀ task, (update task).id = task.id) (stepped : step state action = some after)
    (allowed : action.isRetryOf taskId = false)
    (tasks : after.tasks = state.tasks.modify taskId update keeps)
    (revived : ∀ task, (update task).status ≠ .cancelled) : ¬ StaysCancelled taskId state := by
  intro stays
  have reached : (system.startingAt state).Reachable (Unretried taskId) after :=
    .next (.start rfl) allowed stepped
  obtain ⟨task, stored, named, cancelled⟩ := stays.status after reached
  rw [tasks] at stored
  rcases (Table.mem_modify keeps).mp stored with ⟨old, _, _, rfl⟩ | ⟨_, other⟩
  · exact revived old cancelled
  · exact other named

/-- A failed transfer is queued or given up. -/
theorem afterFailure_status (message : String) (now : Instant) (task : SyncTask) :
    (Lifecycle.afterFailure message now task).status ≠ .cancelled := by
  unfold Lifecycle.afterFailure
  dsimp only
  split <;> exact nofun

/-- A transfer that the worker holds as its cancellation is committed does not stay cancelled. -/
theorem cancel_overtaken {read : SyncTask} (known : (Request.cancel read).Known state)
    (held : state.phase.held = some read.id) (now : Instant) :
    ¬ StaysCancelled read.id (state.commit now (.cancel read)).release := by
  have grown := known.grow (commit_grows state now (.cancel read))
  obtain ⟨phase, released, _⟩ := commit_frame state now (.cancel read)
  generalize (state.commit now (.cancel read)).release = cancelled at grown phase released ⊢
  obtain ⟨current, stored, same⟩ := grown
  obtain ⟨stage, here⟩ : ∃ stage, cancelled.phase = .holding read.id stage := by
    rw [phase]
    exact Phase.held_eq_some.mp held
  cases claimed : stage.isClaimed with
  | true =>
    -- The verdict of a claimed transfer queues it again or gives it up.
    have free : cancelled.free = true := by simp [State.free, State.serving, released, here]
    have stepped : step cancelled (.recordFailure "" now) =
        some (cancelled.recordFailure read.id "" now) := by simp [step, here, free, claimed]
    exact not_staysCancelled (Lifecycle.afterFailure_id "" now) stepped rfl
      (same.id ▸ recordFailure_tasks stored "" now) (afterFailure_status "" now)
  | false =>
    -- The claim of a selected transfer marks it running.
    obtain ⟨attempt, rfl⟩ := Stage.isClaimed_eq_false.mp claimed
    have stepped : step cancelled .claim = some ((cancelled.setTask read.id (claimedTask attempt)
        (claimedTask_id _)).goto (.holding read.id .claimed)) := by simp [step, here]
    have revived : ∀ task, (claimedTask attempt task).status ≠ .cancelled := by
      intro task same
      cases same
    exact not_staysCancelled (claimedTask_id _) stepped rfl rfl revived

/-- A cancellation lasts exactly when the worker does not hold the transfer as it is committed: from
then on the transfer stays cancelled and is not sent again, unless it is retried. -/
theorem cancel_lasts_iff (reached : system.Reachable System.unguarded state) {read : SyncTask}
    (holds : state.request = some (.cancel read)) {now : Instant}
    (committed : step state (.commit now) = some after) :
    StaysCancelled read.id after ↔ state.phase.held ≠ some read.id := by
  have known := (coherent_of_reachable reached).request _ holds
  have effect : (state.commit now (.cancel read)).release = after := by
    simpa [step, holds] using committed
  rw [← effect]
  constructor
  · exact fun stays held => cancel_overtaken known held now stays
  · exact fun apart => (cancel_settled known apart now).stays

end Settled

/-- The transfer that the request at hand is about to cancel, as it was read. -/
def cancelling (state : State) : Option SyncTask :=
  match state.request with
  | some (.cancel read) => some read
  | _ => none

/-- A cancelling request commits. -/
theorem cancelling_commits {state : State} {read : SyncTask}
    (cancels : cancelling state = some read)
    (now : Instant) : state.request = some (.cancel read) ∧
      step state (.commit now) = some (state.commit now (.cancel read)).release := by
  unfold cancelling at cancels
  split at cancels
  · rename_i other holds
    have same : other = read := Option.some.inj cancels
    subst same
    exact ⟨holds, by simp [step, holds]⟩
  · cases cancels

/-- A transfer that is cancelled while the worker holds it comes back. -/
theorem cancellation_overtaken :
    ¬ ∀ state read now after, system.Reachable System.unguarded state →
      state.request = some (.cancel read) → step state (.commit now) = some after →
      StaysCancelled read.id after := by
  intro always
  obtain ⟨state, reached, cancels⟩ : ∃ state, system.Reachable System.unguarded state ∧
      ((cancelling state).any fun read => state.phase.held == some read.id) = true :=
    System.exists_of_runFrom gdrive_initial (claimedUpload ++ [.cancelTask 1]) _ (by decide)
  obtain ⟨read, found, held⟩ := (Option.any_eq_true _ _).mp cancels
  obtain ⟨holds, stepped⟩ := cancelling_commits found 30
  have known := (coherent_of_reachable reached).request _ holds
  have stays := always state read 30 _ reached holds stepped
  exact cancel_overtaken known (by simpa using held) 30 stays

/-- A queued upload that is cancelled while the worker is idle stays cancelled. -/
theorem cancellation_lasts : ∃ state read after, system.Reachable System.unguarded state ∧
    state.request = some (.cancel read) ∧ step state (.commit 30) = some after ∧
    StaysCancelled read.id after := by
  obtain ⟨state, reached, cancels⟩ : ∃ state, system.Reachable System.unguarded state ∧
      ((cancelling state).any fun read => state.phase.held != some read.id) = true :=
    System.exists_of_runFrom gdrive_initial [.arrive Lifecycle.awaitingUpload.row, .recover, .turn,
      .check, .enqueuePending, .wait, .cancelTask 1] _ (by decide)
  obtain ⟨read, found, apart⟩ := (Option.any_eq_true _ _).mp cancels
  obtain ⟨holds, stepped⟩ := cancelling_commits found 30
  have lasts := (cancel_lasts_iff reached holds stepped).mpr (by simpa using apart)
  exact ⟨state, read, _, reached, holds, stepped, lasts⟩

end ProxSync.Sync
