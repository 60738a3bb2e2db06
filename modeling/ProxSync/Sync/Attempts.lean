import ProxSync.Sync.Coherence
/-!
# How often a transfer is tried

The attempt counter goes up when the worker claims a transfer and down when a restart finds it
running, so a waiting transfer counts the attempts that ended in a verdict. It is created at zero,
and a failure gives the transfer up once the counter reaches the allowance. An operator's retry sets
the counter to one instead, so a retried transfer is short of one attempt. The accounts below are of
transfers that were never retried.
-/
open ProxSync.Lib ProxSync.Retention ProxSync.History

namespace ProxSync.Sync

/-- The attempts of a transfer that ended in a verdict since it was last put on the queue. -/
def attempted (taskId : Nat) : List Event → Nat
  | [] => 0
  | .enqueued queued _ :: rest => if queued = taskId then 0 else attempted taskId rest
  | .retried queued :: rest => if queued = taskId then 0 else attempted taskId rest
  | .completed tried :: rest => (if tried = taskId then 1 else 0) + attempted taskId rest
  | .started _ _ :: rest | .addressed _ _ _ :: rest => attempted taskId rest

/-- A transfer accounts for its attempts: the counter stays within the allowance it was queued with,
a waiting transfer has used up what it counts, a running one is in the attempt after those, and one
that was given up has had all of them. -/
structure Accounted (journal : List Event) (task : SyncTask) : Prop where
  bound : task.attempt ≤ task.maxAttempts
  allowance : ∃ uploadRetry, .enqueued task.id uploadRetry ∈ journal ∧
    task.maxAttempts = uploadRetry + 1
  queued : task.status = .queued → task.attempt = attempted task.id journal ∧
    attempted task.id journal < task.maxAttempts
  running : task.status = .running → task.attempt = attempted task.id journal + 1
  failed : task.status = .failed → attempted task.id journal = task.maxAttempts

/-- A transfer accounts for its attempts, and so does the worker that holds it. -/
structure Counted (state : State) (task : SyncTask) : Prop extends
    Accounted state.journal task where
  selected : ∀ attempt, state.phase = .holding task.id (.selected attempt) →
    attempt = attempted task.id state.journal ∧ attempt < task.maxAttempts
  claimed : ∀ stage, state.phase = .holding task.id stage → stage.isClaimed = true →
    task.attempt = attempted task.id state.journal + 1

/-- Every transfer that was never retried is counted. -/
def AllCounted (state : State) : Prop :=
  ∀ task ∈ state.tasks, .retried task.id ∉ state.journal → Counted state task

section Counted

variable {state after : State} {action : Action} {task : SyncTask}

/-- An account is kept by events that are not about the transfer, while the worker holds it no
further than before. -/
theorem Counted.carry (counted : Counted state task)
    (same : attempted task.id after.journal = attempted task.id state.journal)
    (journal : state.journal <:+ after.journal)
    (selected : ∀ attempt, after.phase = .holding task.id (.selected attempt) →
      state.phase = .holding task.id (.selected attempt))
    (claimed : ∀ stage, after.phase = .holding task.id stage → stage.isClaimed = true →
      ∃ before, state.phase = .holding task.id before ∧ before.isClaimed = true) :
    Counted after task where
  bound := counted.bound
  allowance := by
    obtain ⟨uploadRetry, queued, equal⟩ := counted.allowance
    exact ⟨uploadRetry, journal.mem queued, equal⟩
  queued := same ▸ counted.queued
  running := same ▸ counted.running
  failed := same ▸ counted.failed
  selected attempt here := same ▸ counted.selected attempt (selected attempt here)
  claimed stage here isClaimed := by
    obtain ⟨before, held, wasClaimed⟩ := claimed stage here isClaimed
    exact same ▸ counted.claimed before held wasClaimed

/-- Where no transfer and no account changes, only where the worker is matters. -/
theorem AllCounted.carry (counted : AllCounted state) (tasks : after.tasks = state.tasks)
    (same : ∀ taskId, attempted taskId after.journal = attempted taskId state.journal)
    (journal : state.journal <:+ after.journal)
    (phase : ∀ taskId stage, after.phase = .holding taskId stage →
      ∃ before, state.phase = .holding taskId before ∧ before.isClaimed = stage.isClaimed ∧
        ∀ attempt, stage = .selected attempt → before = stage) : AllCounted after := by
  intro task stored unretried
  refine (counted task (tasks ▸ stored) fun old => unretried (journal.mem old)).carry
    (same task.id) journal (fun attempt here => ?_) fun stage here claimed => ?_
  · obtain ⟨before, held, _, equal⟩ := phase task.id _ here
    exact equal attempt rfl ▸ held
  · obtain ⟨before, held, equal, _⟩ := phase task.id _ here
    exact ⟨before, held, equal.trans claimed⟩

/-- Where one transfer is written, the others keep their accounts and it gets a new one. -/
theorem AllCounted.write (counted : AllCounted state) {written : Nat}
    {update : SyncTask → SyncTask} (keeps : ∀ task, (update task).id = task.id)
    (tasks : after.tasks = state.tasks.modify written update keeps)
    (same : ∀ taskId, taskId ≠ written →
      attempted taskId after.journal = attempted taskId state.journal)
    (journal : state.journal <:+ after.journal)
    (phase : ∀ taskId stage, taskId ≠ written → after.phase = .holding taskId stage →
      state.phase = .holding taskId stage)
    (own : ∀ task, task.id = written → .retried task.id ∉ after.journal → Counted state task →
      Counted after (update task)) : AllCounted after := by
  intro task stored unretried
  rw [tasks] at stored
  rcases (Table.mem_modify keeps).mp stored with ⟨old, before, named, rfl⟩ | ⟨before, other⟩
  · rw [keeps old] at unretried
    exact own old named unretried (counted old before fun listed => unretried (journal.mem listed))
  · exact (counted task before fun listed => unretried (journal.mem listed)).carry
      (same task.id other) journal (fun attempt here => phase _ _ other here)
      fun stage here claimed => ⟨stage, phase _ _ other here, claimed⟩

/-- A queued transfer has had no attempt, and the others keep their accounts. -/
theorem AllCounted.enqueue (counted : AllCounted state) (config : TransferConfig) (backupId : Nat)
    (apart : state.phase.held ≠ some state.tasks.nextKey) :
    AllCounted (state.enqueue config backupId) := by
  intro task stored unretried
  have journal : state.journal <:+ (state.enqueue config backupId).journal := List.suffix_cons _ _
  rcases (Table.mem_append _).mp stored with old | rfl
  · have other : state.tasks.nextKey ≠ task.id := (Table.lt_nextKey old).ne'
    exact (counted task old fun listed => unretried (journal.mem listed)).carry
      (if_neg other) journal (fun _ here => here) fun stage here claimed => ⟨stage, here, claimed⟩
  · have none : attempted state.tasks.nextKey (state.enqueue config backupId).journal = 0 :=
      if_pos rfl
    have free : ∀ stage, state.phase ≠ .holding state.tasks.nextKey stage :=
      fun stage here => apart (Phase.held_eq_some.mpr ⟨stage, here⟩)
    exact {
      bound := Nat.zero_le _
      allowance := ⟨config.uploadRetry, List.mem_cons_self, rfl⟩
      queued := fun _ => ⟨none.symm, none ▸ Nat.succ_pos _⟩
      running := nofun
      failed := nofun
      selected := fun attempt here => absurd here (free _)
      claimed := fun stage here _ => absurd here (free stage) }

/-- A commit keeps the accounts of the transfers that were never retried. -/
theorem commit_counted (counted : AllCounted state) (coherent : Coherent state) (now : Instant)
    (request : Request) : AllCounted (state.commit now request).release := by
  have apart : state.phase.held ≠ some state.tasks.nextKey := by
    intro held
    obtain ⟨stage, here⟩ := Phase.held_eq_some.mp held
    have known := coherent.phase
    rw [here] at known
    obtain ⟨task, stored, named⟩ := known
    exact (Table.lt_nextKey stored).ne named
  have phase := (commit_frame state now request).1
  have journal := (commit_grows state now request).journal
  have unmoved : ∀ taskId stage, (state.commit now request).release.phase = .holding taskId stage →
      state.phase = .holding taskId stage := fun _ _ here => phase ▸ here
  cases request with
  | upload backupId config =>
    have queued := counted.enqueue config backupId apart
    refine AllCounted.carry queued rfl (fun _ => rfl) List.suffix_rfl fun taskId stage here => ?_
    exact ⟨stage, here, rfl, fun _ _ => rfl⟩
  | importArtifact artifact config =>
    have imported : AllCounted { state with
        history := state.history.append (importRow · artifact) fun _ => rfl } :=
      counted.carry rfl (fun _ => rfl) List.suffix_rfl
        fun taskId stage here => ⟨stage, here, rfl, fun _ _ => rfl⟩
    have queued := imported.enqueue config state.history.nextKey apart
    exact AllCounted.carry queued rfl (fun _ => rfl) List.suffix_rfl
      fun taskId stage here => ⟨stage, here, rfl, fun _ _ => rfl⟩
  | cancel read =>
    have same : (state.commit now (.cancel read)).release.journal = state.journal :=
      setUpload_journal _ _
    refine counted.write (cancelledTask_id _ _) (setUpload_tasks _ _) (fun _ _ => by rw [same])
      journal
      (fun taskId stage _ here => unmoved taskId stage here) fun task _ _ old => ?_
    exact {
      bound := old.bound
      allowance := same ▸ old.allowance
      queued := nofun
      running := nofun
      failed := nofun
      selected := fun attempt here => same ▸ old.selected attempt (unmoved _ _ here)
      claimed := fun stage here claimed => same ▸ old.claimed stage (unmoved _ _ here) claimed }
  | retry read =>
    have noted : (state.commit now (.retry read)).release.journal =
        .retried read.id :: state.journal := congrArg (List.cons _) (setUpload_journal _ _)
    refine counted.write (retriedTask_id _) (setUpload_tasks _ _) (fun taskId other => ?_) journal
      (fun taskId stage _ here => unmoved taskId stage here) fun task named unretried _ => ?_
    · rw [noted]
      exact if_neg (Ne.symm other)
    · rw [noted, named] at unretried
      exact absurd List.mem_cons_self unretried

/-- A verdict on a claimed transfer counts the attempt it is in. -/
theorem attempted_completed (taskId : Nat) (journal : List Event) :
    attempted taskId (.completed taskId :: journal) = attempted taskId journal + 1 := by
  rw [attempted, if_pos rfl, Nat.add_comm]

/-- A recorded success leaves the transfer with the attempts it had. -/
theorem succeed_counted (counted : AllCounted state) (stored : task ∈ state.tasks)
    (finishedAt : Instant) (verification : Option (Option String × Option Int)) :
    AllCounted (state.recordSuccess task.id finishedAt verification) := by
  have grows := recordSuccess_grows stored finishedAt verification
  have tasks := recordSuccess_tasks stored finishedAt verification
  obtain ⟨idle, _, _, journal⟩ := recordSuccess_frame stored finishedAt verification
  refine counted.write (fun other => (succeededTask_same finishedAt other).id) tasks
    (fun taskId other => ?_) grows.journal (fun _ _ _ at_ => ?_) fun old _ _ before => ?_
  · rw [journal]
    simp [attempted, Ne.symm other]
  · rw [idle] at at_
    cases at_
  · refine ⟨⟨before.bound, ?_, nofun, nofun, nofun⟩, ?_, ?_⟩
    · obtain ⟨uploadRetry, queued, equal⟩ := before.allowance
      exact ⟨uploadRetry, grows.journal.mem queued, equal⟩
    · rw [idle]
      exact nofun
    · rw [idle]
      exact nofun

/-- A recorded failure queues the transfer again while it has attempts left. -/
theorem fail_counted (counted : AllCounted state) (stored : task ∈ state.tasks) {stage : Stage}
    (here : state.phase = .holding task.id stage) (claimed : stage.isClaimed = true)
    (message : String) (now : Instant) :
    AllCounted (state.recordFailure task.id message now) := by
  have grows := recordFailure_grows stored message now
  have tasks := recordFailure_tasks stored message now
  obtain ⟨idle, _, _, journal⟩ := recordFailure_frame stored message now
  refine counted.write (Lifecycle.afterFailure_id message now) tasks (fun taskId other => ?_)
    grows.journal (fun _ _ _ at_ => ?_) fun old named _ before => ?_
  · rw [journal]
    simp [attempted, Ne.symm other]
  · rw [idle] at at_
    cases at_
  · have tried : old.attempt = attempted old.id state.journal + 1 :=
      before.claimed stage (named ▸ here) claimed
    have verdict : attempted old.id (state.recordFailure task.id message now).journal =
        old.attempt := by
      rw [journal, ← named, attempted_completed, tried]
    have bound := before.bound
    obtain ⟨uploadRetry, queued, equal⟩ := before.allowance
    refine ⟨?_, ?_, ?_⟩
    · unfold Lifecycle.afterFailure
      dsimp only
      split
      · rename_i exhausted
        exact ⟨bound, ⟨uploadRetry, grows.journal.mem queued, equal⟩, nofun, nofun,
          fun _ => verdict.trans (le_antisymm bound exhausted)⟩
      · rename_i left
        have short : attempted old.id (state.recordFailure task.id message now).journal <
            old.maxAttempts := by
          rw [verdict]
          exact not_le.mp left
        exact ⟨bound, ⟨uploadRetry, grows.journal.mem queued, equal⟩,
          fun _ => ⟨verdict.symm, short⟩, nofun, nofun⟩
    · rw [idle]
      exact nofun
    · rw [idle]
      exact nofun

/-- One step keeps the accounts of the transfers that were never retried. -/
theorem moves_counted (counted : AllCounted state) (coherent : Coherent state)
    (moved : Moves state action after) : AllCounted after := by
  have journal := (moves_grow moved).journal
  have unmoved : ∀ taskId stage, state.phase = .holding taskId stage →
      ∃ before, state.phase = .holding taskId before ∧ before.isClaimed = stage.isClaimed ∧
        ∀ attempt, stage = .selected attempt → before = stage :=
    fun _ stage here => ⟨stage, here, rfl, fun _ _ => rfl⟩
  cases moved with
  | configure | arrive | verify | fetch | mark | remove | holdUpload | holdMatched | holdImport
  | holdCancel | holdRetry | abort =>
    exact counted.carry rfl (fun _ => rfl) journal unmoved
  | commit => exact commit_counted counted coherent _ _
  | crash | scan | skip | pick => exact counted.carry rfl (fun _ => rfl) journal nofun
  | leave free =>
    refine counted.carry rfl (fun _ => rfl) journal fun taskId stage here => ?_
    rcases free with rfl | rfl | rfl <;> cases here
  | recover =>
    intro task stored unretried
    obtain ⟨old, before, rfl⟩ := mem_requeueAll.mp stored
    rw [(afterRestart_same old).id] at unretried
    have account := counted old before unretried
    have bound := account.bound
    unfold Lifecycle.afterRestart
    split
    · rename_i running
      have tried := account.running running
      have left : old.attempt - 1 = attempted old.id state.journal := by omega
      refine ⟨⟨Nat.le_trans (Nat.sub_le _ _) bound, account.allowance, fun _ => ⟨left, ?_⟩, nofun,
        nofun⟩, nofun, nofun⟩
      change attempted old.id state.journal < old.maxAttempts
      omega
    · exact account.carry rfl journal nofun nofun
  | @enqueuePending config fresh here =>
    have queued : AllCounted (fresh.foldl (fun queued backupId =>
          queued.enqueue config backupId) state) ∧
        (fresh.foldl (fun queued backupId => queued.enqueue config backupId) state).phase =
          state.phase := by
      refine enqueueAll_keeps (fun middle => AllCounted middle ∧ middle.phase = state.phase) fresh
        (fun middle kept backupId _ => ⟨kept.1.enqueue config backupId ?_, kept.2⟩) ⟨counted, rfl⟩
      rw [kept.2, here]
      exact nofun
    exact queued.1.carry rfl (fun _ => rfl) List.suffix_rfl nofun
  | @select picked here stored queued =>
    intro task kept unretried
    have account := counted task kept unretried
    refine ⟨account.toAccounted, fun attempt selected => ?_, fun stage held claimed => ?_⟩
    · injection selected with named stage
      injection stage with equal
      have same := Table.eq_of_key stored kept named
      rw [← equal, same]
      obtain ⟨waited, left⟩ := account.queued (same ▸ queued)
      exact ⟨waited, waited ▸ left⟩
    · injection held with _ stage
      rw [← stage] at claimed
      cases claimed
  | @claim written attempt here =>
    refine counted.write (fun task => (claimedTask_same attempt task).id) rfl (fun _ _ => rfl)
      journal (fun taskId stage other at_ => ?_) fun task named _ before => ?_
    · injection at_ with same
      exact absurd same.symm other
    · obtain ⟨waited, left⟩ := before.selected attempt (named ▸ here)
      have counts : attempt + 1 = attempted task.id state.journal + 1 := by omega
      exact ⟨⟨left, before.allowance, nofun, fun _ => counts, nofun⟩, nofun, fun _ _ _ => counts⟩
  | @vanish transfer now here stored gone =>
    -- Every transfer is for a named row.
    obtain ⟨backupId, about, record, known, named, name⟩ := coherent.owners transfer stored
    rw [gone record known (about.trans (congrArg some named.symm))] at name
    cases name
  | load here | send here | accept here =>
    refine counted.carry rfl (fun _ => rfl) journal fun taskId stage at_ => ?_
    injection at_ with same now
    exact ⟨_, same ▸ here, by rw [← now]; rfl, fun attempt selected => by
      rw [← now] at selected
      cases selected⟩
  | @attach written agentTaskId here =>
    refine counted.write (fun task => (attachedTask_same agentTaskId task).id) rfl (fun _ _ => rfl)
      journal (fun taskId stage other at_ => ?_) fun task named _ before => ?_
    · injection at_ with same
      exact absurd same.symm other
    · have tried := before.claimed _ (named ▸ here) rfl
      exact ⟨⟨before.bound, before.allowance, before.queued, before.running, before.failed⟩, nofun,
        fun _ _ _ => tried⟩
  | succeed here stored => exact succeed_counted counted stored _ _
  | fail here claimed stored => exact fail_counted counted stored here claimed _ _

/-- A transfer that was never retried accounts for its attempts: its counter stays within the
allowance, restarts give back the attempt they interrupt, and it has had exactly its allowance of
attempts when it is given up. -/
theorem accounted_of_unretried (reached : system.Reachable System.unguarded state)
    (stored : task ∈ state.tasks) (unretried : .retried task.id ∉ state.journal) :
    Accounted state.journal task := by
  have preserved : system.Preserved System.unguarded Coherent AllCounted := by
    refine ⟨?_, ?_⟩
    · rintro _ ⟨drive, rfl⟩
      exact fun task stored => absurd stored (Table.not_mem_empty task)
    · exact fun _ _ _ coherent counted _ stepped =>
        moves_counted counted coherent (step_moves stepped)
  have counted := reached.invariant (fun _ => coherent_of_reachable) preserved
  exact (counted task stored unretried).toAccounted

end Counted

/-- One turn of the worker in which its first transfer fails. -/
def failedTurn : List Action :=
  [.turn, .check, .enqueuePending, .select 1, .claim, .load 31, .recordFailure "lost" 32]

/-- An upload with two tries that fails twice, and once more after an operator retries it. -/
def retriedUpload : List Action :=
  [.arrive Lifecycle.awaitingUpload.row, .recover, .configure { gdrive with uploadRetry := 1 }] ++
    failedTurn ++ failedTurn ++ [.retryTask 1, .commit 40] ++ failedTurn

/-- A retried transfer is given up one attempt short of its allowance. -/
theorem retry_costs_attempt :
    ¬ ∀ state task, system.Reachable System.unguarded state → task ∈ state.tasks →
      Accounted state.journal task := by
  intro always
  obtain ⟨state, reached, short⟩ : ∃ state, system.Reachable System.unguarded state ∧
      decide (∃ task ∈ state.tasks, task.status = .failed ∧
        attempted task.id state.journal = 1 ∧ task.maxAttempts = 2) = true :=
    System.exists_of_runFrom gdrive_initial retriedUpload _ (by decide)
  obtain ⟨task, stored, failed, tried, allowed⟩ := of_decide_eq_true short
  have account := (always state task reached stored).failed failed
  omega

/-- An upload that a crash interrupts has all its attempts left. -/
theorem crash_costs_nothing : ∃ state, system.Reachable System.unguarded state ∧
    ∃ task ∈ state.tasks, task.attempt = 0 ∧ Accounted state.journal task := by
  obtain ⟨state, reached, waiting⟩ : ∃ state, system.Reachable System.unguarded state ∧
      decide (∃ task ∈ state.tasks, task.attempt = 0 ∧ .retried task.id ∉ state.journal) = true :=
    System.exists_of_runFrom gdrive_initial (claimedUpload ++ [.load 31, .crash, .recover]) _
      (by decide)
  obtain ⟨task, stored, none, unretried⟩ := of_decide_eq_true waiting
  exact ⟨state, reached, task, stored, none, accounted_of_unretried reached stored unretried⟩

end ProxSync.Sync
