import ProxSync.Sync.Coherence
/-!
# One transfer for a backup

Four parties bring a transfer of a backup to life: an upload request and the worker's scan queue a
new one, a retry revives an old one, and the worker that holds one writes its status back. Only the
first two look for another transfer, and the scan does so without the guard. A party has a stake in
a backup from its look to its write. In runs where nobody takes a stake in a backup while somebody
else has one, no backup has two transfers that are queued or running.
-/
open ProxSync.Lib ProxSync.Retention ProxSync.History

namespace ProxSync.Sync

/-- The backups a scan still has to check. -/
def Phase.rest : Phase → List Nat
  | .scanning _ rest _ => rest
  | _ => []

/-- A transfer that is queued or running, or that the worker holds. -/
def Claims (state : State) (task : SyncTask) : Prop :=
  SyncTask.isActive task = true ∨ state.phase.held = some task.id

instance (state : State) (task : SyncTask) : Decidable (Claims state task) :=
  inferInstanceAs (Decidable (SyncTask.isActive task = true ∨ state.phase.held = some task.id))

/-- The backup a request is about to queue a transfer of. -/
def Request.backup : Request → Option Nat
  | .upload backupId _ => some backupId
  | .retry read => read.backupId
  | .importArtifact _ _ | .cancel _ => none

/-- Whether the request at hand is about to queue a transfer of a backup. -/
def Requested (state : State) (backupId : Nat) : Prop :=
  ∃ request ∈ state.request, request.backup = some backupId

instance (state : State) (backupId : Nat) : Decidable (Requested state backupId) :=
  inferInstanceAs (Decidable (∃ request ∈ state.request, request.backup = some backupId))

/-- No stored transfer has a stake in a backup. -/
def Unclaimed (state : State) (backupId : Nat) : Prop :=
  ∀ task ∈ state.tasks, task.backupId = some backupId → ¬ Claims state task

instance (state : State) (backupId : Nat) : Decidable (Unclaimed state backupId) :=
  inferInstanceAs (Decidable (∀ task ∈ state.tasks, task.backupId = some backupId →
    ¬ Claims state task))

/-- The transfer is the only stored one with a stake in its backup. -/
def SoleClaimant (state : State) (task : SyncTask) : Prop :=
  ∀ other ∈ state.tasks, other.backupId = task.backupId → Claims state other → other.id = task.id

instance (state : State) (task : SyncTask) : Decidable (SoleClaimant state task) :=
  inferInstanceAs (Decidable (∀ other ∈ state.tasks, other.backupId = task.backupId →
    Claims state other → other.id = task.id))

/-- Each backup has at most one transfer that is queued or running. -/
def SingleTransfer (state : State) : Prop :=
  ∀ backupId, ∀ first ∈ state.tasks, first.backupId = some backupId →
    SyncTask.isActive first = true → ∀ second ∈ state.tasks, second.backupId = some backupId →
    SyncTask.isActive second = true → first = second

/-- The backup an action asks an upload of. -/
def Action.uploads (history : Table BackupHistory.id) : Action → Option Nat
  | .enqueueUpload backupId _ => some backupId
  | .enqueueUploadByFilename artifact _ => (matched history artifact.filename).map BackupHistory.id
  | _ => none

/-- The transfer an action asks another try of. -/
def Action.retries : Action → Option Nat
  | .retryTask taskId => some taskId
  | _ => none

/-- The backup an action of the worker checks. -/
def Action.checks (phase : Phase) : Action → Option Nat
  | .check => phase.rest.head?
  | _ => none

/-- Nobody takes a stake in a backup while somebody else has one. -/
structure TakesTurns (state : State) (action : Action) : Prop where
  upload : ∀ backupId ∈ action.uploads state.history, Unclaimed state backupId ∧
    backupId ∉ state.phase.fresh
  retry : ∀ taskId ∈ action.retries, ∀ task ∈ state.tasks, task.id = taskId →
    SoleClaimant state task ∧ ∀ backupId ∈ task.backupId, backupId ∉ state.phase.fresh
  check : ∀ backupId ∈ action.checks state.phase, ¬ Requested state backupId

instance (state : State) (action : Action) : Decidable (TakesTurns state action) :=
  decidable_of_iff
    ((∀ backupId ∈ action.uploads state.history, Unclaimed state backupId ∧
      backupId ∉ state.phase.fresh) ∧
    (∀ taskId ∈ action.retries, ∀ task ∈ state.tasks, task.id = taskId →
      SoleClaimant state task ∧ ∀ backupId ∈ task.backupId, backupId ∉ state.phase.fresh) ∧
    (∀ backupId ∈ action.checks state.phase, ¬ Requested state backupId))
    ⟨fun all => ⟨all.1, all.2.1, all.2.2⟩, fun turns => ⟨turns.upload, turns.retry, turns.check⟩⟩

/-- What every reachable state satisfies while everybody takes turns. -/
structure Exclusive (state : State) : Prop where
  tasks : ∀ task ∈ state.tasks, Claims state task → SoleClaimant state task
  scan : (state.phase.rest ++ state.phase.fresh).Nodup
  fresh : ∀ backupId ∈ state.phase.fresh, Unclaimed state backupId ∧ ¬ Requested state backupId
  upload : ∀ backupId config, state.request = some (.upload backupId config) →
    Unclaimed state backupId
  retry : ∀ read, state.request = some (.retry read) → SoleClaimant state read

section Exclusive

variable {state after : State} {action : Action}

/-- Where nothing new claims a backup, unclaimed backups stay so. -/
theorem Unclaimed.carry {backupId : Nat} (unclaimed : Unclaimed state backupId)
    (back : ∀ later ∈ after.tasks, Claims after later →
      ∃ task ∈ state.tasks, SameTransfer task later ∧ Claims state task) :
    Unclaimed after backupId := by
  intro later stored about claims
  obtain ⟨task, taskStored, same, claimed⟩ := back later stored claims
  exact unclaimed task taskStored (same.backupId.symm.trans about) claimed

/-- Where nothing new claims a backup, a sole claimant stays one. -/
theorem SoleClaimant.carry {task later : SyncTask} (sole : SoleClaimant state task)
    (same : SameTransfer task later)
    (back : ∀ later ∈ after.tasks, Claims after later →
      ∃ task ∈ state.tasks, SameTransfer task later ∧ Claims state task) :
    SoleClaimant after later := by
  intro other stored about claims
  obtain ⟨old, oldStored, version, claimed⟩ := back other stored claims
  have about' : old.backupId = task.backupId :=
    version.backupId.symm.trans (about.trans same.backupId)
  exact version.id.trans ((sole old oldStored about' claimed).trans same.id.symm)

/-- Where nothing new claims a backup, and nothing more is scanned or requested, the parties keep
their turns. -/
theorem Exclusive.carry (exclusive : Exclusive state)
    (back : ∀ later ∈ after.tasks, Claims after later →
      ∃ task ∈ state.tasks, SameTransfer task later ∧ Claims state task)
    (rest : (after.phase.rest ++ after.phase.fresh).Sublist
      (state.phase.rest ++ state.phase.fresh))
    (fresh : after.phase.fresh ⊆ state.phase.fresh)
    (request : ∀ request ∈ after.request, request ∈ state.request) : Exclusive after where
  tasks later stored claims := by
    obtain ⟨task, taskStored, same, claimed⟩ := back later stored claims
    exact (exclusive.tasks task taskStored claimed).carry same back
  scan := exclusive.scan.sublist rest
  fresh backupId listed := by
    obtain ⟨unclaimed, unrequested⟩ := exclusive.fresh backupId (fresh listed)
    refine ⟨unclaimed.carry back, fun requested => unrequested ?_⟩
    obtain ⟨held, holds, about⟩ := requested
    exact ⟨held, request held holds, about⟩
  upload backupId config holds :=
    (exclusive.upload backupId config (request _ holds)).carry back
  retry read holds := (exclusive.retry read (request _ holds)).carry (.refl read) back

/-- A transfer that is rewritten claims nothing it did not claim before. -/
theorem claims_setTask {written : Nat} {update : SyncTask → SyncTask}
    (same : ∀ task, SameTransfer task (update task))
    (tasks : after.tasks = state.tasks.modify written update fun task => (same task).id)
    (others : ∀ task ∈ state.tasks, task.id ≠ written → Claims after task → Claims state task)
    (own : ∀ task ∈ state.tasks, task.id = written → Claims after (update task) →
      Claims state task) : ∀ later ∈ after.tasks, Claims after later →
      ∃ task ∈ state.tasks, SameTransfer task later ∧ Claims state task := by
  intro later stored claims
  rw [tasks] at stored
  have keeps : ∀ task, (update task).id = task.id := fun task => (same task).id
  rcases (Table.mem_modify keeps).mp stored with ⟨old, before, named, rfl⟩ | ⟨before, other⟩
  · exact ⟨old, before, same old, own old before named claims⟩
  · exact ⟨later, before, .refl later, others later before other claims⟩

/-- Where the transfers stay and the worker holds none it did not hold, nothing new claims. -/
theorem claims_unchanged (tasks : after.tasks = state.tasks)
    (held : ∀ taskId, after.phase.held = some taskId → state.phase.held = some taskId) :
    ∀ later ∈ after.tasks, Claims after later →
      ∃ task ∈ state.tasks, SameTransfer task later ∧ Claims state task := by
  intro later stored claims
  exact ⟨later, tasks ▸ stored, .refl later, claims.imp id (held later.id)⟩

/-- An unclaimed backup stays so while a transfer of another one is queued. -/
theorem enqueue_elsewhere {config : TransferConfig} {backupId other : Nat}
    (apart : other ≠ backupId)
    (unclaimed : Unclaimed state other) : Unclaimed (state.enqueue config backupId) other := by
  intro task stored about claims
  rcases (Table.mem_append _).mp stored with old | rfl
  · exact unclaimed task old about claims
  · exact apart (Option.some.inj about).symm

/-- A transfer that is queued for an unclaimed backup is its only claimant. -/
theorem Exclusive.enqueue (exclusive : Exclusive state) (config : TransferConfig) {backupId : Nat}
    (unclaimed : Unclaimed state backupId) (unscanned : backupId ∉ state.phase.fresh)
    (unrequested : ¬ Requested state backupId) : Exclusive (state.enqueue config backupId) := by
  have rows : ∀ task ∈ (state.enqueue config backupId).tasks, task ∈ state.tasks ∨
      task = queuedTask state.tasks.nextKey backupId config :=
    fun task stored => (Table.mem_append _).mp stored
  refine ⟨fun task stored claims other otherStored about otherClaims => ?_, exclusive.scan,
    fun other listed => ?_, fun other config' holds => ?_, fun read holds => ?_⟩
  · rcases rows task stored with old | rfl
    · rcases rows other otherStored with otherOld | rfl
      · exact exclusive.tasks task old claims other otherOld about otherClaims
      · exact absurd claims (unclaimed task old about.symm)
    · rcases rows other otherStored with otherOld | rfl
      · exact absurd otherClaims (unclaimed other otherOld about)
      · rfl
  · have free := exclusive.fresh other listed
    exact ⟨enqueue_elsewhere (fun same => unscanned (same ▸ listed)) free.1, free.2⟩
  · refine enqueue_elsewhere (fun same => unrequested ?_) (exclusive.upload other config' holds)
    exact ⟨_, holds, congrArg some same⟩
  · intro task stored about claims
    rcases rows task stored with old | rfl
    · exact exclusive.retry read holds task old about claims
    · exact absurd ⟨_, holds, about.symm⟩ unrequested

/-- Transfers that are queued for distinct backups with nobody else at them keep the turns. -/
theorem Exclusive.enqueueAll (config : TransferConfig) (fresh : List Nat) (distinct : fresh.Nodup)
    {state : State} (exclusive : Exclusive state) (idle : state.phase.fresh = [])
    (alone : ∀ backupId ∈ fresh, Unclaimed state backupId ∧ ¬ Requested state backupId) :
    Exclusive (fresh.foldl (fun queued backupId => queued.enqueue config backupId) state) := by
  induction fresh generalizing state with
  | nil => exact exclusive
  | cons backupId rest ih =>
    obtain ⟨others, distinct⟩ := List.nodup_cons.mp distinct
    obtain ⟨unclaimed, unrequested⟩ := alone backupId List.mem_cons_self
    have unscanned : backupId ∉ state.phase.fresh := by simp [idle]
    refine ih distinct (exclusive.enqueue config unclaimed unscanned unrequested) idle
      fun other listed => ?_
    obtain ⟨free, unasked⟩ := alone other (List.mem_cons_of_mem _ listed)
    exact ⟨enqueue_elsewhere (fun same => others (same ▸ listed)) free, unasked⟩

/-- A state without a request keeps the turns. -/
theorem Exclusive.release (exclusive : Exclusive state) : Exclusive state.release :=
  exclusive.carry (claims_unchanged rfl fun _ held => held) (List.Sublist.refl _)
    (List.Subset.refl _) fun _ holds => nomatch holds

/-- A row that is not stored has no transfer. -/
theorem unclaimed_nextKey (coherent : Coherent state) :
    Unclaimed state state.history.nextKey := by
  intro task stored about
  obtain ⟨backupId, owner, record, known, named, _⟩ := coherent.owners task stored
  have same : backupId = state.history.nextKey := Option.some.inj (owner.symm.trans about)
  exact absurd (named.trans same) (Table.lt_nextKey known).ne

/-- A row that is not stored is not scanned. -/
theorem unscanned_nextKey (coherent : Coherent state) :
    state.history.nextKey ∉ state.phase.fresh := by
  intro listed
  have known := coherent.phase
  cases here : state.phase with
  | scanning config rest fresh =>
    rw [here] at known listed
    obtain ⟨record, stored, named, _⟩ := known _ (List.mem_append_right rest listed)
    exact absurd named (Table.lt_nextKey stored).ne
  | down | idle | claiming | holding | ended =>
    rw [here] at listed
    cases listed

/-- Nothing is requested while nobody holds the guard. -/
theorem not_requested {backupId : Nat} (free : state.request = none) :
    ¬ Requested state backupId := by
  rintro ⟨request, holds, _⟩
  rw [free] at holds
  cases holds

/-- A retried transfer is the only claimant of its backup. -/
theorem retry_exclusive (exclusive : Exclusive state) {read : SyncTask} {version : SyncTask}
    (holds : state.request = some (.retry read)) (stored : version ∈ state.tasks)
    (same : SameTransfer read version) :
    Exclusive (state.setTask read.id (retriedTask read) (retriedTask_id _)).release := by
  have sole := exclusive.retry read holds
  have rows : ∀ task ∈ state.tasks.modify read.id (retriedTask read) (retriedTask_id _),
      task = retriedTask read version ∨ (task ∈ state.tasks ∧ task.id ≠ read.id) := by
    intro task kept
    rcases (Table.mem_modify (retriedTask_id _)).mp kept with ⟨old, before, named, rfl⟩ | other
    · exact .inl (Table.eq_of_key before stored (named.trans same.id.symm) ▸ rfl)
    · exact .inr other
  have apart : ∀ task ∈ state.tasks, task.id ≠ read.id → Claims state task →
      task.backupId ≠ version.backupId := fun task old other claims equal =>
    other (sole task old (equal.trans same.backupId) claims)
  refine ⟨fun task kept claims other otherKept equal otherClaims => ?_, exclusive.scan,
    fun backupId listed => ⟨fun task kept owner claims => ?_, not_requested rfl⟩,
    (fun _ _ holds => nomatch holds), (fun _ holds => nomatch holds)⟩
  · rcases rows task kept with rfl | ⟨old, else_⟩
    · rcases rows other otherKept with rfl | ⟨otherOld, otherElse⟩
      · rfl
      · exact absurd equal (apart other otherOld otherElse otherClaims)
    · rcases rows other otherKept with rfl | ⟨otherOld, otherElse⟩
      · exact absurd equal.symm (apart task old else_ claims)
      · exact exclusive.tasks task old claims other otherOld equal otherClaims
  · obtain ⟨unclaimed, unrequested⟩ := exclusive.fresh backupId listed
    rcases rows task kept with rfl | ⟨old, _⟩
    · exact unrequested ⟨_, holds, same.backupId.symm.trans owner⟩
    · exact unclaimed task old owner claims

/-- A commit keeps the turns. -/
theorem commit_exclusive (exclusive : Exclusive state) (coherent : Coherent state)
    {request : Request} (holds : state.request = some request) (now : Instant) :
    Exclusive (state.commit now request).release := by
  have known := coherent.request request holds
  cases request with
  | upload backupId config =>
    have unscanned : backupId ∉ state.phase.fresh := fun listed =>
      (exclusive.fresh backupId listed).2 ⟨_, holds, rfl⟩
    have queued : Exclusive (state.release.enqueue config backupId) :=
      exclusive.release.enqueue config (exclusive.upload backupId config holds) unscanned
        (not_requested rfl)
    exact queued.carry (claims_unchanged rfl fun _ held => held) (List.Sublist.refl _)
      (List.Subset.refl _) fun _ holds => nomatch holds
  | importArtifact artifact config =>
    have imported : Exclusive { state.release with
        history := state.history.append (importRow · artifact) fun _ => rfl } :=
      exclusive.release.carry (claims_unchanged rfl fun _ held => held) (List.Sublist.refl _)
        (List.Subset.refl _) fun _ holds => nomatch holds
    exact imported.enqueue config (unclaimed_nextKey coherent) (unscanned_nextKey coherent)
      (not_requested rfl)
  | cancel read =>
    have frame := commit_frame state now (.cancel read)
    have phase : (state.commit now (.cancel read)).release.phase = state.phase := frame.1
    refine exclusive.carry (claims_setTask (cancelledTask_same now read) (setUpload_tasks _ _)
      (fun task _ _ claims => ?_) fun task _ _ claims => .inr ?_) ?_ ?_
      fun _ holds => nomatch holds
    · exact claims.imp id fun held => phase ▸ held
    · rcases claims with active | held
      · cases active
      · exact phase ▸ held
    · rw [phase]
    · rw [phase]
      exact List.Subset.refl _
  | retry read =>
    have frame := commit_frame state now (.retry read)
    have phase : (state.commit now (.retry read)).release.phase = state.phase := frame.1
    obtain ⟨version, stored, same⟩ := known
    have retried := retry_exclusive exclusive holds stored same
    refine retried.carry (claims_unchanged (setUpload_tasks _ _) fun taskId held => phase ▸ held)
      ?_ ?_ fun _ holds => nomatch holds
    · rw [phase]
      exact List.Sublist.refl _
    · rw [phase]
      exact List.Subset.refl _

/-- A request for a backup nobody else is at keeps the turns. -/
theorem Exclusive.hold (exclusive : Exclusive state) {request : Request}
    (unscanned : ∀ backupId ∈ request.backup, backupId ∉ state.phase.fresh)
    (upload : ∀ backupId config, request = .upload backupId config → Unclaimed state backupId)
    (retry : ∀ read, request = .retry read → SoleClaimant state read) :
    Exclusive (state.hold request) where
  tasks := exclusive.tasks
  scan := exclusive.scan
  fresh backupId listed := by
    refine ⟨(exclusive.fresh backupId listed).1, ?_⟩
    rintro ⟨held, holds, about⟩
    have same : held = request := (Option.some.inj holds).symm
    exact unscanned backupId (same ▸ about) listed
  upload backupId config holds := upload backupId config (Option.some.inj holds)
  retry read holds := retry read (Option.some.inj holds)

/-- Where the worker scans nothing and nothing new claims a backup, the turns are kept. -/
theorem Exclusive.work (exclusive : Exclusive state)
    (back : ∀ later ∈ after.tasks, Claims after later →
      ∃ task ∈ state.tasks, SameTransfer task later ∧ Claims state task)
    (rest : after.phase.rest = []) (fresh : after.phase.fresh = [])
    (request : after.request = state.request) : Exclusive after := by
  refine exclusive.carry back ?_ ?_ fun _ holds => request ▸ holds
  · rw [rest, fresh]
    exact List.nil_sublist _
  · rw [fresh]
    exact List.nil_subset _

/-- What the worker writes to the transfer it holds keeps the turns. -/
theorem Exclusive.write (exclusive : Exclusive state) {written : Nat} {stage : Stage}
    (here : state.phase = .holding written stage) {update : SyncTask → SyncTask}
    (same : ∀ task, SameTransfer task (update task))
    (tasks : after.tasks = state.tasks.modify written update fun task => (same task).id)
    (held : after.phase.held = some written ∨ after.phase.held = none)
    (rest : after.phase.rest = []) (fresh : after.phase.fresh = [])
    (request : after.request = state.request) : Exclusive after := by
  have holds : state.phase.held = some written := here ▸ rfl
  refine exclusive.work (claims_setTask same tasks (fun task _ _ claims => ?_)
    fun task _ named _ => .inr (named ▸ holds)) rest fresh request
  refine claims.imp id fun now => ?_
  rcases held with still | free
  · exact holds.trans (still.symm.trans now)
  · rw [free] at now
    cases now

/-- Where the worker is does not matter to what it queues. -/
theorem enqueueAll_goto (config : TransferConfig) (fresh : List Nat) (phase : Phase)
    (state : State) :
    (fresh.foldl (fun queued backupId => queued.enqueue config backupId) state).goto phase =
      fresh.foldl (fun queued backupId => queued.enqueue config backupId) (state.goto phase) := by
  induction fresh generalizing state with
  | nil => rfl
  | cons backupId rest ih => exact ih (state.enqueue config backupId)

/-- A scan lists every backup once. -/
theorem awaitingUpload_nodup (history : Table BackupHistory.id) :
    (awaitingUpload history).Nodup := by
  have distinct : (history.rows.map BackupHistory.id).Nodup := by
    rw [List.Nodup, List.pairwise_map]
    exact history.ascending.imp fun below => below.ne
  refine distinct.sublist (List.Sublist.map _ ?_)
  exact (List.take_sublist _ _).trans List.filter_sublist

/-- A backup without an active transfer is unclaimed while the worker holds none. -/
theorem unclaimed_of_inactive {backupId : Nat}
    (inactive : activeForBackup state.tasks backupId = false) (held : state.phase.held = none) :
    Unclaimed state backupId := by
  intro task stored about claims
  rcases claims with active | holds
  · have none := List.any_eq_false.mp inactive task stored
    simp [about, active] at none
  · rw [held] at holds
    cases holds

/-- One step keeps the turns when everybody takes turns. -/
theorem moves_exclusive (exclusive : Exclusive state) (coherent : Coherent state)
    (turns : TakesTurns state action) (moved : Moves state action after) : Exclusive after := by
  have unchanged : ∀ later ∈ state.tasks, Claims state later →
      ∃ task ∈ state.tasks, SameTransfer task later ∧ Claims state task :=
    fun later stored claims => ⟨later, stored, .refl later, claims⟩
  cases moved with
  | configure | arrive | verify | fetch | mark | remove =>
    exact exclusive.carry unchanged (List.Sublist.refl _) (List.Subset.refl _)
      fun _ holds => holds
  | @holdUpload record force free stored named inactive =>
    obtain ⟨unclaimed, unscanned⟩ := turns.upload record.id rfl
    refine exclusive.hold (fun backupId about => ?_) (fun backupId config same => ?_)
      fun _ same => nomatch same
    · exact Option.some.inj about ▸ unscanned
    · injection same with same
      exact same ▸ unclaimed
  | @holdMatched artifact record force free found stored named inactive =>
    obtain ⟨unclaimed, unscanned⟩ := turns.upload record.id (by simp [Action.uploads, found])
    refine exclusive.hold (fun backupId about => ?_) (fun backupId config same => ?_)
      fun _ same => nomatch same
    · exact Option.some.inj about ▸ unscanned
    · injection same with same
      exact same ▸ unclaimed
  | holdImport | holdCancel =>
    exact exclusive.hold (fun _ about => nomatch about) (fun _ _ same => nomatch same)
      fun _ same => nomatch same
  | @holdRetry task free stored =>
    obtain ⟨sole, unscanned⟩ := turns.retry task.id rfl task stored rfl
    refine exclusive.hold unscanned (fun _ _ same => nomatch same) fun read same => ?_
    injection same with same
    exact same ▸ sole
  | abort => exact exclusive.release
  | commit holds => exact commit_exclusive exclusive coherent holds _
  | crash =>
    exact exclusive.release.work (claims_unchanged rfl fun _ holds => nomatch holds) rfl rfl rfl
  | recover here =>
    refine exclusive.work (fun later stored claims => ?_) rfl rfl rfl
    obtain ⟨old, before, rfl⟩ := mem_requeueAll.mp stored
    refine ⟨old, before, afterRestart_same old, claims.imp (fun active => ?_)
      fun holds => nomatch holds⟩
    exact afterRestart_active old ▸ active
  | leave free =>
    rcases free with rfl | rfl | rfl <;>
      exact exclusive.work (claims_unchanged rfl fun _ holds => nomatch holds) rfl rfl rfl
  | scan =>
    have idle : Exclusive (state.goto .idle) :=
      exclusive.work (claims_unchanged rfl fun _ holds => nomatch holds) rfl rfl rfl
    refine ⟨idle.tasks, ?_, (fun _ listed => nomatch listed), idle.upload, idle.retry⟩
    change (awaitingUpload state.history ++ []).Nodup
    rw [List.append_nil]
    exact awaitingUpload_nodup state.history
  | skip here =>
    refine exclusive.carry (claims_unchanged rfl fun _ holds => nomatch holds) ?_ ?_
      fun _ holds => holds
    · rw [here]
      exact List.sublist_cons_self _ _
    · rw [here]
      exact List.Subset.refl _
  | @pick config backupId rest fresh here inactive =>
    have idle : Exclusive (state.goto .idle) :=
      exclusive.work (claims_unchanged rfl fun _ holds => nomatch holds) rfl rfl rfl
    have distinct := exclusive.scan
    have fresh_ := exclusive.fresh
    rw [here] at distinct fresh_
    refine ⟨idle.tasks, ?_, fun found listed => ?_, idle.upload, idle.retry⟩
    · change (rest ++ (fresh ++ [backupId])).Nodup
      rw [← List.append_assoc]
      exact (List.perm_append_singleton backupId (rest ++ fresh)).nodup_iff.mpr distinct
    · rcases List.mem_append.mp listed with old | new
      · obtain ⟨unclaimed, unrequested⟩ := fresh_ found old
        exact ⟨unclaimed.carry (claims_unchanged rfl fun _ holds => nomatch holds), unrequested⟩
      · obtain rfl : found = backupId := List.mem_singleton.mp new
        have unclaimed := unclaimed_of_inactive inactive (here ▸ rfl)
        exact ⟨unclaimed.carry (claims_unchanged rfl fun _ holds => nomatch holds),
          turns.check found (here ▸ rfl)⟩
  | @enqueuePending config fresh here =>
    have idle : Exclusive (state.goto .claiming) :=
      exclusive.work (claims_unchanged rfl fun _ holds => nomatch holds) rfl rfl rfl
    have distinct := exclusive.scan
    have fresh_ := exclusive.fresh
    rw [here] at distinct fresh_
    rw [enqueueAll_goto]
    refine idle.enqueueAll config fresh distinct rfl fun backupId listed => ?_
    obtain ⟨unclaimed, unrequested⟩ := fresh_ backupId listed
    exact ⟨unclaimed.carry (claims_unchanged rfl fun _ holds => nomatch holds), unrequested⟩
  | @select task here stored queued =>
    refine exclusive.work (fun later kept claims => ?_) rfl rfl rfl
    refine ⟨later, kept, .refl later, .inl ?_⟩
    rcases claims with active | held
    · exact active
    · rw [← Table.eq_of_key stored kept (Option.some.inj held)]
      simp [SyncTask.isActive, queued]
  | @claim written attempt here =>
    exact exclusive.write here (claimedTask_same attempt) rfl (.inl rfl) rfl rfl rfl
  | @attach written agentTaskId here =>
    exact exclusive.write here (attachedTask_same agentTaskId) rfl (.inl rfl) rfl rfl rfl
  | @vanish transfer now here =>
    exact exclusive.write here (vanishedTask_same now) rfl (.inr rfl) rfl rfl rfl
  | @succeed transfer agentTaskId finishedAt verification here stored =>
    obtain ⟨idle, request, _⟩ := recordSuccess_frame stored finishedAt verification
    exact exclusive.write here (succeededTask_same finishedAt)
      (recordSuccess_tasks stored finishedAt verification) (.inr (idle ▸ rfl)) (idle ▸ rfl)
      (idle ▸ rfl) request
  | @fail transfer stage message now here claimed stored =>
    obtain ⟨idle, request, _⟩ := recordFailure_frame stored message now
    exact exclusive.write here (afterFailure_same message now)
      (recordFailure_tasks stored message now) (.inr (idle ▸ rfl)) (idle ▸ rfl) (idle ▸ rfl) request
  | load here | send here | accept here =>
    have held := Phase.held_eq_some.mpr ⟨_, here⟩
    exact exclusive.work (claims_unchanged rfl fun _ now => held.trans now) rfl rfl rfl

/-- In a run where everybody takes turns, a backup has at most one transfer that is queued or
running. -/
theorem one_transfer_of_turns (reached : system.Reachable TakesTurns state) :
    SingleTransfer state := by
  have preserved : system.Preserved TakesTurns Coherent Exclusive := by
    refine ⟨?_, ?_⟩
    · rintro _ ⟨drive, rfl⟩
      exact ⟨fun task stored => absurd stored (Table.not_mem_empty task), List.nodup_nil,
        (fun _ listed => nomatch listed), (fun _ _ holds => nomatch holds),
        (fun _ holds => nomatch holds)⟩
    · exact fun _ _ _ coherent exclusive turns stepped =>
        moves_exclusive exclusive coherent turns (step_moves stepped)
  have exclusive := reached.invariant (fun _ => coherent_of_reachable) preserved
  intro backupId first stored about active second other owner also
  have same := exclusive.tasks first stored (.inl active) second other (owner.trans about.symm)
    (.inl also)
  exact Table.eq_of_key stored other same.symm

end Exclusive

/-- An upload that fails for good, is asked for anew and is retried as well. -/
def retriedBesideUpload : List Action :=
  [.arrive Lifecycle.awaitingUpload.row, .recover, .configure { gdrive with uploadRetry := 0 },
    .turn, .check, .enqueuePending, .select 1, .claim, .load 31, .recordFailure "lost" 32,
    .enqueueUpload 1 false, .commit 40, .retryTask 1, .commit 41]

/-- A retry does not look for another transfer of its backup. -/
theorem retry_makes_two : ¬ ∀ state, system.Reachable System.unguarded state →
    SingleTransfer state := by
  intro always
  obtain ⟨state, reached, twice⟩ : ∃ state, system.Reachable System.unguarded state ∧
      decide (∃ first ∈ state.tasks, ∃ second ∈ state.tasks, first ≠ second ∧
        (first.backupId = some 1 ∧ SyncTask.isActive first = true) ∧
        second.backupId = some 1 ∧ SyncTask.isActive second = true) = true :=
    System.exists_of_runFrom gdrive_initial retriedBesideUpload _ (by decide)
  obtain ⟨first, stored, second, other, apart, ⟨about, active⟩, owner, also⟩ :=
    of_decide_eq_true twice
  exact apart (always state reached 1 first stored about active second other owner also)

/-- An upload that is queued, cancelled and asked for anew has one transfer. -/
theorem cancelled_makes_one : ∃ state, system.Reachable TakesTurns state ∧
    state.tasks.rows.length = 2 ∧ SingleTransfer state := by
  obtain ⟨state, reached, two⟩ : ∃ state, system.Reachable TakesTurns state ∧
      decide (state.tasks.rows.length = 2) = true :=
    System.exists_of_runFrom gdrive_initial [.arrive Lifecycle.awaitingUpload.row, .recover, .turn,
      .check, .enqueuePending, .wait, .cancelTask 1, .commit 30, .enqueueUpload 1 false,
      .commit 31] _ (by decide)
  exact ⟨state, reached, of_decide_eq_true two, one_transfer_of_turns reached⟩

end ProxSync.Sync
