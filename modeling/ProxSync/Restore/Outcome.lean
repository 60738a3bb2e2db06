import ProxSync.Restore.Worker
import ProxSync.Runner.Outcome
/-!
# What the outcome of a restore rests on

The worker follows the rule of the run executor more closely than the executor does: a start
request whose answer was lost leaves the restore interrupted. So every restore that is recorded as
successful, failed or cancelled was reported so by the agent, was refused, or was never started.
-/
open ProxSync.Lib ProxSync.History
open ProxSync.Runner (StartReply TaskReply)

namespace ProxSync.Restore

/-- The task state a status stands for. -/
def outcomeOf : RestoreStatus → Option AgentTaskState
  | .success => some .success
  | .failed => some .failed
  | .cancelled => some .cancelled
  | _ => none

/-- What a restore tells about its start request. -/
def finding (record : RestoreHistory) : Option (Finding Nat String AgentTaskState) :=
  (outcomeOf record.status).map fun outcome => ⟨record.id, record.agentTaskId, outcome⟩

/-- A start request was sent for the restore. -/
def asked (journal : List Event) (restoreId : Nat) : Bool :=
  journal.any fun
    | .sent id => id == restoreId
    | _ => false

/-- The start requests of the worker and what it learned about them. -/
def dealings (journal : List Event) : Dealings Nat String AgentTaskState where
  asked restoreId := asked journal restoreId = true
  refused restoreId := .refused restoreId ∈ journal
  reported restoreId taskId state := .reported restoreId taskId state ∈ journal

/-- A restore that was not handed to the worker, and never will be once it expired. -/
def unstarted (status : RestoreStatus) : Bool :=
  status == .pendingConfirmation || status == .confirmed || status == .expired

/-- Every outcome of a restore is known, and nothing was started for one that expired. -/
structure RestoresHonest (state : State) : Prop where
  outcomes : (dealings state.journal).Honest (· ∈ state.db.restores) finding
  expired : ∀ record ∈ state.db.restores, record.status = .expired →
    asked state.journal record.id = false

/-- The worker has the restore and has not come to its start request. -/
def Phase.beforeStart : Phase → Bool
  | .loading _ | .fetching _ | .asking _ => true
  | _ => false

/-! ## The invariant of the worker -/

/-- The restore has the task. -/
def HasTask (restores : Table RestoreHistory.id) (entry : Nat × String) : Prop :=
  ∃ record ∈ restores, record.id = entry.1 ∧ record.agentTaskId = some entry.2

/-- The restore was claimed and is running, and no restore is left to be adopted. -/
structure Claimed (restores : Table RestoreHistory.id) (resume : List (Nat × String))
    (restoreId : Nat) : Prop where
  alone : resume = []
  running : ∃ record ∈ restores, record.id = restoreId ∧ record.status = .running

/-- What the worker can rely on where it is suspended. -/
def Facts (restores : Table RestoreHistory.id) (journal : List Event)
    (resume : List (Nat × String)) : Phase → Prop
  | .recovering _ adoptable => ∀ entry ∈ adoptable, HasTask restores entry
  | .loading restoreId => Claimed restores resume restoreId ∧ asked journal restoreId = false
  | .fetching plan | .marking plan | .asking plan | .polling (.download plan) _ _ |
    .querying (.download plan) _ _ =>
    Claimed restores resume plan.restoreId ∧ asked journal plan.restoreId = false
  | .awaiting plan => Claimed restores resume plan.restoreId
  | .storing restoreId _ => Claimed restores resume restoreId
  | .polling (.restore restoreId) taskId _ | .querying (.restore restoreId) taskId _ =>
    HasTask restores (restoreId, taskId)
  | _ => True

/-- What holds in every reachable state. -/
structure Sound (state : State) : Prop where
  known : ∀ restoreId, asked state.journal restoreId = true →
    ∃ record ∈ state.db.restores, record.id = restoreId
  waiting : ∀ record ∈ state.db.restores, unstarted record.status = true →
    asked state.journal record.id = false
  resume : ∀ entry ∈ state.resume, HasTask state.db.restores entry
  facts : Facts state.db.restores state.journal state.resume state.phase
  honest : (dealings state.journal).Honest (· ∈ state.db.restores) finding

section Writes

variable {restores : Table RestoreHistory.id} {journal : List Event}
  {resume : List (Nat × String)} {id : Nat} {update : RestoreHistory → RestoreHistory}

/-- A write that keeps tasks keeps a restore's task. -/
theorem HasTask.modify {entry : Nat × String} (has : HasTask restores entry)
    (keeps : ∀ record, (update record).id = record.id)
    (task : ∀ record, (update record).agentTaskId = record.agentTaskId) :
    HasTask (restores.modify id update keeps) entry := by
  obtain ⟨record, stored, named, known⟩ := has
  exact Table.exists_mem_modify keeps stored ⟨named, known⟩
    fun _ => ⟨(keeps record).trans named, (task record).trans known⟩

/-- A new restore keeps the tasks of the others. -/
theorem HasTask.insert {entry : Nat × String} (has : HasTask restores entry)
    {record : RestoreHistory} (fresh : ∀ other ∈ restores, other.id < record.id) :
    HasTask (restores.insert record fresh) entry := by
  obtain ⟨row, stored, named, known⟩ := has
  exact ⟨row, (Table.mem_insert fresh).mpr (.inl stored), named, known⟩

/-- A write of a restore that is not running leaves what the worker relies on. -/
theorem Facts.modify {phase : Phase} (facts : Facts restores journal resume phase)
    (keeps : ∀ record, (update record).id = record.id)
    (task : ∀ record, (update record).agentTaskId = record.agentTaskId)
    (idle : ∀ record ∈ restores, record.id = id → record.status ≠ .running) :
    Facts (restores.modify id update keeps) journal resume phase := by
  have claimed : ∀ restoreId, Claimed restores resume restoreId →
      Claimed (restores.modify id update keeps) resume restoreId := by
    rintro restoreId ⟨alone, record, stored, named, running⟩
    have other : record.id ≠ id := fun same => idle record stored same running
    exact ⟨alone, record, (Table.mem_modify keeps).mpr (.inr ⟨stored, other⟩), named, running⟩
  cases phase with
  | recovering pending adoptable => exact fun entry listed => (facts entry listed).modify keeps task
  | loading | fetching | marking | asking => exact ⟨claimed _ facts.1, facts.2⟩
  | awaiting | storing => exact claimed _ facts
  | polling goal | querying goal =>
    cases goal with
    | download => exact ⟨claimed _ facts.1, facts.2⟩
    | restore => exact HasTask.modify facts keeps task
  | down | starting | idle | sweeping | ended => exact trivial

/-- A new restore leaves what the worker relies on. -/
theorem Facts.insert {phase : Phase} (facts : Facts restores journal resume phase)
    {record : RestoreHistory} (fresh : ∀ other ∈ restores, other.id < record.id) :
    Facts (restores.insert record fresh) journal resume phase := by
  have claimed : ∀ restoreId, Claimed restores resume restoreId →
      Claimed (restores.insert record fresh) resume restoreId := by
    rintro restoreId ⟨alone, row, stored, named, running⟩
    exact ⟨alone, row, (Table.mem_insert fresh).mpr (.inl stored), named, running⟩
  cases phase with
  | recovering pending adoptable => exact fun entry listed => (facts entry listed).insert fresh
  | loading | fetching | marking | asking => exact ⟨claimed _ facts.1, facts.2⟩
  | awaiting | storing => exact claimed _ facts
  | polling goal | querying goal =>
    cases goal with
    | download => exact ⟨claimed _ facts.1, facts.2⟩
    | restore => exact HasTask.insert facts fresh
  | down | starting | idle | sweeping | ended => exact trivial

/-- A restore tells an outcome of its own. -/
theorem finding_eq_some {record : RestoreHistory} {found : Finding Nat String AgentTaskState} :
    finding record = some found ↔ found.id = record.id ∧ found.task = record.agentTaskId ∧
      outcomeOf record.status = some found.outcome := by
  unfold finding
  constructor
  · intro tells
    obtain ⟨outcome, stands, rfl⟩ := Option.map_eq_some_iff.mp tells
    exact ⟨rfl, rfl, stands⟩
  · rintro ⟨named, known, stands⟩
    rw [stands, Option.map_some, ← named, ← known]

/-- What is known about a restore stays known after an event that does not ask for it. -/
theorem dealings_note {event : Event} {restoreId : Nat}
    (other : asked [event] restoreId = false) :
    (dealings journal).Grows (dealings (event :: journal)) restoreId where
  asked sent := by
    have split : asked (event :: journal) restoreId =
        (asked [event] restoreId || asked journal restoreId) := by simp [asked]
    change asked (event :: journal) restoreId = true at sent
    rw [split, other, Bool.false_or] at sent
    exact sent
  refused := List.mem_cons_of_mem event
  reported _ _ := List.mem_cons_of_mem event

end Writes

/-! ## What a step can do -/

/-- The enabled actions and their effects. -/
inductive Moves (state : State) : State → Prop
  | request {id backupId : Nat} {source : RestoreSource}
      (fresh : ∀ other ∈ state.db.restores, other.id < id) :
      Moves state (state.commit { state.db with
        restores := state.db.restores.insert (requested id backupId source) fresh } state.phase)
  | unhandled {id : Nat} {record : RestoreHistory} (update : RestoreHistory → RestoreHistory)
      (found : state.db.restores.get id = some record) (waits : unstarted record.status = true)
      (keeps : ∀ record, (update record).id = record.id)
      (task : ∀ record, (update record).agentTaskId = record.agentTaskId) :
      Moves state (state.commit (setRestore state.db id update keeps) state.phase)
  | changeBackups {history : Table BackupHistory.id} :
      Moves state (state.commit { state.db with history := history } state.phase)
  | boot (here : state.phase = .down) :
      Moves state { state with phase := .starting, resume := [], stopping := false }
  | leave {phase : Phase} (free : phase = .down ∨ phase = .idle ∨ phase = .sweeping ∨
      phase = .ended) : Moves state (state.goto phase)
  | stop : Moves state { state with stopping := true }
  | scan (here : state.phase = .starting) :
      Moves state (state.goto (.recovering
        (((runningRestores state.db).filter fun record => record.agentTaskId.isNone).map
          RestoreHistory.id)
        ((runningRestores state.db).filterMap fun record =>
          record.agentTaskId.map fun taskId => (record.id, taskId))))
  | interruptPending {restoreId : Nat} {pending : List Nat} {adoptable : List (Nat × String)}
      {now : Instant} (here : state.phase = .recovering (restoreId :: pending) adoptable) :
      Moves state (state.commit (setRestore state.db restoreId
        (closeRestore .interrupted restartMessage now) fun _ => rfl)
        (.recovering pending adoptable))
  | adopt {adoptable : List (Nat × String)} (here : state.phase = .recovering [] adoptable) :
      Moves state { state with resume := adoptable, phase := .idle, stopping := false }
  | claimAdopted {restoreId : Nat} {taskId : String} {rest : List (Nat × String)}
      (left : state.resume = (restoreId, taskId) :: rest) :
      Moves state { state with
        resume := rest, phase := .polling (.restore restoreId) taskId none }
  | claimConfirmed {record : RestoreHistory} {now : Instant} (alone : state.resume = [])
      (found : nextConfirmed state.db = some record) :
      Moves state (state.commit (setRestore state.db record.id (claim now) fun _ => rfl)
        (.loading record.id))
  | load {restoreId : Nat} {record : RestoreHistory} {plan : RestorePlan} {phase : Phase}
      (here : state.phase = .loading restoreId)
      (found : state.db.restores.get restoreId = some record) (named : plan.restoreId = record.id)
      (next : phase = .fetching plan ∨ phase = .asking plan) : Moves state (state.goto phase)
  | failBefore {restoreId : Nat} {message : String} {now : Instant}
      (here : state.phase.current = some restoreId) (never : state.phase.beforeStart = true) :
      Moves state (state.close restoreId .failed message now)
  | fetch {plan : RestorePlan} {taskId : String} (here : state.phase = .fetching plan) :
      Moves state (state.goto (.polling (.download plan) taskId none))
  | markLocal {plan : RestorePlan} (here : state.phase = .marking plan) :
      Moves state (state.commit { state.db with
        history := state.db.history.modify plan.backupId markLocalCopyPresent
          markLocalCopyPresent_id } (.asking plan))
  | send {plan : RestorePlan} (here : state.phase = .asking plan) :
      Moves state ((state.goto (.awaiting plan)).note (.sent plan.restoreId))
  | accept {plan : RestorePlan} {taskId : String} (here : state.phase = .awaiting plan) :
      Moves state (state.goto (.storing plan.restoreId taskId))
  | refuse {plan : RestorePlan} {detail : String} {now : Instant}
      (here : state.phase = .awaiting plan) :
      Moves state ((state.close plan.restoreId .failed detail now).note (.refused plan.restoreId))
  | interrupt {restoreId : Nat} {message : String} {now : Instant} :
      Moves state (state.close restoreId .interrupted message now)
  | storeTask {restoreId : Nat} {taskId : String} (here : state.phase = .storing restoreId taskId) :
      Moves state (state.commit (setRestore state.db restoreId (attachTask taskId) fun _ => rfl)
        (.polling (.restore restoreId) taskId none))
  | query {goal : Goal} {taskId : String} {since : Option Nat}
      (here : state.phase = .polling goal taskId since) :
      Moves state (state.goto (.querying goal taskId since))
  | keepPolling {goal : Goal} {taskId : String} {since later : Option Nat}
      (here : state.phase = .querying goal taskId since) :
      Moves state (state.goto (.polling goal taskId later))
  | downloaded {plan : RestorePlan} {taskId : String} {since : Option Nat}
      {reported : AgentTaskState} (here : state.phase = .querying (.download plan) taskId since) :
      Moves state ((state.note (.reported plan.restoreId taskId reported)).goto (.marking plan))
  | downloadFailed {plan : RestorePlan} {taskId message : String} {since : Option Nat}
      {reported : AgentTaskState} {now : Instant}
      (here : state.phase = .querying (.download plan) taskId since) :
      Moves state ((state.note (.reported plan.restoreId taskId reported)).close plan.restoreId
        .failed message now)
  | record {restoreId : Nat} {taskId : String} {since : Option Nat} {task : AgentTask}
      {now : Instant} (here : state.phase = .querying (.restore restoreId) taskId since)
      (terminal : task.state.isTerminal = true) :
      Moves state ((state.note (.reported restoreId taskId task.state)).commit
        (setRestore state.db restoreId (recordOutcome task now) fun _ => rfl) .idle)

section Moves

variable {config : Config} {state after : State} {action : Action}

/-- Claiming adopts a restore, takes a confirmed one or finds none. -/
theorem claim_moves (now : Instant) : Moves state (state.claim now) := by
  unfold State.claim
  split
  · rename_i left
    exact .claimAdopted left
  · rename_i alone
    split
    · exact .leave (.inr (.inl rfl))
    · rename_i found
      exact .claimConfirmed alone found

/-- Reading the plan finds the restore gone, its archive gone, or where to go on. -/
theorem load_moves {restoreId : Nat} (now : Instant) (here : state.phase = .loading restoreId) :
    Moves state (state.load restoreId now) := by
  unfold State.load
  cases found : state.db.restores.get restoreId with
  | none => exact .leave (.inr (.inl rfl))
  | some record =>
    dsimp only
    cases (state.db.history.get record.backupId).bind BackupHistory.filename with
    | none => exact .failBefore (by rw [here]; rfl) (by rw [here]; rfl)
    | some filename =>
      dsimp only
      split
      · exact .load here found rfl (.inl rfl)
      · exact .load here found rfl (.inr rfl)

/-- A download is not possible, is refused, or is followed. -/
theorem download_moves {plan : RestorePlan} (enabled : Bool) (reply : StartReply) (now : Instant)
    (here : state.phase = .fetching plan) :
    Moves state (state.download plan enabled reply now) := by
  have fails : ∀ message, Moves state (state.close plan.restoreId .failed message now) :=
    fun _ => .failBefore (by rw [here]; rfl) (by rw [here]; rfl)
  unfold State.download
  split
  · cases reply with
    | accepted accepted => exact .fetch here
    | refused detail | lost detail => exact fails detail
  · exact fails driveDisabledMessage

/-- A poll gives up, goes on, or ends the task. -/
theorem taskReply_moves {goal : Goal} {taskId : String} {since : Option Nat} (reply : TaskReply)
    (now : Instant) (clock : Nat) (here : state.phase = .querying goal taskId since) :
    Moves state (state.taskReply config goal taskId since reply now clock) := by
  have silent : ∀ detail,
      Moves state (state.agentSilent config goal taskId since detail now clock) := by
    intro detail
    unfold State.agentSilent
    dsimp only
    split
    · exact .interrupt
    · exact .keepPolling here
  unfold State.taskReply
  cases reply with
  | notFound => exact .interrupt
  | error detail | unavailable detail => exact silent detail
  | task task =>
    dsimp only
    split
    · rename_i terminal
      cases goal with
      | restore restoreId => exact .record here terminal
      | download plan =>
        change Moves state (if task.state = .success then _ else _)
        split
        · exact .downloaded here
        · exact .downloadFailed here
    · exact .keepPolling here

/-- Every enabled action is one of the listed moves. -/
theorem step_moves (stepped : step config state action = some after) : Moves state after := by
  cases action with
  | request id backupId source =>
    simp only [step] at stepped
    split at stepped
    · rename_i fresh
      exact Option.some.inj stepped ▸ .request fresh
    · cases stepped
  | confirm id source =>
    simp only [step] at stepped
    split at stepped
    · cases stepped
    · rename_i record found
      split at stepped
      · rename_i status
        have waits : unstarted record.status = true := by simp [unstarted, status]
        exact Option.some.inj stepped ▸
          .unhandled (authorise source) found waits (fun _ => rfl) fun _ => rfl
      · cases stepped
  | cancel id now =>
    simp only [step] at stepped
    split at stepped
    · cases stepped
    · rename_i record found
      split at stepped
      · rename_i status
        have waits : unstarted record.status = true := by
          rcases status with same | same <;> simp [unstarted, same]
        exact Option.some.inj stepped ▸ .unhandled (closeRestore .cancelled cancelMessage now) found
          waits (fun _ => rfl) fun _ => rfl
      · cases stepped
  | expire id now =>
    simp only [step] at stepped
    split at stepped
    · cases stepped
    · rename_i record found
      split at stepped
      · rename_i status
        have waits : unstarted record.status = true := by simp [unstarted, status]
        exact Option.some.inj stepped ▸ .unhandled (closeRestore .expired expiryMessage now) found
          waits (fun _ => rfl) fun _ => rfl
      · cases stepped
  | changeBackups history => exact Option.some.inj stepped ▸ .changeBackups
  | boot =>
    simp only [step] at stepped
    split at stepped
    · rename_i here
      exact Option.some.inj stepped ▸ .boot here
    · cases stepped
  | crash => exact Option.some.inj stepped ▸ .leave (.inl rfl)
  | stop =>
    simp only [step] at stepped
    split at stepped
    · exact Option.some.inj stepped ▸ .stop
    · cases stepped
  | scan =>
    simp only [step] at stepped
    split at stepped
    · rename_i here
      exact Option.some.inj stepped ▸ .scan here
    · cases stepped
  | interruptPending now =>
    simp only [step] at stepped
    split at stepped
    · rename_i here
      exact Option.some.inj stepped ▸ .interruptPending here
    · cases stepped
  | adopt =>
    simp only [step] at stepped
    split at stepped
    · rename_i here
      exact Option.some.inj stepped ▸ .adopt here
    · cases stepped
  | turn =>
    simp only [step] at stepped
    split at stepped
    · split at stepped
      · cases stepped
      · exact Option.some.inj stepped ▸ .leave (.inr (.inr (.inl rfl)))
    · cases stepped
  | claim now =>
    simp only [step] at stepped
    split at stepped
    · exact Option.some.inj stepped ▸ claim_moves now
    · cases stepped
  | load now =>
    simp only [step] at stepped
    split at stepped
    · rename_i here
      exact Option.some.inj stepped ▸ load_moves now here
    · cases stepped
  | download enabled reply now =>
    simp only [step] at stepped
    split at stepped
    · rename_i here
      exact Option.some.inj stepped ▸ download_moves enabled reply now here
    · cases stepped
  | markLocal =>
    simp only [step] at stepped
    split at stepped
    · rename_i here
      exact Option.some.inj stepped ▸ .markLocal here
    · cases stepped
  | send =>
    simp only [step] at stepped
    split at stepped
    · rename_i here
      exact Option.some.inj stepped ▸ .send here
    · cases stepped
  | refuseToSend reason now =>
    simp only [step] at stepped
    split at stepped
    · rename_i here
      cases reason with
      | paused => exact Option.some.inj stepped ▸ .interrupt
      | misconfigured =>
        exact Option.some.inj stepped ▸ .failBefore (by rw [here]; rfl) (by rw [here]; rfl)
    · cases stepped
  | startReply reply now =>
    simp only [step] at stepped
    split at stepped
    · rename_i here
      cases reply with
      | accepted => exact Option.some.inj stepped ▸ .accept here
      | refused => exact Option.some.inj stepped ▸ .refuse here
      | lost => exact Option.some.inj stepped ▸ .interrupt
    · cases stepped
  | storeTask =>
    simp only [step] at stepped
    split at stepped
    · rename_i here
      exact Option.some.inj stepped ▸ .storeTask here
    · cases stepped
  | query =>
    simp only [step] at stepped
    split at stepped
    · rename_i here
      split at stepped
      · cases stepped
      · exact Option.some.inj stepped ▸ .query here
    · cases stepped
  | taskReply reply now clock =>
    simp only [step] at stepped
    split at stepped
    · rename_i here
      exact Option.some.inj stepped ▸ taskReply_moves reply now clock here
    · cases stepped
  | pollStop =>
    simp only [step] at stepped
    split at stepped
    · split at stepped
      · exact Option.some.inj stepped ▸ .leave (.inr (.inl rfl))
      · cases stepped
    · cases stepped
  | raise now =>
    simp only [step] at stepped
    split at stepped
    · exact Option.some.inj stepped ▸ .leave (.inr (.inl rfl))
    · obtain ⟨restoreId, _, closed⟩ := Option.map_eq_some_iff.mp stepped
      exact closed ▸ .interrupt
  | die =>
    simp only [step] at stepped
    split at stepped
    · exact Option.some.inj stepped ▸ .leave (.inr (.inr (.inr rfl)))
    · cases stepped
  | exitLoop =>
    simp only [step] at stepped
    split at stepped
    · split at stepped
      · exact Option.some.inj stepped ▸ .leave (.inr (.inr (.inr rfl)))
      · cases stepped
    · cases stepped

end Moves

/-! ## One step -/

section Steps

variable {config : Config} {state after : State} {action : Action}

/-- The worker may move on to where it knows enough. -/
theorem Sound.goto (sound : Sound state) {phase : Phase}
    (facts : Facts state.db.restores state.journal state.resume phase) : Sound (state.goto phase) :=
  ⟨sound.known, sound.waiting, sound.resume, facts, sound.honest⟩

/-- A write of one restore that is honest about it. -/
theorem Sound.rewrite (sound : Sound state) {id : Nat} {update : RestoreHistory → RestoreHistory}
    {phase : Phase} (keeps : ∀ record, (update record).id = record.id)
    (waits : ∀ record ∈ state.db.restores, record.id = id →
      unstarted (update record).status = true → asked state.journal id = false)
    (supported : ∀ record ∈ state.db.restores, record.id = id → ∀ outcome,
      outcomeOf (update record).status = some outcome →
        (dealings state.journal).Supports ⟨id, (update record).agentTaskId, outcome⟩)
    (resume : ∀ entry ∈ state.resume, HasTask (state.db.restores.modify id update keeps) entry)
    (facts : Facts (state.db.restores.modify id update keeps) state.journal state.resume phase) :
    Sound (state.commit (setRestore state.db id update keeps) phase) where
  known restoreId sent := by
    obtain ⟨record, stored, named⟩ := sound.known restoreId sent
    exact Table.exists_mem_modify keeps stored named fun _ => (keeps record).trans named
  waiting record stored unstarts := by
    rcases (Table.mem_modify keeps).mp stored with ⟨old, oldStored, same, rfl⟩ | ⟨old, _⟩
    · rw [keeps, same]
      exact waits old oldStored same unstarts
    · exact sound.waiting record old unstarts
  resume := resume
  facts := facts
  honest := by
    refine sound.honest.carry fun record stored found tells => ?_
    rcases (Table.mem_modify keeps).mp stored with ⟨old, oldStored, same, rfl⟩ | ⟨old, _⟩
    · obtain ⟨named, known, stands⟩ := finding_eq_some.mp tells
      have right := supported old oldStored same found.outcome stands
      rw [← same, ← keeps old, ← named, ← known] at right
      exact .inr right
    · exact .inl ⟨record, old, tells⟩

/-- A write of a restore the worker has not been handed. -/
theorem Sound.rewriteWaiting (sound : Sound state) {id : Nat} {record : RestoreHistory}
    (found : state.db.restores.get id = some record) (waits : unstarted record.status = true)
    {update : RestoreHistory → RestoreHistory} (keeps : ∀ record, (update record).id = record.id)
    (task : ∀ record, (update record).agentTaskId = record.agentTaskId) :
    Sound (state.commit (setRestore state.db id update keeps) state.phase) := by
  obtain ⟨stored, rfl⟩ := Table.get_eq_some.mp found
  have never : asked state.journal record.id = false := sound.waiting record stored waits
  refine sound.rewrite keeps (fun _ _ _ _ => never)
    (fun _ _ _ _ _ => .unasked (ne_true_of_eq_false never))
    (fun entry listed => (sound.resume entry listed).modify keeps task) ?_
  refine sound.facts.modify keeps task fun other otherStored same running => ?_
  rw [Table.eq_of_key otherStored stored same] at running
  rw [running] at waits
  cases waits

/-- Closing a restore with an outcome that is known. -/
theorem Sound.closeTo (sound : Sound state) {restoreId : Nat} {status : RestoreStatus}
    {phase : Phase} (closed : unstarted status = false) (message : String) (now : Instant)
    (supported : ∀ task outcome, outcomeOf status = some outcome →
      (dealings state.journal).Supports ⟨restoreId, task, outcome⟩)
    (facts : Facts (state.db.restores.modify restoreId (closeRestore status message now)
      fun _ => rfl) state.journal state.resume phase) :
    Sound (state.commit (setRestore state.db restoreId (closeRestore status message now)
      fun _ => rfl) phase) := by
  have keeps : ∀ record, (closeRestore status message now record).id = record.id := fun _ => rfl
  refine sound.rewrite keeps (fun _ _ _ waits => ?_)
    (fun record _ _ outcome stands => supported record.agentTaskId outcome stands)
    (fun entry listed => (sound.resume entry listed).modify keeps fun _ => rfl) facts
  rw [closeRestore, closed] at waits
  cases waits

/-- Closing a restore with an outcome that is known, and waiting for the next one. -/
theorem Sound.close (sound : Sound state) {restoreId : Nat} {status : RestoreStatus}
    (closed : unstarted status = false) (message : String) (now : Instant)
    (supported : ∀ task outcome, outcomeOf status = some outcome →
      (dealings state.journal).Supports ⟨restoreId, task, outcome⟩) :
    Sound (state.close restoreId status message now) :=
  sound.closeTo closed message now supported trivial

/-- Closing a restore whose outcome nobody knows as interrupted. -/
theorem Sound.interrupt (sound : Sound state) (restoreId : Nat) (message : String) (now : Instant) :
    Sound (state.close restoreId .interrupted message now) :=
  sound.close rfl message now fun _ _ stands => by cases stands

/-- An event that starts nothing. -/
theorem Sound.note (sound : Sound state) {event : Event}
    (other : ∀ restoreId, asked [event] restoreId = false) : Sound (state.note event) := by
  have same : ∀ restoreId, asked (event :: state.journal) restoreId =
      asked state.journal restoreId := by
    intro restoreId
    have split : asked (event :: state.journal) restoreId =
        (asked [event] restoreId || asked state.journal restoreId) := by simp [asked]
    rw [split, other, Bool.false_or]
  have facts := sound.facts
  refine ⟨?_, ?_, sound.resume, ?_, ?_⟩
  · exact fun restoreId sent => sound.known restoreId ((same restoreId).symm.trans sent)
  · exact fun record stored waits => (same _).trans (sound.waiting record stored waits)
  · change Facts _ (event :: state.journal) _ state.phase
    generalize state.phase = phase at facts ⊢
    cases phase with
    | loading | fetching | marking | asking => exact ⟨facts.1, (same _).trans facts.2⟩
    | polling goal | querying goal =>
      cases goal with
      | download => exact ⟨facts.1, (same _).trans facts.2⟩
      | restore => exact facts
    | down | starting | recovering | idle | sweeping | awaiting | storing | ended => exact facts
  · exact sound.honest.grow fun _ _ found _ => dealings_note (other found.id)

/-- What the agent reports is the outcome that is recorded. -/
theorem outcomeOf_restoreStatus {reported outcome : AgentTaskState}
    (terminal : reported.isTerminal = true)
    (stands : outcomeOf (restoreStatus reported) = some outcome) : outcome = reported := by
  cases reported with
  | other => cases terminal
  | interrupted => cases stands
  | success | failed | cancelled => exact (Option.some.inj stands).symm

/-- One step keeps what holds in every reachable state. -/
theorem moves_sound (sound : Sound state) (moved : Moves state after) : Sound after := by
  have facts := sound.facts
  cases moved with
  | @request id backupId source fresh =>
    refine ⟨?_, ?_, ?_, facts.insert fresh, ?_⟩
    · intro restoreId sent
      obtain ⟨record, stored, named⟩ := sound.known restoreId sent
      exact ⟨record, (Table.mem_insert fresh).mpr (.inl stored), named⟩
    · intro record stored waits
      rcases (Table.mem_insert fresh).mp stored with old | rfl
      · exact sound.waiting record old waits
      · -- A new restore is above every restore that was asked for.
        by_contra sent
        obtain ⟨other, otherStored, named⟩ := sound.known id (eq_true_of_ne_false sent)
        have below := fresh other otherStored
        omega
    · exact fun entry listed => (sound.resume entry listed).insert fresh
    · refine sound.honest.carry fun record stored found tells => .inl ?_
      rcases (Table.mem_insert fresh).mp stored with old | rfl
      · exact ⟨record, old, tells⟩
      · cases tells
  | unhandled _ found waits keeps task => exact sound.rewriteWaiting found waits keeps task
  | changeBackups => exact ⟨sound.known, sound.waiting, sound.resume, facts, sound.honest⟩
  | boot => exact ⟨sound.known, sound.waiting, nofun, trivial, sound.honest⟩
  | leave free =>
    refine sound.goto ?_
    rcases free with rfl | rfl | rfl | rfl <;> exact trivial
  | stop => exact ⟨sound.known, sound.waiting, sound.resume, facts, sound.honest⟩
  | scan =>
    refine sound.goto fun entry listed => ?_
    obtain ⟨record, running, known⟩ := List.mem_filterMap.mp listed
    obtain ⟨taskId, task, rfl⟩ := Option.map_eq_some_iff.mp known
    exact ⟨record, Table.mem_iff.mpr (List.mem_filter.mp running).1, rfl, task⟩
  | interruptPending here =>
    rw [here] at facts
    refine sound.closeTo rfl _ _ (fun _ _ stands => by cases stands) fun entry listed => ?_
    exact (facts entry listed).modify _ fun _ => rfl
  | adopt here =>
    rw [here] at facts
    exact ⟨sound.known, sound.waiting, facts, trivial, sound.honest⟩
  | claimAdopted left =>
    have resume := sound.resume
    rw [left] at resume
    exact ⟨sound.known, sound.waiting, fun entry listed => resume entry (.tail _ listed),
      resume _ List.mem_cons_self, sound.honest⟩
  | @claimConfirmed record now alone found =>
    have stored : record ∈ state.db.restores :=
      Table.mem_iff.mpr (List.mem_of_find?_eq_some found)
    have confirmed : record.status = .confirmed := by simpa using List.find?_some found
    have never := sound.waiting record stored (by simp [unstarted, confirmed])
    have keeps : ∀ row, (claim now row).id = row.id := fun _ => rfl
    refine sound.rewrite keeps (fun _ _ _ _ => never) (fun _ _ _ _ stands => by cases stands)
      (fun entry listed => (sound.resume entry listed).modify keeps fun _ => rfl)
      ⟨⟨alone, ?_⟩, never⟩
    exact ⟨claim now record, (Table.mem_modify_of_mem keeps stored).mpr (.inl rfl), rfl, rfl⟩
  | load here found named next =>
    rw [here] at facts
    obtain ⟨_, rfl⟩ := Table.get_eq_some.mp found
    rw [← named] at facts
    rcases next with rfl | rfl <;> exact sound.goto facts
  | @failBefore restoreId message now here never =>
    have unasked : asked state.journal restoreId = false := by
      generalize state.phase = phase at here never facts
      cases phase with
      | loading | fetching | asking => exact Option.some.inj here ▸ facts.2
      | _ => cases never
    exact sound.close rfl message now fun _ _ _ => .unasked (ne_true_of_eq_false unasked)
  | fetch here =>
    rw [here] at facts
    exact sound.goto facts
  | markLocal here =>
    rw [here] at facts
    exact ⟨sound.known, sound.waiting, sound.resume, facts, sound.honest⟩
  | @send plan here =>
    rw [here] at facts
    obtain ⟨⟨alone, claimed, claimedStored, named, running⟩, never⟩ := facts
    -- The restore that is started is running, so it neither waits nor tells anything.
    have apart : ∀ record ∈ state.db.restores, record.status ≠ .running →
        asked [.sent plan.restoreId] record.id = false := by
      intro record stored other
      by_contra own
      have same : plan.restoreId = record.id := by simpa [asked] using own
      exact other (Table.eq_of_key claimedStored stored (named.trans same) ▸ running)
    have split : ∀ restoreId, asked (.sent plan.restoreId :: state.journal) restoreId =
        (asked [.sent plan.restoreId] restoreId || asked state.journal restoreId) := by
      simp [asked]
    refine ⟨?_, ?_, sound.resume, ⟨alone, claimed, claimedStored, named, running⟩, ?_⟩
    · intro restoreId sent
      rcases (Bool.or_eq_true _ _).mp ((split restoreId).symm.trans sent) with own | before
      · have same : plan.restoreId = restoreId := by simpa [asked] using own
        exact ⟨claimed, claimedStored, named.trans same⟩
      · exact sound.known restoreId before
    · intro record stored waits
      have other : record.status ≠ .running := fun same => by simp [unstarted, same] at waits
      exact (split record.id).trans (by rw [apart record stored other,
        sound.waiting record stored waits]; rfl)
    · refine sound.honest.grow fun record stored found tells => dealings_note ?_
      obtain ⟨isId, _, stands⟩ := finding_eq_some.mp tells
      rw [isId]
      exact apart record stored fun same => by simp [same, outcomeOf] at stands
  | accept here =>
    rw [here] at facts
    exact sound.goto facts
  | @refuse plan detail now here =>
    have noted : Sound (state.note (.refused plan.restoreId)) := sound.note fun _ => rfl
    exact noted.close rfl detail now fun _ _ _ => .refused List.mem_cons_self
  | interrupt => exact sound.interrupt _ _ _
  | @storeTask restoreId taskId here =>
    rw [here] at facts
    obtain ⟨alone, claimed, stored, named, running⟩ := facts
    have keeps : ∀ record, (attachTask taskId record).id = record.id := fun _ => rfl
    have still : ∀ record ∈ state.db.restores, record.id = restoreId → record.status = .running :=
      fun record recordStored same =>
        Table.eq_of_key stored recordStored (named.trans same.symm) ▸ running
    refine sound.rewrite keeps ?_ ?_ ?_ ?_
    · intro record recordStored same waits
      simp [attachTask, unstarted, still record recordStored same] at waits
    · intro record recordStored same outcome stands
      simp [attachTask, outcomeOf, still record recordStored same] at stands
    · rw [alone]
      exact nofun
    · exact ⟨attachTask taskId claimed,
        (Table.mem_modify keeps).mpr (.inl ⟨claimed, stored, named, rfl⟩), named, rfl⟩
  | @query goal taskId since here =>
    rw [here] at facts
    cases goal <;> exact sound.goto facts
  | @keepPolling goal taskId since later here =>
    rw [here] at facts
    cases goal <;> exact sound.goto facts
  | @downloaded plan taskId since reported here =>
    have noted : Sound (state.note (.reported plan.restoreId taskId reported)) :=
      sound.note fun _ => rfl
    have known := noted.facts
    rw [show (state.note (.reported plan.restoreId taskId reported)).phase = _ from here] at known
    exact noted.goto known
  | @downloadFailed plan taskId message since reported now here =>
    have noted : Sound (state.note (.reported plan.restoreId taskId reported)) :=
      sound.note fun _ => rfl
    have known := noted.facts
    rw [show (state.note (.reported plan.restoreId taskId reported)).phase = _ from here] at known
    exact noted.close rfl message now fun _ _ _ => .unasked (ne_true_of_eq_false known.2)
  | @record restoreId taskId since task now here terminal =>
    rw [here] at facts
    obtain ⟨followed, stored, named, known⟩ := facts
    have noted : Sound (state.note (.reported restoreId taskId task.state)) :=
      sound.note fun _ => rfl
    have keeps : ∀ record, (recordOutcome task now record).id = record.id := fun _ => rfl
    refine noted.rewrite keeps ?_ ?_
      (fun entry listed => (sound.resume entry listed).modify keeps fun _ => rfl) trivial
    · intro record _ _ waits
      cases outcome : task.state <;>
        simp [recordOutcome, restoreStatus, unstarted, outcome] at waits
    · intro record recordStored same outcome stands
      have own : record.agentTaskId = some taskId :=
        Table.eq_of_key stored recordStored (named.trans same.symm) ▸ known
      rw [outcomeOf_restoreStatus terminal stands]
      exact .reported own List.mem_cons_self

/-- Every reachable state is sound, whatever the agent does and whenever the process dies. -/
theorem sound_of_reachable (reached : (system config).Reachable System.unguarded state) :
    Sound state := by
  refine reached.invariant_alone ⟨?_, ?_⟩
  · rintro _ rfl
    have none : ∀ record, record ∉ Database.empty.restores := Table.not_mem_empty
    exact ⟨nofun, fun record stored => absurd stored (none record), nofun, trivial,
      fun record stored => absurd stored (none record)⟩
  · exact fun _ _ _ _ sound _ stepped => moves_sound sound (step_moves stepped)

/-- The outcomes of restores are known, whatever the agent does and whenever the process dies. -/
theorem restoresHonest_of_reachable
    (reached : (system config).Reachable System.unguarded state) : RestoresHonest state := by
  have sound := sound_of_reachable reached
  refine ⟨sound.honest, fun record stored expired => ?_⟩
  exact sound.waiting record stored (by simp [unstarted, expired])

end Steps

/-- The outcomes of backups are known where no answer to a start request is lost, and those of
restores always are. -/
theorem outcomes_honest (config : Runner.Config) (restoreConfig : Config) (state : Runner.State)
    (restores : State)
    (reached : (Runner.system config).Reachable
      (fun state action => Runner.hearsAnswer state action = true) state)
    (restoresReached : (system restoreConfig).Reachable System.unguarded restores) :
    Runner.BackupsHonest state ∧ RestoresHonest restores :=
  ⟨Runner.backupsHonest_of_reachable reached, restoresHonest_of_reachable restoresReached⟩

/-- A backup that succeeded, to restore from. -/
def backedUp : BackupHistory :=
  History.recordOutcome (Runner.archived "vzdump-qemu-101.vma.zst") false 20
    (.create 1 none ⟨101, .vm, "web", "pve"⟩ "backup-hdd" .notRequired 12)

/-- A restore whose start request was sent. -/
def askAgent : List Action :=
  [.changeBackups (.singleton backedUp), .request 1 1 .localCopy, .confirm 1 .localCopy, .boot,
    .scan, .adopt, .turn, .claim 30, .load 31, .send]

/-- A backup is reported as successful, and a restore whose start was not answered is
interrupted. -/
theorem outcomes_honest_after_loss : ∃ state restores,
    state.db.history.rows.map BackupHistory.status = [.success] ∧
      restores.db.restores.rows.map RestoreHistory.status = [.interrupted] ∧
      Runner.BackupsHonest state ∧ RestoresHonest restores := by
  obtain ⟨state, reached, backups⟩ : ∃ state, (Runner.system Runner.plainConfig).Reachable
      (fun state action => Runner.hearsAnswer state action = true) state ∧
      (decide (state.db.history.rows.map BackupHistory.status = [.success])) = true :=
    System.exists_of_runFrom rfl (Runner.firstDone Runner.oneGuest) _ (by decide)
  obtain ⟨restores, restoresReached, interrupted⟩ : ∃ restores,
      (system ⟨300⟩).Reachable System.unguarded restores ∧
      (decide (restores.db.restores.rows.map RestoreHistory.status = [.interrupted])) = true :=
    System.exists_of_runFrom rfl (askAgent ++ [.startReply (.lost "timed out") 32]) _ (by decide)
  have honest := outcomes_honest Runner.plainConfig ⟨300⟩ state restores reached restoresReached
  exact ⟨state, restores, of_decide_eq_true backups, of_decide_eq_true interrupted, honest⟩

/-- A backup whose start was not answered is recorded as failed. -/
theorem lost_backup_recorded_failed : ¬ ∀ state,
    (Runner.system Runner.plainConfig).Reachable System.unguarded state →
      Runner.BackupsHonest state := by
  intro always
  obtain ⟨state, reached, shown⟩ : ∃ state,
      (Runner.system Runner.plainConfig).Reachable System.unguarded state ∧
      (decide (state.journal = [.sent 1 (101, .vm) 1] ∧ ∃ record ∈ state.db.history.rows,
        Runner.finding record = some ⟨1, none, .failed⟩)) = true :=
    System.exists_of_runFrom rfl (Runner.askAgent Runner.oneGuest ++
      [.startReply (.lost "timed out") 13]) _ (by decide)
  obtain ⟨journal, record, stored, tells⟩ := of_decide_eq_true shown
  have supported := always state reached record stored _ tells
  rw [journal] at supported
  cases supported with
  | reported known => cases known
  | refused noted => simp [Runner.dealings] at noted
  | unasked never => exact never rfl

end ProxSync.Restore
