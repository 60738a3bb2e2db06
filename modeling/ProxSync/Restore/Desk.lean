import ProxSync.Restore.Outcome
import ProxSync.Retention.Pass
/-!
# The desk restores are requested at

Everything that decides about restores or removes copies takes turns on one guard: a request that
records a restore, confirms or cancels it, the steps in which the restore worker claims or closes
one, a retention pass, and the deletion of a local copy by hand. A holder keeps the guard across
its calls to the agent until what it decided is committed. The steps of the restore worker that
take no guard, the writes of other components and crashes go on at any time.
-/
open ProxSync.Lib ProxSync.History ProxSync.Retention
open ProxSync.Runner (StartReply TaskReply)

namespace ProxSync.Restore

/-- What the desk is configured with. -/
structure DeskConfig where
  worker : Config
  confirmationTtlSeconds : Nat
  /-- The digest a token is stored as. -/
  hashToken : String → String

/-- What a restore row keeps for its confirmation. -/
structure Ticket where
  targetVmid : Nat
  confirmationTokenHash : Option String
  confirmationExpiresAt : Option Instant
  deriving DecidableEq, Repr

/-- What holds the guard, and how far it is. A request that passed its preflight knows where the
archive was found. -/
inductive Holder
  | creating (backupId targetVmid : Nat) (report : Option RestoreSource)
  | confirming (restoreId : Nat) (token : String) (targetVmid : Nat) (now : Instant)
    (report : Option RestoreSource)
  | cancelling (restoreId : Nat)
  /-- The agent is asked to stop a restore that is running. -/
  | relaying (restoreId : Nat)
  | retaining (input : PassInput) (run : PassRun)
  /-- The agent is asked to delete a local copy. -/
  | deleting (backupId : Nat)

/-- What happened at the desk. -/
inductive DeskEvent
  | minted (restoreId : Nat) (token : String) (targetVmid : Nat) (expiresAt : Instant)
  | confirmed (restoreId : Nat) (token : String) (targetVmid : Nat) (now : Instant)
  | cancelled (restoreId : Nat)
  | expired (restoreId : Nat)
  /-- The agent was asked to start the restore. -/
  | started (restoreId : Nat)
  deriving DecidableEq, Repr

/-- The restore worker, the confirmations it waits for and the holder of the guard. -/
structure Desk where
  worker : State
  tickets : Nat → Option Ticket
  holder : Option Holder
  /-- Everything that happened, latest first. -/
  journal : List DeskEvent

/-- What may happen next. -/
inductive DeskAction
  | work (action : Action)
  | environment (db : Database)
  | expireStale (now : Instant)
  | create (backupId targetVmid : Nat)
  | confirm (restoreId : Nat) (token : String) (targetVmid : Nat) (now : Instant)
  | cancel (restoreId : Nat)
  | preflight (others : Bool) (source : RestoreSource)
  | mint (secret : String) (now : Instant)
  | authorise
  | strike (now : Instant)
  | retain (input : PassInput)
  | pass (action : PassAction)
  | deleteLocal (backupId : Nat)
  | deleted (now : Instant)
  | release

/-- How every token begins. -/
def confirmationTokenPrefix : String := "rst_"

/-! ## Checks -/

/-- A restore that was authorised and is not over. -/
def isInFlight (status : RestoreStatus) : Bool := status == .confirmed || status == .running

/-- Any restore that was authorised and is not over. -/
def inFlight (db : Database) : Option RestoreHistory :=
  db.restores.rows.find? fun record => isInFlight record.status

/-- A restore that still needs the artifact of a backup. -/
def activeForBackup (db : Database) (backupId : Nat) : Option RestoreHistory :=
  db.restores.rows.find? fun record =>
    record.backupId == backupId && record.status.blocksRetention

/-- A backup that can be restored from. -/
def backupRestorable (record : BackupHistory) : Bool :=
  record.filename.isSome && record.status == .success

/-- Whether no preflight check blocks; what the host, the inventory and the settings answer to the
other checks is given. -/
def preflightPasses (db : Database) (backupId : Nat) (others : Bool) : Bool :=
  (db.history.get backupId).any backupRestorable && others && (inFlight db).isNone

/-- Whether a presented token is the one whose digest is stored. -/
def tokenMatches (hashToken : String → String) (token : String) (stored : Option String) : Bool :=
  stored.any fun digest => digest != "" && hashToken token == digest

/-- Whether a confirmation names a restore that waits for it, in time, with its token and its
target. -/
def confirmable (config : DeskConfig) (desk : Desk) (restoreId : Nat) (token : String)
    (targetVmid : Nat) (now : Instant) : Bool :=
  (desk.worker.db.restores.get restoreId).any (fun record =>
      record.status == .pendingConfirmation) &&
    (desk.tickets restoreId).any fun ticket =>
      !ticket.confirmationExpiresAt.any (fun expiresAt => expiresAt ≤ now) &&
        tokenMatches config.hashToken token ticket.confirmationTokenHash &&
        targetVmid == ticket.targetVmid

/-- Whether an operator may delete the local copy of a backup. -/
def deletable (db : Database) (backupId : Nat) : Bool :=
  (db.history.get backupId).any (fun record =>
      record.status != .running && !record.retentionLocked && record.filename.isSome) &&
    (activeForBackup db backupId).isNone

/-- The requests whose confirmation window has closed. -/
def expiredPending (desk : Desk) (now : Instant) : List Nat :=
  (desk.worker.db.restores.rows.filter fun record => record.status == .pendingConfirmation &&
    (desk.tickets record.id).any fun ticket =>
      ticket.confirmationExpiresAt.any fun expiresAt => expiresAt ≤ now).map RestoreHistory.id

/-- Close restores one after the other. -/
def closeAll (ids : List Nat) (status : RestoreStatus) (message : String) (now : Instant)
    (db : Database) : Database :=
  ids.foldl (fun db id =>
    setRestore db id (closeRestore status message now) (closeRestore_id _ _ _)) db

/-- An action of the restore worker or of its process; what writes the rows on behalf of a request
is an action of the desk. -/
def Action.isWork : Action → Bool
  | .request _ _ _ | .confirm _ _ | .cancel _ _ | .expire _ _ | .changeBackups _ => false
  | _ => true

/-- Whether the worker takes the guard for a step: it does to claim a restore, to close one and to
record that an archive is back. -/
def takesGuard (before after : State) : Action → Bool
  | .interruptPending _ | .markLocal => true
  | .claim _ => before.resume.isEmpty
  | .load _ | .download _ _ _ | .refuseToSend _ _ | .startReply _ _ | .taskReply _ _ _ =>
    after.phase == .idle
  | .raise _ => before.phase != .sweeping
  | _ => false

/-- The restore an action asks the agent to start. -/
def startOf (state : State) : Action → Option Nat
  | .send =>
    match state.phase with
    | .asking plan => some plan.restoreId
    | _ => none
  | _ => none

/-! ## Steps -/

namespace Desk

/-- Write the database. -/
def write (desk : Desk) (db : Database) : Desk :=
  { desk with worker := desk.worker.commit db desk.worker.phase }

/-- Let go of the guard. -/
def release (desk : Desk) : Desk := { desk with holder := none }

/-- Note what happened. -/
def note (desk : Desk) (events : List DeskEvent) : Desk :=
  { desk with journal := events ++ desk.journal }

/-- Forget the tokens of restores. -/
def redact (desk : Desk) (ids : List Nat) : Desk :=
  { desk with tickets := fun id =>
      if id ∈ ids then
        (desk.tickets id).map fun ticket => { ticket with confirmationTokenHash := none }
      else desk.tickets id }

/-- Close every confirmation window that has elapsed. -/
def expirePending (desk : Desk) (now : Instant) : Desk :=
  let ids := expiredPending desk now
  let closed := closeAll ids .expired expiryMessage now desk.worker.db
  ((desk.write closed).redact ids).note (ids.map .expired)

/-- Record a restore that waits for its confirmation, and mint its token. -/
def mint (config : DeskConfig) (desk : Desk) (backupId targetVmid : Nat)
    (source : RestoreSource) (token : String) (now : Instant) : Desk :=
  let db := desk.worker.db
  let id := db.restores.nextKey
  let expiresAt := now + config.confirmationTtlSeconds * 1000000
  let restores := db.restores.append (fun id => requested id backupId source) fun _ => rfl
  let ticket : Ticket := ⟨targetVmid, some (config.hashToken token), some expiresAt⟩
  { desk.write { db with restores } with
    tickets := Function.update desk.tickets id (some ticket)
    journal := .minted id token targetVmid expiresAt :: desk.journal }

/-- Authorise a restore. -/
def authorise (desk : Desk) (restoreId : Nat) (token : String) (targetVmid : Nat) (now : Instant)
    (source : RestoreSource) : Desk :=
  ((desk.write (setRestore desk.worker.db restoreId (Restore.authorise source)
    (authorise_id _))).redact [restoreId]).note [.confirmed restoreId token targetVmid now]

/-- Cancel a restore that has not reached the host. -/
def strike (desk : Desk) (restoreId : Nat) (now : Instant) : Desk :=
  ((desk.write (setRestore desk.worker.db restoreId (closeRestore .cancelled cancelMessage now)
    (closeRestore_id _ _ _))).redact [restoreId]).note [.cancelled restoreId]

/-- The holder of the guard after a step of the worker; a crash takes the holder with it. -/
def keptHolder (desk : Desk) : Action → Option Holder
  | .crash => none
  | _ => desk.holder

/-- Let the restore worker or its process make a step. -/
def work (config : DeskConfig) (desk : Desk) (action : Action) : Option Desk :=
  if action.isWork then
    match step config.worker desk.worker action with
    | none => none
    | some after =>
      if takesGuard desk.worker after action && desk.holder.isSome then none
      else some {
        worker := after
        tickets := desk.tickets
        holder := desk.keptHolder action
        journal := ((startOf desk.worker action).map .started).toList ++ desk.journal }
  else none

/-- Let the retention pass that holds the guard make a step. -/
def pass (desk : Desk) (input : PassInput) (run : PassRun) (action : PassAction) : Option Desk :=
  if action.isOwn then
    (passStep input { run with pass := { run.pass with db := desk.worker.db } } action).map
      fun after => { desk.write after.pass.db with holder := some (.retaining input after) }
  else none

/-- Whether a request is served now. -/
def admits (desk : Desk) : Bool := desk.holder.isNone && desk.worker.serving

/-- The copy whose deletion the holder of the guard waits for. -/
def awaitedDeletion (desk : Desk) : Option (Nat × RetentionLocation) :=
  match desk.holder with
  | some (.retaining _ run) =>
    match run.stage with
    | .deleting _ plan _ => some (plan.backup.id, plan.location)
    | _ => none
  | some (.deleting backupId) => some (backupId, .localCopy)
  | _ => none

end Desk

/-- The effect of one action, or nothing where it cannot happen. -/
def deskStep (config : DeskConfig) (desk : Desk) : DeskAction → Option Desk
  | .work action => desk.work config action
  | .environment db => some (desk.write { db with restores := desk.worker.db.restores })
  | .expireStale now =>
    match desk.worker.phase, desk.holder with
    | .sweeping, none => some (desk.expirePending now)
    | _, _ => none
  | .create backupId targetVmid =>
    if desk.admits then some { desk with holder := some (.creating backupId targetVmid none) }
    else none
  | .confirm restoreId token targetVmid now =>
    if desk.admits && confirmable config desk restoreId token targetVmid now then
      some { desk with holder := some (.confirming restoreId token targetVmid now none) }
    else none
  | .cancel restoreId =>
    match desk.admits, desk.worker.db.restores.get restoreId with
    | true, some record =>
      if record.status = .running then some { desk with holder := some (.relaying restoreId) }
      else if record.status.isTerminal then none
      else some { desk with holder := some (.cancelling restoreId) }
    | _, _ => none
  | .preflight others source =>
    match desk.holder with
    | some (.creating backupId targetVmid none) =>
      if preflightPasses desk.worker.db backupId others then
        some { desk with holder := some (.creating backupId targetVmid (some source)) }
      else some desk.release
    | some (.confirming restoreId token targetVmid now none) =>
      match desk.worker.db.restores.get restoreId with
      | none => some desk.release
      | some record =>
        if preflightPasses desk.worker.db record.backupId others then
          some { desk with
            holder := some (.confirming restoreId token targetVmid now (some source)) }
        else some desk.release
    | _ => none
  | .mint secret now =>
    match desk.holder with
    | some (.creating backupId targetVmid (some source)) =>
      let token := confirmationTokenPrefix ++ secret
      some (desk.mint config backupId targetVmid source token now).release
    | _ => none
  | .authorise =>
    match desk.holder with
    | some (.confirming restoreId token targetVmid now (some source)) =>
      some (desk.authorise restoreId token targetVmid now source).release
    | _ => none
  | .strike now =>
    match desk.holder with
    | some (.cancelling restoreId) => some (desk.strike restoreId now).release
    | _ => none
  | .retain input =>
    match desk.holder, desk.worker.phase with
    | none, .down => none
    | none, _ =>
      some { desk with holder := some (.retaining input (.fresh desk.worker.db)) }
    | _, _ => none
  | .pass action =>
    match desk.holder with
    | some (.retaining input run) => desk.pass input run action
    | _ => none
  | .deleteLocal backupId =>
    if desk.admits && deletable desk.worker.db backupId then
      some { desk with holder := some (.deleting backupId) }
    else none
  | .deleted now =>
    match desk.holder with
    | some (.deleting backupId) =>
      let history := desk.worker.db.history.modify backupId (deleteLocalArtifact now)
        (deleteLocalArtifact_id _)
      some (desk.write { desk.worker.db with history }).release
    | _ => none
  | .release => if desk.holder.isSome then some desk.release else none

/-- The desk of a new installation, under every schedule of its environment. -/
def deskSystem (config : DeskConfig) : System Desk DeskAction where
  init desk := desk = ⟨⟨.empty, .down, [], false, []⟩, fun _ => none, none, []⟩
  step := deskStep config

/-! ## What a step can do -/

/-- The enabled actions and their effects. -/
inductive DeskMoves (config : DeskConfig) (desk : Desk) : Desk → Prop
  | work {action : Action} {after : State} (own : action.isWork = true)
      (stepped : step config.worker desk.worker action = some after)
      (guarded : takesGuard desk.worker after action = true → desk.holder = none) :
      DeskMoves config desk {
        worker := after
        tickets := desk.tickets
        holder := desk.keptHolder action
        journal := ((startOf desk.worker action).map .started).toList ++ desk.journal }
  | environment {db : Database} (same : db.restores = desk.worker.db.restores) :
      DeskMoves config desk (desk.write db)
  | expire {now : Instant} (free : desk.holder = none) :
      DeskMoves config desk (desk.expirePending now)
  | create {backupId targetVmid : Nat} (free : desk.holder = none) :
      DeskMoves config desk { desk with holder := some (.creating backupId targetVmid none) }
  | confirm {restoreId : Nat} {token : String} {targetVmid : Nat} {now : Instant}
      (free : desk.holder = none)
      (valid : confirmable config desk restoreId token targetVmid now = true) :
      DeskMoves config desk { desk with
        holder := some (.confirming restoreId token targetVmid now none) }
  | cancel {restoreId : Nat} {record : RestoreHistory} (free : desk.holder = none)
      (found : desk.worker.db.restores.get restoreId = some record)
      (waits : record.status = .pendingConfirmation ∨ record.status = .confirmed) :
      DeskMoves config desk { desk with holder := some (.cancelling restoreId) }
  | relay {restoreId : Nat} (free : desk.holder = none) :
      DeskMoves config desk { desk with holder := some (.relaying restoreId) }
  | checkCreate {backupId targetVmid : Nat} {source : RestoreSource}
      (held : desk.holder = some (.creating backupId targetVmid none))
      (alone : inFlight desk.worker.db = none) :
      DeskMoves config desk { desk with
        holder := some (.creating backupId targetVmid (some source)) }
  | checkConfirm {restoreId : Nat} {token : String} {targetVmid : Nat} {now : Instant}
      {source : RestoreSource}
      (held : desk.holder = some (.confirming restoreId token targetVmid now none))
      (alone : inFlight desk.worker.db = none) :
      DeskMoves config desk { desk with
        holder := some (.confirming restoreId token targetVmid now (some source)) }
  | mint {backupId targetVmid : Nat} {source : RestoreSource} {token : String} {now : Instant}
      (held : desk.holder = some (.creating backupId targetVmid (some source))) :
      DeskMoves config desk (desk.mint config backupId targetVmid source token now).release
  | authorise {restoreId : Nat} {token : String} {targetVmid : Nat} {now : Instant}
      {source : RestoreSource}
      (held : desk.holder = some (.confirming restoreId token targetVmid now (some source))) :
      DeskMoves config desk (desk.authorise restoreId token targetVmid now source).release
  | strike {restoreId : Nat} {now : Instant} (held : desk.holder = some (.cancelling restoreId)) :
      DeskMoves config desk (desk.strike restoreId now).release
  | retain {input : PassInput} (free : desk.holder = none) :
      DeskMoves config desk { desk with
        holder := some (.retaining input (.fresh desk.worker.db)) }
  | pass {input : PassInput} {run after : PassRun} {action : PassAction}
      (held : desk.holder = some (.retaining input run)) (own : action.isOwn = true)
      (moved : PassMoves input { run with pass := { run.pass with db := desk.worker.db } } action
        after) :
      DeskMoves config desk { desk.write after.pass.db with
        holder := some (.retaining input after) }
  | deleteLocal {backupId : Nat} (free : desk.holder = none)
      (allowed : deletable desk.worker.db backupId = true) :
      DeskMoves config desk { desk with holder := some (.deleting backupId) }
  | deleted {history : Table BackupHistory.id} :
      DeskMoves config desk (desk.write { desk.worker.db with history := history }).release
  | release : DeskMoves config desk desk.release

section Moves

variable {config : DeskConfig} {desk after : Desk} {action : DeskAction}

/-- A request is served while the guard is free. -/
theorem free_of_admits (admitted : desk.admits = true) : desk.holder = none := by
  simp only [Desk.admits, Bool.and_eq_true, Option.isNone_iff_eq_none] at admitted
  exact admitted.1

/-- A preflight that passes finds no restore in flight. -/
theorem alone_of_preflight {db : Database} {backupId : Nat} {others : Bool}
    (passes : preflightPasses db backupId others = true) : inFlight db = none := by
  simp only [preflightPasses, Bool.and_eq_true, Option.isNone_iff_eq_none] at passes
  exact passes.2

/-- A step of the worker is one of its own, and it waits for the guard if it takes it. -/
theorem work_eq_some {inner : Action} (worked : desk.work config inner = some after) :
    inner.isWork = true ∧ ∃ state, step config.worker desk.worker inner = some state ∧
      (takesGuard desk.worker state inner = true → desk.holder = none) ∧
      after = {
        worker := state
        tickets := desk.tickets
        holder := desk.keptHolder inner
        journal := ((startOf desk.worker inner).map .started).toList ++ desk.journal } := by
  unfold Desk.work at worked
  split at worked
  · rename_i own
    split at worked
    · cases worked
    · rename_i state moved
      split at worked
      · cases worked
      · rename_i free
        refine ⟨own, state, moved, fun guarded => ?_, (Option.some.inj worked).symm⟩
        simpa [guarded] using free
  · cases worked

/-- A step of a pass is one of its own on the current database. -/
theorem pass_eq_some {input : PassInput} {run : PassRun} {inner : PassAction}
    (passed : desk.pass input run inner = some after) :
    inner.isOwn = true ∧ ∃ later,
      PassMoves input { run with pass := { run.pass with db := desk.worker.db } } inner later ∧
      after = { desk.write later.pass.db with holder := some (.retaining input later) } := by
  unfold Desk.pass at passed
  split at passed
  · rename_i own
    obtain ⟨later, moved, same⟩ := Option.map_eq_some_iff.mp passed
    exact ⟨own, later, passStep_moves moved, same.symm⟩
  · cases passed

/-- Every enabled action is one of the listed moves. -/
theorem deskStep_moves (stepped : deskStep config desk action = some after) :
    DeskMoves config desk after := by
  cases action with
  | work action =>
    obtain ⟨own, state, moved, free, rfl⟩ := work_eq_some stepped
    exact .work own moved free
  | environment db => exact Option.some.inj stepped ▸ .environment rfl
  | expireStale now =>
    simp only [deskStep] at stepped
    split at stepped
    · rename_i free
      exact Option.some.inj stepped ▸ .expire free
    · cases stepped
  | create backupId targetVmid =>
    simp only [deskStep] at stepped
    split at stepped
    · rename_i admitted
      exact Option.some.inj stepped ▸ .create (free_of_admits admitted)
    · cases stepped
  | confirm restoreId token targetVmid now =>
    simp only [deskStep] at stepped
    split at stepped
    · rename_i admitted
      rw [Bool.and_eq_true] at admitted
      exact Option.some.inj stepped ▸ .confirm (free_of_admits admitted.1) admitted.2
    · cases stepped
  | cancel restoreId =>
    simp only [deskStep] at stepped
    split at stepped
    · rename_i record admitted found
      have free := free_of_admits admitted
      split at stepped
      · exact Option.some.inj stepped ▸ .relay free
      · rename_i idle
        split at stepped
        · cases stepped
        · rename_i open_
          refine Option.some.inj stepped ▸ .cancel free found ?_
          cases status : record.status <;> simp_all [RestoreStatus.isTerminal]
    · cases stepped
  | preflight others source =>
    simp only [deskStep] at stepped
    split at stepped
    · rename_i held
      split at stepped
      · rename_i passes
        exact Option.some.inj stepped ▸ .checkCreate held (alone_of_preflight passes)
      · exact Option.some.inj stepped ▸ .release
    · rename_i held
      split at stepped
      · exact Option.some.inj stepped ▸ .release
      · split at stepped
        · rename_i passes
          exact Option.some.inj stepped ▸ .checkConfirm held (alone_of_preflight passes)
        · exact Option.some.inj stepped ▸ .release
    · cases stepped
  | mint secret now =>
    simp only [deskStep] at stepped
    split at stepped
    · rename_i held
      exact Option.some.inj stepped ▸ .mint held
    · cases stepped
  | authorise =>
    simp only [deskStep] at stepped
    split at stepped
    · rename_i held
      exact Option.some.inj stepped ▸ .authorise held
    · cases stepped
  | strike now =>
    simp only [deskStep] at stepped
    split at stepped
    · rename_i held
      exact Option.some.inj stepped ▸ .strike held
    · cases stepped
  | retain input =>
    simp only [deskStep] at stepped
    split at stepped
    · cases stepped
    · rename_i free up
      exact Option.some.inj stepped ▸ .retain free
    · cases stepped
  | pass action =>
    simp only [deskStep] at stepped
    split at stepped
    · rename_i held
      obtain ⟨own, later, moved, rfl⟩ := pass_eq_some stepped
      exact .pass held own moved
    · cases stepped
  | deleteLocal backupId =>
    simp only [deskStep] at stepped
    split at stepped
    · rename_i admitted
      rw [Bool.and_eq_true] at admitted
      exact Option.some.inj stepped ▸ .deleteLocal (free_of_admits admitted.1) admitted.2
    · cases stepped
  | deleted now =>
    simp only [deskStep] at stepped
    split at stepped
    · exact Option.some.inj stepped ▸ .deleted
    · cases stepped
  | release =>
    simp only [deskStep] at stepped
    split at stepped
    · exact Option.some.inj stepped ▸ .release
    · cases stepped

end Moves

/-! ## What the worker does to the rows -/

/-- What one step may do to a restore: its status stays, or it changes under the guard. -/
structure RowMoves (guarded : Bool) (old new : RestoreHistory) : Prop where
  id : new.id = old.id
  backup : new.backupId = old.backupId
  status : new.status = old.status ∨ (guarded = true ∧ (new.status.isTerminal = true ∨
    (old.status = .confirmed ∧ new.status = .running)))

/-- A row that is not written stays as it is. -/
theorem RowMoves.refl (guarded : Bool) (row : RestoreHistory) : RowMoves guarded row row :=
  ⟨rfl, rfl, .inl rfl⟩

/-- Every row moves, and none appears or disappears. -/
structure RowsMove (guarded : Bool) (before after : Table RestoreHistory.id) : Prop where
  back : ∀ row ∈ after, ∃ old ∈ before, RowMoves guarded old row
  forth : ∀ old ∈ before, ∃ row ∈ after, RowMoves guarded old row

section Rows

variable {guarded : Bool} {before : Table RestoreHistory.id}

/-- Nothing moves where nothing is written. -/
theorem RowsMove.refl : RowsMove guarded before before :=
  ⟨fun row stored => ⟨row, stored, .refl _ _⟩, fun row stored => ⟨row, stored, .refl _ _⟩⟩

/-- A write of one row moves the rows when it moves that row. -/
theorem RowsMove.modify {id : Nat} {update : RestoreHistory → RestoreHistory}
    (keeps : ∀ record, (update record).id = record.id)
    (moves : ∀ record ∈ before, record.id = id → RowMoves guarded record (update record)) :
    RowsMove guarded before (before.modify id update keeps) where
  back row stored := by
    rcases (Table.mem_modify keeps).mp stored with ⟨old, was, named, rfl⟩ | ⟨was, _⟩
    · exact ⟨old, was, moves old was named⟩
    · exact ⟨row, was, .refl _ _⟩
  forth old was := by
    by_cases named : old.id = id
    · exact ⟨update old, (Table.mem_modify keeps).mpr (.inl ⟨old, was, named, rfl⟩),
        moves old was named⟩
    · exact ⟨old, (Table.mem_modify keeps).mpr (.inr ⟨was, named⟩), .refl _ _⟩

/-- Closing a restore under the guard moves it. -/
theorem RowsMove.close {id : Nat} {status : RestoreStatus} (message : String) (now : Instant)
    (closed : status.isTerminal = true) :
    RowsMove true before
      (before.modify id (closeRestore status message now) (closeRestore_id _ _ _)) :=
  .modify _ fun _ _ _ => ⟨rfl, rfl, .inr ⟨rfl, .inl closed⟩⟩

end Rows

/-- Closing restores leaves the others alone. -/
theorem mem_closeAll {ids : List Nat} {status : RestoreStatus} {message : String} {now : Instant}
    {db : Database} {row : RestoreHistory}
    (stored : row ∈ (closeAll ids status message now db).restores) :
    (row ∈ db.restores ∧ row.id ∉ ids) ∨ (row.id ∈ ids ∧ row.status = status) := by
  induction ids generalizing db with
  | nil => exact .inl ⟨stored, List.not_mem_nil⟩
  | cons id rest ih =>
    rcases ih stored with ⟨was, apart⟩ | ⟨named, closed⟩
    · rcases (Table.mem_modify (closeRestore_id _ _ _)).mp was with
        ⟨old, _, same, rfl⟩ | ⟨before, other⟩
      · exact .inr ⟨by simp [closeRestore, same], rfl⟩
      · exact .inl ⟨before, by simp [apart, other]⟩
    · exact .inr ⟨List.mem_cons_of_mem _ named, closed⟩

/-- Closing restores removes none, and what was over stays over. -/
theorem exists_closeAll (ids : List Nat) {status : RestoreStatus} (message : String)
    (now : Instant) (closed : status.isTerminal = true) {db : Database} {old : RestoreHistory}
    (was : old ∈ db.restores) :
    ∃ row ∈ (closeAll ids status message now db).restores, row.id = old.id ∧
      ((old.status.isTerminal = true ∨ old.id ∈ ids) → row.status.isTerminal = true) := by
  induction ids generalizing db old with
  | nil => exact ⟨old, was, rfl, fun ended => ended.elim id fun listed => nomatch listed⟩
  | cons id rest ih =>
    by_cases named : old.id = id
    · have there : closeRestore status message now old ∈ (setRestore db id
          (closeRestore status message now) (closeRestore_id _ _ _)).restores :=
        (Table.mem_modify (closeRestore_id _ _ _)).mpr (.inl ⟨old, was, named, rfl⟩)
      obtain ⟨row, stored, same, ended⟩ := ih there
      exact ⟨row, stored, same, fun _ => ended (.inl closed)⟩
    · have there : old ∈ (setRestore db id (closeRestore status message now)
          (closeRestore_id _ _ _)).restores :=
        (Table.mem_modify (closeRestore_id _ _ _)).mpr (.inr ⟨was, named⟩)
      obtain ⟨row, stored, same, ended⟩ := ih there
      refine ⟨row, stored, same, fun closing => ended (closing.imp_right fun listed => ?_)⟩
      exact (List.mem_cons.mp listed).resolve_left named

/-- What one step of the worker does to the rows and to the requests it sent. -/
structure WorkEffect (guarded : Bool) (start : Option Nat) (before after : State) : Prop where
  rows : RowsMove guarded before.db.restores after.db.restores
  sent : ∀ id, asked after.journal id = (start == some id || asked before.journal id)

section Work

variable {config : Config} {state after : State} {action : Action}

/-- Moving on writes no row and asks for nothing. -/
theorem WorkEffect.same {guarded : Bool} (rows : after.db.restores = state.db.restores)
    (journal : after.journal = state.journal) : WorkEffect guarded none state after where
  rows := rows ▸ .refl
  sent id := by
    rw [journal]
    rfl

/-- Closing a restore asks for nothing. -/
theorem WorkEffect.close (id : Nat) {status : RestoreStatus} (message : String) (now : Instant)
    (closed : status.isTerminal = true) :
    WorkEffect true none state (state.close id status message now) where
  rows := .close message now closed
  sent _ := rfl

/-- What the worker learns asks for nothing. -/
theorem WorkEffect.noted {guarded : Bool} {event : Event} (effect : WorkEffect guarded none
    (state.note event) after) (other : ∀ id, asked [event] id = false) :
    WorkEffect guarded none state after where
  rows := effect.rows
  sent id := by
    rw [effect.sent]
    have split : asked (event :: state.journal) id =
        (asked [event] id || asked state.journal id) := by simp [asked]
    change (none == some id || asked (event :: state.journal) id) = _
    rw [split, other, Bool.false_or]

/-- A step that closes a restore under the guard and waits for the next one, or writes no row. -/
def MayClose (before after : State) : Prop :=
  (after.phase = .idle ∧ WorkEffect true none before after) ∨
    ∀ guarded, WorkEffect guarded none before after

/-- Such a step takes the guard where it ends up idle. -/
theorem MayClose.effect (closes : MayClose state after) :
    WorkEffect (after.phase == .idle) none state after := by
  rcases closes with ⟨idle, effect⟩ | effect
  · rw [idle]
    exact effect
  · exact effect _

/-- Closing a restore closes it. -/
theorem MayClose.close (id : Nat) {status : RestoreStatus} (message : String) (now : Instant)
    (closed : status.isTerminal = true) : MayClose state (state.close id status message now) :=
  .inl ⟨rfl, .close id message now closed⟩

/-- Going on writes no row. -/
theorem MayClose.goto (phase : Phase) : MayClose state (state.goto phase) :=
  .inr fun _ => .same rfl rfl

/-- What the worker learns does not change what a step does. -/
theorem MayClose.noted {event : Event} (closes : MayClose (state.note event) after)
    (other : ∀ id, asked [event] id = false) : MayClose state after :=
  closes.imp (fun both => ⟨both.1, both.2.noted other⟩) fun effect _ => (effect _).noted other

/-- Reading a plan fails the restore, or goes on. -/
theorem load_closes (restoreId : Nat) (now : Instant) :
    MayClose state (state.load restoreId now) := by
  unfold State.load
  split
  · exact .goto _
  · split
    · exact .close _ _ _ rfl
    · dsimp only
      split <;> exact .goto _

/-- A download fails the restore, or is followed. -/
theorem download_closes (plan : RestorePlan) (enabled : Bool) (reply : StartReply)
    (now : Instant) : MayClose state (state.download plan enabled reply now) := by
  unfold State.download
  split
  · cases reply with
    | accepted => exact .goto _
    | refused | lost => exact .close _ _ _ rfl
  · exact .close _ _ _ rfl

/-- A poll closes the restore, or goes on. -/
theorem taskReply_closes (goal : Goal) (taskId : String) (since : Option Nat) (reply : TaskReply)
    (now : Instant) (clock : Nat) :
    MayClose state (state.taskReply config goal taskId since reply now clock) := by
  have silent : ∀ detail,
      MayClose state (state.agentSilent config goal taskId since detail now clock) := by
    intro detail
    unfold State.agentSilent
    dsimp only
    split
    · exact .close _ _ _ rfl
    · exact .goto _
  unfold State.taskReply
  cases reply with
  | notFound => exact .close _ _ _ rfl
  | error detail | unavailable detail => exact silent detail
  | task task =>
    dsimp only
    split
    · cases goal with
      | restore restoreId =>
        have closed : (restoreStatus task.state).isTerminal = true := by
          cases task.state <;> rfl
        refine MayClose.noted (.inl ⟨rfl, .modify (recordOutcome_id _ _) ?_, fun _ => rfl⟩)
          fun _ => rfl
        exact fun _ _ _ => ⟨rfl, rfl, .inr ⟨rfl, .inl closed⟩⟩
      | download plan =>
        unfold State.taskOver
        dsimp only
        split
        · exact MayClose.noted (.goto _) fun _ => rfl
        · exact MayClose.noted (.close _ _ _ rfl) fun _ => rfl
    · exact .goto _

/-- A restore is claimed under the guard; one that is adopted needs no write. -/
theorem claim_effect (now : Instant) :
    WorkEffect state.resume.isEmpty none state (state.claim now) := by
  unfold State.claim
  split
  · exact .same rfl rfl
  · rename_i alone
    rw [alone]
    split
    · exact .same rfl rfl
    · rename_i record found
      have stored : record ∈ state.db.restores :=
        Table.mem_iff.mpr (List.mem_of_find?_eq_some found)
      have confirmed : record.status = .confirmed := by simpa using List.find?_some found
      refine ⟨.modify (claim_id _) fun other was named => ⟨rfl, rfl, .inr ⟨rfl, .inr ⟨?_, rfl⟩⟩⟩,
        fun _ => rfl⟩
      exact Table.eq_of_key was stored named ▸ confirmed

/-- What a step of the worker does to the rows and to the requests it sent. -/
theorem work_effect (own : action.isWork = true) (stepped : step config state action = some after) :
    WorkEffect (takesGuard state after action) (startOf state action) state after := by
  cases action with
  | request | confirm | cancel | expire | changeBackups => cases own
  | boot =>
    simp only [step] at stepped
    split at stepped
    · exact Option.some.inj stepped ▸ .same rfl rfl
    · cases stepped
  | crash => exact Option.some.inj stepped ▸ .same rfl rfl
  | stop =>
    simp only [step] at stepped
    split at stepped
    · exact Option.some.inj stepped ▸ .same rfl rfl
    · cases stepped
  | scan | adopt | query =>
    simp only [step] at stepped
    repeat' split at stepped
    all_goals first | exact Option.some.inj stepped ▸ .same rfl rfl | cases stepped
  | turn | pollStop | die | exitLoop =>
    simp only [step] at stepped
    repeat' split at stepped
    all_goals first | exact Option.some.inj stepped ▸ .same rfl rfl | cases stepped
  | interruptPending now =>
    simp only [step] at stepped
    split at stepped
    · exact Option.some.inj stepped ▸ ⟨.close _ _ rfl, fun _ => rfl⟩
    · cases stepped
  | claim now =>
    simp only [step] at stepped
    split at stepped
    · exact Option.some.inj stepped ▸ claim_effect now
    · cases stepped
  | load now =>
    simp only [step] at stepped
    split at stepped
    · exact Option.some.inj stepped ▸ (load_closes _ now).effect
    · cases stepped
  | download enabled reply now =>
    simp only [step] at stepped
    split at stepped
    · exact Option.some.inj stepped ▸ (download_closes _ enabled reply now).effect
    · cases stepped
  | markLocal =>
    simp only [step] at stepped
    split at stepped
    · exact Option.some.inj stepped ▸ .same rfl rfl
    · cases stepped
  | send =>
    simp only [step] at stepped
    split at stepped
    · rename_i plan here
      obtain rfl := Option.some.inj stepped
      refine ⟨.refl, fun id => ?_⟩
      simp [startOf, here, asked, State.note, State.goto]
    · cases stepped
  | refuseToSend reason now =>
    simp only [step] at stepped
    split at stepped
    · cases reason <;> exact Option.some.inj stepped ▸ .close _ _ _ rfl
    · cases stepped
  | startReply reply now =>
    simp only [step] at stepped
    split at stepped
    · cases reply with
      | accepted => exact Option.some.inj stepped ▸ .same rfl rfl
      | refused detail =>
        obtain rfl := Option.some.inj stepped
        exact ⟨.close _ _ rfl, fun id => by simp [asked, State.note, startOf, State.close,
          State.commit]⟩
      | lost => exact Option.some.inj stepped ▸ .close _ _ _ rfl
    · cases stepped
  | storeTask =>
    simp only [step] at stepped
    split at stepped
    · rename_i restoreId taskId here
      obtain rfl := Option.some.inj stepped
      exact ⟨.modify (attachTask_id _) fun _ _ _ => ⟨rfl, rfl, .inl rfl⟩, fun _ => rfl⟩
    · cases stepped
  | taskReply reply now clock =>
    simp only [step] at stepped
    split at stepped
    · exact Option.some.inj stepped ▸ (taskReply_closes _ _ _ reply now clock).effect
    · cases stepped
  | raise now =>
    simp only [step] at stepped
    split at stepped
    · exact Option.some.inj stepped ▸ .same rfl rfl
    · rename_i busy
      obtain ⟨restoreId, _, rfl⟩ := Option.map_eq_some_iff.mp stepped
      have guarded : takesGuard state (state.close restoreId .interrupted crashMessage now)
          (.raise now) = true := by simpa [takesGuard] using busy
      exact guarded ▸ .close _ _ _ rfl

end Work

/-- A token, as it is minted. -/
def sampleSecret : String := "q3Zk0sYJ1oE2m7VbX9cLr5TtN8uHwPdGfA6iR4yKxQe"

/-- A desk that stores the digest of that token. -/
def sampleDesk : DeskConfig where
  worker := ⟨300⟩
  confirmationTtlSeconds := 300
  hashToken token :=
    if token = confirmationTokenPrefix ++ sampleSecret then
      "a6da229b6cd9bf1f2524440847bd8958a1e64b9cbeb4e67044ff56c77945487f"
    else ""

/-- A restore that is requested, confirmed, claimed and started. -/
def confirmAndStart : List DeskAction :=
  [.environment { Database.empty with history := .singleton backedUp }, .work .boot, .work .scan,
    .work .adopt, .create 1 101, .preflight true .localCopy, .mint sampleSecret 100,
    .confirm 1 (confirmationTokenPrefix ++ sampleSecret) 101 200, .preflight true .localCopy,
    .authorise, .work .turn, .expireStale 300, .work (.claim 310), .work (.load 320), .work .send]

end ProxSync.Restore
