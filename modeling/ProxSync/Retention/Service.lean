import ProxSync.Retention.Policy
/-!
# Retention decisions and deletions

A pass classifies every copy of the guests in its scope, then deletes the removable ones one
by one. Each deletion is planned again against the current database before the agent is asked,
and the agent's answer decides which mark is written. The pass keeps every request it sent to
the agent together with the database it was decided on, so that what was deleted can be
compared with what was known at that moment.
-/
open ProxSync.Lib

namespace ProxSync.Retention

/-- The classification of one copy. -/
structure PlannedDecision where
  backup : RetentionBackup
  location : RetentionLocation
  action : RetentionAction
  reason : String
  sizeBytes : Int
  wouldDelete : Bool

/-- The size shown for a copy; the remote size is preferred for a remote copy. -/
def copySize (record : RetentionBackup) : RetentionLocation → Int
  | .localCopy => max (record.sizeBytes.getD 0) 0
  | .remoteCopy => max ((record.remoteSizeBytes.or record.sizeBytes).getD 0) 0

/-- Why a local copy cannot be given up: its upload is not known to be complete. -/
def localUploadBlocker (record : RetentionBackup) : Option String :=
  if record.uploadStatus = .notRequired then none
  else if record.uploadStatus = .uploaded ∧ record.remotePath.isSome then none
  else if record.uploadStatus = .uploaded then some "blocked_missing_remote_metadata"
  else some s!"blocked_upload_{record.uploadStatus.value}"

/-- The remote name and path of an uploaded object. -/
def remoteTarget (record : RetentionBackup) : Option (String × String) :=
  match record.remotePath with
  | none => none
  | some path =>
    match path.toList.span (· != ':') with
    | (_, []) => none
    | ([], _) => none
    | (remote, _ :: rest) => some (String.ofList remote, String.ofList rest)

/-- The copies that are ranked: neither pinned nor undated. -/
def rankable (rows : List RetentionBackup) : List RetentionBackup :=
  rows.filter fun row => !row.retentionLocked && row.startedAt.isSome

/-- Position of a row among the ranked copies. -/
def rankOf (rows : List RetentionBackup) (row : RetentionBackup) : Nat :=
  (rankable rows).findIdx fun other => other.id == row.id

/-- The classification both locations share: pinned and undated copies are skipped, ranks below
the count are kept, and what remains is deleted unless the location names a blocker. -/
def classify (location : RetentionLocation) (keep : Nat) (rows : List RetentionBackup)
    (blocker : RetentionBackup → Option String) (row : RetentionBackup) : PlannedDecision :=
  let base (action : RetentionAction) (reason : String) (wouldDelete : Bool) : PlannedDecision :=
    ⟨row, location, action, reason, copySize row location, wouldDelete⟩
  if row.retentionLocked then base .skipped "retention_locked" false
  else if row.startedAt.isNone then base .skipped "missing_started_at" false
  else if rankOf rows row < keep then
    base .kept s!"within_keep_{location.value}_{keep}" false
  else
    match blocker row, location with
    | some reason, _ => base .skipped reason false
    | none, .localCopy => base .deletedLocal s!"beyond_keep_{location.value}_{keep}" true
    | none, .remoteCopy => base .deletedRemote s!"beyond_keep_{location.value}_{keep}" true

/-- Why a local copy beyond the count is not deleted. -/
def localBlocker (db : Database) (keep : Nat) (rows : List RetentionBackup)
    (row : RetentionBackup) : Option String :=
  match localUploadBlocker row with
  | some reason => some reason
  | none =>
    -- Every copy that would replace it has to be safe as well.
    match ((rankable rows).take keep).findSome? localUploadBlocker with
    | some block => some s!"blocked_replacement_{block}"
    | none => if hasActiveRestore db row.id then some "blocked_active_restore" else none

/-- Why a remote copy beyond the count is not deleted. -/
def remoteBlocker (db : Database) (policy : RetentionPolicySnapshot) (row : RetentionBackup) :
    Option String :=
  if !policy.deleteRemoteOnRetention then some "remote_deletion_disabled"
  else if !policy.gdriveEnabled then some "remote_sync_disabled"
  else if (remoteTarget row).isNone then some "invalid_remote_path"
  else if hasActiveRestore db row.id then some "blocked_active_restore"
  else none

/-- Classify the local copies of a guest. -/
def localPlans (db : Database) (keep : Nat) (rows : List RetentionBackup) :
    List PlannedDecision :=
  rows.map (classify .localCopy keep rows (localBlocker db keep rows))

/-- Classify the remote copies of a guest. -/
def remotePlans (db : Database) (policy : RetentionPolicySnapshot)
    (rows : List RetentionBackup) : List PlannedDecision :=
  rows.map (classify .remoteCopy policy.keep.keepRemote rows (remoteBlocker db policy))

/-- Skip every copy for one reason. -/
def blockedPlans (rows : List RetentionBackup) (location : RetentionLocation) (reason : String) :
    List PlannedDecision :=
  rows.map fun row => ⟨row, location, .skipped, reason, copySize row location, false⟩

/-- Classify every copy of a guest. -/
def guestPlans (policy : RetentionPolicySnapshot) (db : Database) (guest : GuestKey) :
    List PlannedDecision :=
  let localRows := localForGuest db guest
  let remoteRows := remoteForGuest db guest
  if policy.policyResolved then
    localPlans db policy.keep.keepLocal localRows ++ remotePlans db policy remoteRows
  else
    let reason := policy.policyBlockReason.getD "retention_policy_unresolved"
    blockedPlans localRows .localCopy reason ++ blockedPlans remoteRows .remoteCopy reason

/-- The guests in scope: that of the triggering backup, or every guest with a copy. -/
def guestsInScope (db : Database) (backupId : Option Nat) : Except String (List GuestKey) :=
  match backupId with
  | none => .ok (guestKeys db)
  | some id =>
    match guestForBackup db id with
    | none => .error s!"No backup with id {id}"
    | some guest => .ok [guest]

/-- Classify every copy in scope. -/
def plans (policy : RetentionPolicySnapshot) (db : Database) (backupId : Option Nat) :
    Except String (List PlannedDecision) :=
  (guestsInScope db backupId).map fun guests => guests.flatMap (guestPlans policy db)

/-- What retention decided for one copy. -/
structure RetentionDecision where
  backupId : Nat
  vmid : Nat
  guestType : GuestType
  guestName : String
  filename : String
  location : RetentionLocation
  action : RetentionAction
  reason : String
  sizeBytes : Int
  wouldDelete : Bool
  deleted : Bool
  reconciled : Bool
  freedBytes : Int
  error : Option String
  deriving DecidableEq

/-- A decision that was not carried out. -/
def render (plan : PlannedDecision) : RetentionDecision where
  backupId := plan.backup.id
  vmid := plan.backup.vmid
  guestType := plan.backup.guestType
  guestName := plan.backup.guestName
  filename := plan.backup.filename.getD ""
  location := plan.location
  action := plan.action
  reason := plan.reason
  sizeBytes := plan.sizeBytes
  wouldDelete := plan.wouldDelete
  deleted := false
  reconciled := false
  freedBytes := 0
  error := none

/-- The first characters of a text. -/
def truncate (length : Nat) (text : String) : String := String.ofList (text.toList.take length)

/-- A deletion the agent did not carry out. -/
def failed (plan : PlannedDecision) (message : String) : RetentionDecision :=
  let detail := truncate 500 message
  { render plan with
    action := .failed
    reason := truncate 255 s!"delete_{plan.location.value}_failed:{detail}"
    error := some detail }

/-- How the agent answers a deletion. -/
inductive DeleteReply
  | removed (freedBytes : Int)
  | agentError (agentStatus : Option Nat) (detail : String)
  | appError (detail : String)
  | crashed (detail : String)
  deriving DecidableEq

/-- Carry out a planned deletion: mark the copy when the agent removed it or no longer has it,
and change nothing when the agent did neither. -/
def delete (db : Database) (plan : PlannedDecision) (reply : DeleteReply) (now : Instant) :
    Database × RetentionDecision :=
  let marked := markDeleted db plan.location plan.backup.id now
  match reply with
  | .removed freedBytes =>
    let freed :=
      match plan.location with
      | .localCopy => max freedBytes 0
      | .remoteCopy => plan.sizeBytes
    (marked, { render plan with deleted := true, freedBytes := freed })
  | .agentError agentStatus detail =>
    if agentStatus = some 404 then
      (marked, { render plan with
        deleted := true, reconciled := true
        reason := s!"reconciled_missing_{plan.location.value}" })
    else (db, failed plan detail)
  | .appError detail => (db, failed plan detail)
  | .crashed detail => (db, failed plan detail)

/-- Audit a decision with the policy that produced it. -/
def record (db : Database) (correlationId : Option String) (plan : PlannedDecision)
    (item : RetentionDecision) (policy : RetentionPolicySnapshot) (projected : Option Int) :
    Database :=
  { db with retentionEvents := db.retentionEvents ++ [{
      backupId := plan.backup.id
      vmid := plan.backup.vmid
      guestType := plan.backup.guestType
      action := item.action
      reason := truncate 255 item.reason
      policySnapshot := policy
      location := plan.location
      effectiveKeep := policy.keepAt plan.location
      freedBytes := max (projected.getD item.freedBytes) 0
      dryRun := policy.dryRun
      correlationId := (correlationId.filter (· ≠ "")).or plan.backup.correlationId }] }

/-- What a pass is run with: the settings, its trigger, the agent's answer to each deletion it
will send, the clock at each, and the ambient correlation id. -/
structure PassInput where
  settings : Settings
  backupId : Option Nat
  agent : Nat → DeleteReply
  clock : Nat → Instant
  correlationId : Option String

/-- A deletion sent to the agent, with the database it was decided on. -/
structure DeleteCall where
  backup : RetentionBackup
  location : RetentionLocation
  db : Database

/-- A pass under way. -/
structure PassState where
  db : Database
  /-- Requests sent to the agent so far, latest first. -/
  calls : List DeleteCall
  /-- Decisions made so far, latest first. -/
  completed : List RetentionDecision
  /-- The error that ended the pass early. -/
  raised : Option String

/-- Audit a decision and complete it. -/
def PassState.settle (state : PassState) (input : PassInput) (plan : PlannedDecision)
    (item : RetentionDecision) (policy : RetentionPolicySnapshot) (projected : Option Int) :
    PassState :=
  { state with
    db := record state.db input.correlationId plan item policy projected
    completed := item :: state.completed }

/-- Settle an initial decision that needs no deletion. -/
def settleStatic (input : PassInput) (policy : RetentionPolicySnapshot) (state : PassState)
    (plan : PlannedDecision) : PassState :=
  if plan.wouldDelete then
    if policy.dryRun then state.settle input plan (render plan) policy (some plan.sizeBytes)
    else state
  else state.settle input plan (render plan) policy none

/-- The current decision for a copy that was a candidate when the pass began. -/
def revalidateCandidate (input : PassInput) (db : Database) (original : PlannedDecision) :
    Except String (RetentionPolicySnapshot × PlannedDecision) :=
  let current := policy input.settings db input.backupId
  (plans current db input.backupId).map fun planned =>
    match planned.find? fun plan =>
        plan.backup.id == original.backup.id && plan.location == original.location with
    | some plan => (current, plan)
    | none => (current, { original with
        action := .skipped, reason := "candidate_copy_no_longer_present", wouldDelete := false })

/-- Delete one candidate, if it still is one. -/
def applyCandidate (input : PassInput) (state : PassState) (original : PlannedDecision) :
    PassState :=
  if state.raised.isSome then state
  else
    match revalidateCandidate input state.db original with
    | .error message => { state with raised := some message }
    | .ok (current, plan) =>
      if !plan.wouldDelete || current.dryRun then
        let projected := if plan.wouldDelete && current.dryRun then some plan.sizeBytes else none
        state.settle input plan (render plan) current projected
      else
        let index := state.calls.length
        let (db, item) := delete state.db plan (input.agent index) (input.clock index)
        let sent : DeleteCall := ⟨plan.backup, plan.location, state.db⟩
        PassState.settle { state with db, calls := sent :: state.calls } input plan item current
          none

/-- The candidates of a pass: what the initial classification would delete. -/
def candidates (policy : RetentionPolicySnapshot) (planned : List PlannedDecision) :
    List PlannedDecision :=
  planned.filter fun plan => plan.wouldDelete && !policy.dryRun

/-- One retention pass from a database. -/
def applyPass (input : PassInput) (db : Database) : PassState :=
  let initialPolicy := policy input.settings db input.backupId
  let start : PassState := ⟨db, [], [], none⟩
  match plans initialPolicy db input.backupId with
  | .error message => { start with raised := some message }
  | .ok planned =>
    (candidates initialPolicy planned).foldl (applyCandidate input)
      (planned.foldl (settleStatic input initialPolicy) start)

/-- Totals of a pass. -/
structure RetentionSummary where
  evaluated : Nat
  localDeleteCount : Nat
  localDeleteBytes : Int
  remoteDeleteCount : Nat
  remoteDeleteBytes : Int
  deletedLocal : Nat
  deletedRemote : Nat
  failed : Nat
  deriving DecidableEq

/-- Count what a pass decided. -/
def summarise (items : List RetentionDecision) : RetentionSummary :=
  let candidatesAt (location : RetentionLocation) :=
    items.filter fun item => item.location == location && item.wouldDelete
  let deletedAt (location : RetentionLocation) :=
    items.countP fun item => item.deleted && item.location == location
  { evaluated := items.length
    localDeleteCount := (candidatesAt .localCopy).length
    localDeleteBytes := ((candidatesAt .localCopy).map RetentionDecision.sizeBytes).sum
    remoteDeleteCount := (candidatesAt .remoteCopy).length
    remoteDeleteBytes := ((candidatesAt .remoteCopy).map RetentionDecision.sizeBytes).sum
    deletedLocal := deletedAt .localCopy
    deletedRemote := deletedAt .remoteCopy
    failed := items.countP fun item => item.action == .failed }

/-- The answer of a pass. -/
structure RetentionResponse where
  policy : RetentionPolicySnapshot
  items : List RetentionDecision
  summary : RetentionSummary

/-- The latest decision for a copy. -/
def decisionFor (completed : List RetentionDecision) (plan : PlannedDecision) :
    Option RetentionDecision :=
  completed.find? fun item => item.backupId == plan.backup.id && item.location == plan.location

/-- Apply the policy: the database after the pass, and its response unless it raised. -/
def apply (input : PassInput) (db : Database) : Database × Except String RetentionResponse :=
  let initialPolicy := policy input.settings db input.backupId
  let final := applyPass input db
  match plans initialPolicy db input.backupId, final.raised with
  | .error message, _ => (final.db, .error message)
  | .ok _, some message => (final.db, .error message)
  | .ok planned, none =>
    let items := planned.filterMap (decisionFor final.completed)
    (final.db, .ok ⟨initialPolicy, items, summarise items⟩)

end ProxSync.Retention
