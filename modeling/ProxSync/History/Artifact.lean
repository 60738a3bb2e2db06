import ProxSync.Lib.System
import ProxSync.History.Writers
import ProxSync.Retention.Classify
/-!
# Which row owns a file on the host

The agent deletes archives by name, so a name has to belong to one row. Rows get their names in
two ways: the runner records what its task produced, and an upload by filename imports a file
found on the host when no listed row carries the name. Between the moment an archive appears on
the host and the moment its outcome is recorded the running row has no name, and an import in
that window makes a second row for the file. This module follows names over all the writers.
-/
open ProxSync.Lib ProxSync.Retention

namespace ProxSync.History

/-- An archive the agent lists. -/
structure AgentArtifact where
  filename : String
  path : String
  vmid : Nat
  guestType : GuestType
  sizeBytes : Int
  createdAt : Instant
  checksumSha256 : Option String
  deriving DecidableEq, Repr

/-- A deletion the agent was ordered to carry out, with the other rows that relied on the file. -/
structure DeletionOrder where
  backupId : Nat
  filename : String
  relying : List Nat
  deriving DecidableEq, Repr

/-- The rows, the files on the host and what is under way for them. -/
structure ArtifactState where
  history : Table BackupHistory.id
  host : List AgentArtifact
  /-- Archives of running backups that are not recorded yet, by row. -/
  producing : List (Nat × String)
  /-- Backups that an open restore names. -/
  restoring : List Nat
  /-- Deletions ordered so far, latest first. -/
  orders : List DeletionOrder

/-- What may happen to rows and files. -/
inductive ArtifactEvent
  | openBackup (id : Nat) (runId : Nat) (target : ResolvedTarget) (storage : String)
      (upload : Bool) (now : Instant)
  | produce (id : Nat) (artifact : AgentArtifact)
  | recordOutcome (id : Nat) (task : AgentTask) (upload : Bool) (now : Instant)
  | uploadByFilename (id : Nat) (filename : String) (force : Bool)
  | recordUpload (id : Nat) (result : UploadResult)
  | deleteLocal (id : Nat) (now : Instant)
  | retain (id : Nat) (location : RetentionLocation) (now : Instant)
  | requestRestore (id : Nat)
  | download (id : Nat) (artifact : AgentArtifact)
  | closeRestore (id : Nat)
  | lock (id : Nat) (locked : Bool)
  | hostGains (artifact : AgentArtifact)
  | hostLoses (filename : String)

/-- Match a pattern with the wildcards of SQL, ignoring case. -/
def likeChars : List Char → List Char → Bool
  | [], text => text.isEmpty
  | '%' :: pattern, text => text.tails.any fun rest => likeChars pattern rest
  | _ :: _, [] => false
  | wanted :: pattern, found :: rest =>
    (wanted == '_' || wanted.toLower == found.toLower) && likeChars pattern rest

/-- Drop the blanks around a text. -/
def strip (text : String) : List Char :=
  ((text.toList.dropWhile Char.isWhitespace).reverse.dropWhile Char.isWhitespace).reverse

/-- Whether the search for a text lists a row: by name of the guest or of the file, or by id. -/
def matchesQuery (query : String) (record : BackupHistory) : Bool :=
  let wanted := strip query
  let pattern := '%' :: (wanted ++ ['%'])
  let digits := !wanted.isEmpty && wanted.all Char.isDigit
  let number := wanted.foldl (fun total digit => 10 * total + (digit.toNat - 48)) 0
  query.isEmpty || likeChars pattern record.guestName.toList ||
    (record.filename.any fun filename => likeChars pattern filename.toList) ||
    (digits && record.vmid == number)

/-- The first listed rows for a text, newest first; deleted rows are not listed. -/
def search (history : Table BackupHistory.id) (query : String) (limit : Nat) :
    List BackupHistory :=
  (orderNewestFirst (history.rows.filter fun record =>
    record.status != .deleted && matchesQuery query record)).take limit

/-- The listed row that carries a filename. -/
def matched (history : Table BackupHistory.id) (filename : String) : Option BackupHistory :=
  (search history filename 10).find? fun record => record.filename == some filename

/-- How an imported guest is called. -/
def importedName (artifact : AgentArtifact) : String :=
  (match artifact.guestType with | .vm => "VM" | .lxc => "LXC") ++ s!" {artifact.vmid}"

/-- The row an import creates; the upload it is created for makes it pending. -/
def importRow (id : Nat) (artifact : AgentArtifact) : BackupHistory :=
  { BackupHistory.create id none
      ⟨artifact.vmid, artifact.guestType, importedName artifact, "server"⟩ "hdd_3tb" .pending
      artifact.createdAt with
    filename := some artifact.filename
    localPath := some artifact.path
    sizeBytes := some artifact.sizeBytes
    status := .success
    finishedAt := some artifact.createdAt
    checksumSha256 := artifact.checksumSha256 }

/-- The other rows whose copy on the host is the named file. -/
def relyingOn (history : Table BackupHistory.id) (backupId : Nat) (filename : String) : List Nat :=
  (history.rows.filter fun record => record.id != backupId && record.status != .deleted &&
    localPresent record && record.filename == some filename).map BackupHistory.id

/-- Every writer keeps the id of its row. -/
theorem recordOutcome_id (task : AgentTask) (upload : Bool) (now : Instant)
    (record : BackupHistory) : (recordOutcome task upload now record).id = record.id := by
  simp only [recordOutcome]
  split
  · split <;> rfl
  · rfl

/-- A recorded upload keeps the id of its row. -/
theorem recordUpload_id (result : UploadResult) (record : BackupHistory) :
    (recordUpload result record).id = record.id := by
  unfold recordUpload
  cases result.verification <;> rfl

namespace ArtifactState

/-- Rewrite one row. -/
def setRow (state : ArtifactState) (id : Nat) (update : BackupHistory → BackupHistory)
    (keeps : ∀ record, (update record).id = record.id) : ArtifactState :=
  { state with history := state.history.modify id update keeps }

/-- Order the agent to delete the file of a row. -/
def orderDeletion (state : ArtifactState) (id : Nat) (filename : String) : ArtifactState :=
  let order : DeletionOrder := ⟨id, filename, relyingOn state.history id filename⟩
  { state with
    host := state.host.filter fun artifact => artifact.filename != filename
    orders := order :: state.orders }

/-- Whether the host holds a file. -/
def onHost (state : ArtifactState) (filename : String) : Bool :=
  state.host.any fun artifact => artifact.filename == filename

/-- Whether a row could be recorded under a name without breaking the unique pair of storage and
filename. -/
def recordable (state : ArtifactState) (record : BackupHistory) (filename : String) : Bool :=
  state.history.rows.all fun other =>
    other.id == record.id || !(other.storage == record.storage && other.filename == some filename)

/-- The effect of one event, or nothing where it cannot happen. -/
def step (state : ArtifactState) : ArtifactEvent → Option ArtifactState
  | .openBackup id runId target storage upload now =>
    if fresh : ∀ other ∈ state.history, other.id < id then
      let row := BackupHistory.create id (some runId) target storage
        (if upload then .pending else .notRequired) now
      some { state with history := state.history.insert row fresh }
    else none
  | .produce id artifact =>
    -- The dump tool names an archive after its guest and the second it started, and never
    -- writes over an archive.
    match state.history.get id with
    | none => none
    | some row =>
      if row.status = .running ∧
          (∀ other ∈ state.history, other.filename ≠ some artifact.filename) ∧
          (∀ entry ∈ state.producing, entry.2 ≠ artifact.filename) ∧
          state.onHost artifact.filename = false then
        some { state with
          host := artifact :: state.host
          producing := (id, artifact.filename) :: state.producing }
      else none
  | .recordOutcome id task upload now =>
    match state.history.get id with
    | none => none
    | some row =>
      let finished := { state with producing := state.producing.filter fun entry => entry.1 != id }
      if row.status ≠ .running then none
      else if task.state = .success then
        match textField task.result "filename" with
        | none => none
        | some filename =>
          if (id, filename) ∈ state.producing ∧ state.recordable row filename then
            some (finished.setRow id (History.recordOutcome task upload now)
              (recordOutcome_id task upload now))
          else none
      else some (finished.setRow id (History.recordOutcome task upload now)
        (recordOutcome_id task upload now))
  | .uploadByFilename id filename force =>
    match matched state.history filename with
    | some row =>
      if row.status = .success ∧ localPresent row ∧ (row.uploadStatus = .uploaded → force) then
        some (state.setRow row.id (setUploadStatus .pending) fun _ => rfl)
      else none
    | none =>
      match state.host.find? fun artifact => artifact.filename == filename with
      | none => none
      | some artifact =>
        let row := importRow id artifact
        if fresh : ∀ other ∈ state.history, other.id < row.id then
          if state.recordable row filename then
            some { state with history := state.history.insert row fresh }
          else none
        else none
  | .recordUpload id result =>
    some (state.setRow id (History.recordUpload result) (recordUpload_id result))
  | .deleteLocal id now =>
    match state.history.get id with
    | none => none
    | some row =>
      match row.filename with
      | none => none
      | some filename =>
        if row.status ≠ .running ∧ row.retentionLocked = false ∧ id ∉ state.restoring ∧
            state.onHost filename then
          some ((state.orderDeletion id filename).setRow id (deleteLocalArtifact now) fun _ => rfl)
        else none
  | .retain id location now =>
    match state.history.get id with
    | none => none
    | some row =>
      if hasCopy location row ∧ row.retentionLocked = false ∧ id ∉ state.restoring then
        match location, row.filename with
        | .localCopy, some filename =>
          some ((state.orderDeletion id filename).setRow id (markDeletedRow .localCopy now)
            (markDeletedRow_id .localCopy now))
        | _, _ => some (state.setRow id (markDeletedRow location now)
            (markDeletedRow_id location now))
      else none
  | .requestRestore id =>
    match state.history.get id with
    | none => none
    | some row =>
      if row.status = .success then some { state with restoring := id :: state.restoring } else none
  | .download id artifact =>
    match state.history.get id with
    | none => none
    | some row =>
      if id ∈ state.restoring ∧ row.filename = some artifact.filename ∧
          state.onHost artifact.filename = false then
        some ({ state with host := artifact :: state.host }.setRow id markLocalCopyPresent
          fun _ => rfl)
      else none
  | .closeRestore id => some { state with restoring := state.restoring.erase id }
  | .lock id locked => some (state.setRow id (setRetentionLock locked) fun _ => rfl)
  | .hostGains artifact =>
    if state.onHost artifact.filename then none
    else some { state with host := artifact :: state.host }
  | .hostLoses filename =>
    some { state with host := state.host.filter fun artifact => artifact.filename != filename }

/-- Rows and files from the first start. -/
def system : System ArtifactState ArtifactEvent where
  init state := state = ⟨.empty, [], [], [], []⟩
  step := step

/-- Rows whose copy on the host is a named file. -/
def Owns (record : BackupHistory) (filename : String) : Prop :=
  localPresent record = true ∧ record.filename = some filename

instance (record : BackupHistory) (filename : String) : Decidable (Owns record filename) :=
  inferInstanceAs (Decidable (_ ∧ _))

/-- A file belongs to one row, and no deletion ordered so far took a file another row relied on. -/
def OneOwner (state : ArtifactState) : Prop :=
  (∀ first ∈ state.history, ∀ second ∈ state.history, ∀ filename,
    Owns first filename → Owns second filename → first = second) ∧
  ∀ order ∈ state.orders, order.relying = []

/-- An import makes a row only for a name that no row carries and no running backup produces. -/
def ImportsForeign (state : ArtifactState) : ArtifactEvent → Prop
  | .uploadByFilename _ filename _ => matched state.history filename = none →
    (∀ record ∈ state.history, record.filename ≠ some filename) ∧
      ∀ entry ∈ state.producing, entry.2 ≠ filename
  | _ => True

/-- What every reachable state satisfies while imports are of foreign files. -/
structure Named (state : ArtifactState) : Prop where
  /-- A name is carried by one row, whatever the state of that row. -/
  unique : ∀ first ∈ state.history, ∀ second ∈ state.history, ∀ filename,
    first.filename = some filename → second.filename = some filename → first = second
  /-- The archive of a running backup is named by no row. -/
  unnamed : ∀ entry ∈ state.producing, ∀ record ∈ state.history, record.filename ≠ some entry.2
  /-- Running backups produce different archives. -/
  distinct : (state.producing.map Prod.snd).Nodup
  /-- No deletion took a file another row relied on. -/
  spared : ∀ order ∈ state.orders, order.relying = []

variable {state after : ArtifactState}

/-- With unique names nothing else relies on the file of a row. -/
theorem Named.relyingOn_eq_nil (named : Named state) {row : BackupHistory} {filename : String}
    (stored : row ∈ state.history) (own : row.filename = some filename) :
    relyingOn state.history row.id filename = [] := by
  rw [relyingOn, List.map_eq_nil_iff, List.filter_eq_nil_iff]
  intro other present relies
  simp only [Bool.and_eq_true, bne_iff_ne, ne_eq, beq_iff_eq] at relies
  have same := named.unique other present row stored filename relies.2 own
  exact relies.1.1.1 (congrArg BackupHistory.id same)

/-- A write that keeps every name keeps names unique. -/
theorem Named.setRow (named : Named state) {id : Nat} {update : BackupHistory → BackupHistory}
    {keeps : ∀ record, (update record).id = record.id}
    (name : ∀ record, (update record).filename = record.filename) :
    Named (state.setRow id update keeps) := by
  have carried : ∀ record ∈ (state.setRow id update keeps).history, ∃ old ∈ state.history,
      old.id = record.id ∧ old.filename = record.filename := by
    intro record stored
    rcases (Table.mem_modify keeps).mp stored with ⟨old, present, _, rfl⟩ | ⟨present, _⟩
    · exact ⟨old, present, (keeps old).symm, (name old).symm⟩
    · exact ⟨record, present, rfl, rfl⟩
  refine ⟨?_, ?_, named.distinct, named.spared⟩
  · intro first firstStored second secondStored filename firstName secondName
    obtain ⟨one, oneStored, oneId, oneName⟩ := carried first firstStored
    obtain ⟨two, twoStored, twoId, twoName⟩ := carried second secondStored
    have same := named.unique one oneStored two twoStored filename (oneName.trans firstName)
      (twoName.trans secondName)
    exact Table.eq_of_key firstStored secondStored (oneId.symm.trans (same ▸ twoId))
  · intro entry producing record stored
    obtain ⟨old, oldStored, _, oldName⟩ := carried record stored
    rw [← oldName]
    exact named.unnamed entry producing old oldStored

/-- A state that differs only in the host and the restores. -/
theorem Named.congr (named : Named state) (history : after.history = state.history)
    (producing : after.producing = state.producing) (orders : after.orders = state.orders) :
    Named after := by
  refine ⟨?_, ?_, ?_, ?_⟩
  · rw [history]; exact named.unique
  · rw [history, producing]; exact named.unnamed
  · rw [producing]; exact named.distinct
  · rw [orders]; exact named.spared

/-- Ordering the deletion of a row's own file spares the other rows. -/
theorem Named.orderDeletion (named : Named state) {row : BackupHistory} {filename : String}
    (stored : row ∈ state.history) (own : row.filename = some filename) :
    Named (state.orderDeletion row.id filename) := by
  refine ⟨named.unique, named.unnamed, named.distinct, ?_⟩
  intro order ordered
  rcases List.mem_cons.mp ordered with rfl | before
  · exact named.relyingOn_eq_nil stored own
  · exact named.spared order before

/-- A new row whose name, if it has one, is carried nowhere. -/
theorem Named.insert (named : Named state) {row : BackupHistory}
    {fresh : ∀ other ∈ state.history, other.id < row.id}
    (foreign : ∀ filename, row.filename = some filename →
      (∀ record ∈ state.history, record.filename ≠ some filename) ∧
        ∀ entry ∈ state.producing, entry.2 ≠ filename) :
    Named { state with history := state.history.insert row fresh } := by
  refine ⟨?_, ?_, named.distinct, named.spared⟩
  · intro first firstStored second secondStored filename firstName secondName
    rcases (Table.mem_insert fresh).mp firstStored with firstOld | rfl <;>
      rcases (Table.mem_insert fresh).mp secondStored with secondOld | rfl
    · exact named.unique first firstOld second secondOld filename firstName secondName
    · exact absurd firstName ((foreign filename secondName).1 first firstOld)
    · exact absurd secondName ((foreign filename firstName).1 second secondOld)
    · rfl
  · intro entry producing record stored
    rcases (Table.mem_insert fresh).mp stored with old | rfl
    · exact named.unnamed entry producing record old
    · exact fun name => (foreign entry.2 name).2 entry producing rfl

/-- Forgetting what a row produces keeps names unique. -/
theorem Named.finish (named : Named state) (id : Nat) :
    Named { state with producing := state.producing.filter fun entry => entry.1 != id } := by
  refine ⟨named.unique, ?_, ?_, named.spared⟩
  · exact fun entry producing => named.unnamed entry (List.mem_of_mem_filter producing)
  · exact named.distinct.sublist (List.filter_sublist.map Prod.snd)

/-- A recorded outcome names the row only when the task succeeded. -/
theorem recordOutcome_filename (task : AgentTask) (upload : Bool) (now : Instant)
    (record : BackupHistory) : (History.recordOutcome task upload now record).filename =
      if task.state = .success then (textField task.result "filename").or record.filename
      else record.filename := by
  cases state : task.state <;> cases upload <;>
    simp [History.recordOutcome, state, AgentTaskState.backupStatus, applyArtifact]

/-- Recording the archive a row was producing keeps names unique. -/
theorem Named.record (named : Named state) {id : Nat} {filename : String} {task : AgentTask}
    {upload : Bool} {now : Instant} (succeeded : task.state = .success)
    (reported : textField task.result "filename" = some filename)
    (produced : (id, filename) ∈ state.producing) :
    Named ({ state with producing := state.producing.filter fun entry => entry.1 != id }.setRow id
      (History.recordOutcome task upload now) (recordOutcome_id task upload now)) := by
  have carried : ∀ record ∈ state.history.modify id (History.recordOutcome task upload now)
      (recordOutcome_id task upload now),
      (record.id = id ∧ record.filename = some filename) ∨ (record ∈ state.history ∧
        record.id ≠ id) := by
    intro record stored
    rcases (Table.mem_modify (recordOutcome_id task upload now)).mp stored with
      ⟨old, _, rfl, rfl⟩ | other
    · refine .inl ⟨recordOutcome_id .., ?_⟩
      rw [recordOutcome_filename, if_pos succeeded, reported, Option.some_or]
    · exact .inr other
  refine ⟨?_, ?_, ?_, named.spared⟩
  · intro first firstStored second secondStored name firstName secondName
    rcases carried first firstStored with ⟨firstId, firstIs⟩ | ⟨firstOld, _⟩ <;>
      rcases carried second secondStored with ⟨secondId, secondIs⟩ | ⟨secondOld, _⟩
    · exact Table.eq_of_key firstStored secondStored (firstId.trans secondId.symm)
    · have shared : second.filename = some filename :=
        secondName.trans (firstName.symm.trans firstIs)
      exact absurd shared (named.unnamed _ produced second secondOld)
    · have shared : first.filename = some filename :=
        firstName.trans (secondName.symm.trans secondIs)
      exact absurd shared (named.unnamed _ produced first firstOld)
    · exact named.unique first firstOld second secondOld name firstName secondName
  · intro entry remaining record stored
    obtain ⟨producing, other⟩ := List.mem_filter.mp remaining
    rcases carried record stored with ⟨_, is⟩ | ⟨old, _⟩
    · -- The remaining archives have other names than the one just recorded.
      rw [is]
      intro same
      have equal : entry = (id, filename) := by
        have injective := List.inj_on_of_nodup_map named.distinct
        exact injective producing produced (by simpa using same.symm)
      simp [equal] at other
    · exact named.unnamed entry producing record old
  · exact named.distinct.sublist (List.filter_sublist.map Prod.snd)

/-- Starting an archive under a new name keeps names unique. -/
theorem Named.produce (named : Named state) {id : Nat} {artifact : AgentArtifact}
    (unnamed : ∀ other ∈ state.history, other.filename ≠ some artifact.filename)
    (unused : ∀ entry ∈ state.producing, entry.2 ≠ artifact.filename) :
    Named { state with
      host := artifact :: state.host
      producing := (id, artifact.filename) :: state.producing } := by
  refine ⟨named.unique, ?_, ?_, named.spared⟩
  · intro entry producing
    rcases List.mem_cons.mp producing with rfl | before
    · exact unnamed
    · exact named.unnamed entry before
  · rw [List.map_cons, List.nodup_cons]
    refine ⟨fun repeated => ?_, named.distinct⟩
    obtain ⟨entry, before, same⟩ := List.mem_map.mp repeated
    exact unused entry before same

/-- A mark keeps the name of its row. -/
theorem markDeletedRow_filename (location : RetentionLocation) (now : Instant)
    (record : BackupHistory) : (markDeletedRow location now record).filename = record.filename := by
  cases location <;>
    simp only [markDeletedRow, markLocalDeletedRow, markRemoteDeletedRow, refreshStatus] <;>
    split <;> rfl

/-- A recorded upload keeps the name of its row. -/
theorem recordUpload_filename (result : UploadResult) (record : BackupHistory) :
    (History.recordUpload result record).filename = record.filename := by
  unfold History.recordUpload
  cases result.verification <;> rfl

/-- One event keeps names unique when imports are of foreign files. -/
theorem step_named {event : ArtifactEvent} (named : Named state)
    (foreign : ImportsForeign state event) (stepped : state.step event = some after) :
    Named after := by
  cases event with
  | openBackup id runId target storage upload now =>
    simp only [step] at stepped
    split at stepped
    · rw [Option.some.injEq] at stepped
      subst stepped
      exact named.insert fun filename name => by simp [BackupHistory.create] at name
    · simp at stepped
  | produce id artifact =>
    simp only [step] at stepped
    split at stepped
    · simp at stepped
    · split at stepped
      · rename_i fresh
        rw [Option.some.injEq] at stepped
        subst stepped
        exact named.produce fresh.2.1 fresh.2.2.1
      · simp at stepped
  | recordOutcome id task upload now =>
    simp only [step] at stepped
    split at stepped
    · simp at stepped
    · split at stepped
      · simp at stepped
      · split at stepped
        · rename_i succeeded
          split at stepped
          · simp at stepped
          · rename_i filename reported
            split at stepped
            · rename_i produced
              rw [Option.some.injEq] at stepped
              subst stepped
              exact named.record succeeded reported produced.1
            · simp at stepped
        · rename_i unsuccessful
          rw [Option.some.injEq] at stepped
          subst stepped
          refine (named.finish id).setRow fun record => ?_
          rw [recordOutcome_filename, if_neg unsuccessful]
  | uploadByFilename id filename force =>
    simp only [step] at stepped
    split at stepped
    · split at stepped
      · rw [Option.some.injEq] at stepped
        subst stepped
        exact named.setRow fun _ => rfl
      · simp at stepped
    · rename_i unmatched
      split at stepped
      · simp at stepped
      · rename_i artifact found
        have name : artifact.filename = filename := by simpa using List.find?_some found
        split at stepped
        · split at stepped
          · rw [Option.some.injEq] at stepped
            subst stepped
            refine named.insert fun other is => ?_
            have same : filename = other := by simpa [importRow, name] using is
            exact same ▸ foreign unmatched
          · simp at stepped
        · simp at stepped
  | recordUpload id result =>
    simp only [step, Option.some.injEq] at stepped
    subst stepped
    exact named.setRow (recordUpload_filename result)
  | deleteLocal id now =>
    simp only [step] at stepped
    split at stepped
    · simp at stepped
    · rename_i row found
      split at stepped
      · simp at stepped
      · rename_i filename own
        split at stepped
        · rw [Option.some.injEq] at stepped
          subst stepped
          obtain ⟨stored, rfl⟩ := Table.get_eq_some.mp found
          exact (named.orderDeletion stored own).setRow fun _ => rfl
        · simp at stepped
  | retain id location now =>
    simp only [step] at stepped
    split at stepped
    · simp at stepped
    · rename_i row found
      obtain ⟨stored, rfl⟩ := Table.get_eq_some.mp found
      split at stepped
      · cases location with
        | remoteCopy =>
          rw [Option.some.injEq] at stepped
          subst stepped
          exact named.setRow (markDeletedRow_filename .remoteCopy now)
        | localCopy =>
          cases own : row.filename with
          | none =>
            simp only [own, Option.some.injEq] at stepped
            subst stepped
            exact named.setRow (markDeletedRow_filename .localCopy now)
          | some filename =>
            simp only [own, Option.some.injEq] at stepped
            subst stepped
            exact (named.orderDeletion stored own).setRow (markDeletedRow_filename .localCopy now)
      · simp at stepped
  | requestRestore id =>
    simp only [step] at stepped
    split at stepped
    · simp at stepped
    · split at stepped
      · rw [Option.some.injEq] at stepped
        subst stepped
        exact named.congr rfl rfl rfl
      · simp at stepped
  | download id artifact =>
    simp only [step] at stepped
    split at stepped
    · simp at stepped
    · split at stepped
      · rw [Option.some.injEq] at stepped
        subst stepped
        have gained : Named { state with host := artifact :: state.host } :=
          named.congr rfl rfl rfl
        exact gained.setRow fun _ => rfl
      · simp at stepped
  | closeRestore id =>
    simp only [step, Option.some.injEq] at stepped
    subst stepped
    exact named.congr rfl rfl rfl
  | lock id locked =>
    simp only [step, Option.some.injEq] at stepped
    subst stepped
    exact named.setRow fun _ => rfl
  | hostGains artifact =>
    simp only [step] at stepped
    split at stepped
    · simp at stepped
    · rw [Option.some.injEq] at stepped
      subst stepped
      exact named.congr rfl rfl rfl
  | hostLoses filename =>
    simp only [step, Option.some.injEq] at stepped
    subst stepped
    exact named.congr rfl rfl rfl

/-- In every run whose imports are of foreign files, a file belongs to one row and no deletion
takes a file another row relies on. -/
theorem oneOwner_of_importsForeign (state : ArtifactState)
    (reached : system.Reachable ImportsForeign state) : OneOwner state := by
  have named : Named state := by
    refine reached.invariant_alone ⟨?_, ?_⟩
    · rintro _ rfl
      exact ⟨by simp, by simp, by simp, by simp⟩
    · exact fun _ _ _ _ named foreign stepped => step_named named foreign stepped
  refine ⟨?_, named.spared⟩
  intro first firstStored second secondStored filename firstOwns secondOwns
  exact named.unique first firstStored second secondStored filename firstOwns.2 secondOwns.2

instance (state : ArtifactState) (event : ArtifactEvent) :
    Decidable (ImportsForeign state event) := by
  cases event <;> unfold ImportsForeign <;> infer_instance

/-- The archive of the example runs. -/
def nightlyArchive : AgentArtifact :=
  ⟨"vzdump-qemu-101.vma.zst", "/dump/vzdump-qemu-101.vma.zst", 101, .vm, 100, 10, none⟩

/-- A backup that is opened and writes its archive. -/
def archiveWritten : List ArtifactEvent :=
  [.openBackup 1 1 ⟨101, .vm, "web", "pve"⟩ "backup-hdd" false 10, .produce 1 nightlyArchive]

/-- Its outcome as the agent reports it. -/
def archiveReported : AgentTask :=
  ⟨.success, some 20, none, .singleton "filename" (.str "vzdump-qemu-101.vma.zst")⟩

/-- An upload by filename that lands before the outcome is recorded gives the file two owners. -/
theorem import_during_backup_shares_file :
    ¬ ∀ state, system.Reachable System.unguarded state → OneOwner state := by
  intro always
  obtain ⟨state, reached, shared⟩ : ∃ state, system.Reachable System.unguarded state ∧
      (decide (∃ first ∈ state.history, ∃ second ∈ state.history, first.id = 1 ∧ second.id = 2 ∧
        Owns first "vzdump-qemu-101.vma.zst" ∧ Owns second "vzdump-qemu-101.vma.zst")) = true :=
    System.exists_of_runFrom rfl (archiveWritten ++
      [.uploadByFilename 2 "vzdump-qemu-101.vma.zst" true,
        .recordOutcome 1 archiveReported false 20]) _ (by decide)
  obtain ⟨first, firstStored, second, secondStored, one, two, firstOwns, secondOwns⟩ :=
    of_decide_eq_true shared
  have same := (always state reached).1 first firstStored second secondStored _ firstOwns secondOwns
  simp [same, two] at one

/-- Once the outcome is recorded the same upload finds the row, and the file keeps one owner. -/
theorem import_after_backup_keeps_owner :
    ∃ state, system.Reachable ImportsForeign state ∧ state.history.rows.length = 1 ∧
      OneOwner state := by
  obtain ⟨state, reached, one⟩ : ∃ state, system.Reachable ImportsForeign state ∧
      (decide (state.history.rows.length = 1)) = true :=
    System.exists_of_runFrom rfl (archiveWritten ++
      [.recordOutcome 1 archiveReported false 20,
        .uploadByFilename 2 "vzdump-qemu-101.vma.zst" true]) _ (by decide)
  exact ⟨state, reached, of_decide_eq_true one, oneOwner_of_importsForeign state reached⟩

end ArtifactState

end ProxSync.History
