import ProxSync.Inventory.Service
import ProxSync.Lib.Format
import ProxSync.Restore.Desk
/-!
# Preflight of a restore

The preflight of a request is a list of named checks, and the report blocks when one of them fails.
What occupies the target is looked up by its number, the virtual machines before the containers,
and the first row that is found stands for all of them. Where the inventory has several rows of the
number, of both types or in different states, the others are not looked at.
-/
open ProxSync.Lib

namespace ProxSync.Restore.Preflight

open Inventory

/-! ## Requests and reports -/

/-- Under which number a guest is restored. -/
inductive RestoreMode
  | newId
  | originalId
  deriving DecidableEq, Repr

/-- A request to restore a backup. -/
structure RestoreRequest where
  backupId : ℕ
  restoreMode : RestoreMode
  targetVmid : Option ℕ
  targetStorage : Option String
  targetNode : Option String
  overwriteExisting : Bool
  forceStop : Bool
  vmid_bounded : ∀ vmid ∈ targetVmid, 100 ≤ vmid ∧ vmid ≤ 999999999
  storage_bounded : ∀ storage ∈ targetStorage, 1 ≤ storage.length ∧ storage.length ≤ 64
  node_bounded : ∀ node ∈ targetNode, 1 ≤ node.length ∧ node.length ≤ 64
  target_matches_mode : restoreMode = .newId → targetVmid.isSome = true

/-- A named check and what it found. -/
structure PreflightCheck where
  name : String
  ok : Bool
  detail : String
  deriving DecidableEq, Repr

/-- The checks of a request, and what it would do. -/
structure PreflightReport where
  checks : List PreflightCheck
  blocking : Bool
  warnings : List String
  source : RestoreSource
  backupId : ℕ
  filename : Option String
  sizeBytes : Option ℤ
  targetVmid : ℕ
  targetType : GuestType
  targetStorage : String
  targetNode : String
  deriving DecidableEq, Repr

/-- An artifact that the host reports. -/
structure AgentArtifact where
  filename : String
  checksumSha256 : Option String
  deriving DecidableEq, Repr

/-- A storage that the host reports. -/
structure AgentStorageEntry where
  name : String
  active : Bool
  availableBytes : ℤ
  deriving DecidableEq, Repr

/-- Why the host does not answer. -/
inductive HostFault
  | agentUnavailable (detail : String)
  | agentError (detail : String)
  | other (message : String)
  deriving DecidableEq, Repr

/-- The answers of the host. -/
structure Agent where
  listBackups : ℕ → GuestType → Except HostFault (List AgentArtifact)
  storageStatus : Except HostFault (List AgentStorageEntry)

/-- The rows of the guests in the order in which the database lists them, which is any. -/
structure Listing where
  guests : Guests
  rows : List Guest
  listed : rows.Perm guests.table.rows

/-- What the preflight reads. -/
structure Service where
  db : Database
  guests : Listing
  agent : Agent
  defaultStorage : String
  node : String

/-- What a preflight raises. -/
inductive Raised
  | notFound (detail : String)
  | host (message : String)
  | python (error : PyError)
  deriving DecidableEq, Repr

/-! ## Texts -/

/-- The status of a backup as it is written. -/
def backupStatusText : BackupStatus → String
  | .running => "running"
  | .success => "success"
  | .failed => "failed"
  | .cancelled => "cancelled"
  | .interrupted => "interrupted"
  | .deleted => "deleted"

/-- The status of a restore as it is written. -/
def restoreStatusText : RestoreStatus → String
  | .pendingConfirmation => "pending_confirmation"
  | .confirmed => "confirmed"
  | .running => "running"
  | .success => "success"
  | .failed => "failed"
  | .cancelled => "cancelled"
  | .interrupted => "interrupted"
  | .expired => "expired"

/-- How a guest is named to an operator. -/
def guestLabel (guest : Guest) : String :=
  let label := s!"{guest.guestType.value} {guest.vmid}"
  if guest.name = "" then label else s!"{label} ({guest.name})"

/-- A size in the first unit it is small in. -/
def formatUnits (size : ℚ) : List String → String
  | [] => s!"{fixed 1 (.finite size)} TiB"
  | unit :: rest =>
    if |size| < 1024 ∨ unit = "TiB" then
      if unit = "B" then s!"{size.num.tdiv size.den} B" else s!"{fixed 1 (.finite size)} {unit}"
    else formatUnits (size / 1024) rest

/-- A size in binary units. -/
def formatBytes (value : ℤ) : Except PyError String := do
  match ← (Value.int value).toFloat with
  | .finite size => .ok (formatUnits size ["B", "KiB", "MiB", "GiB", "TiB"])
  | .infinite _ => .error .overflowError
  | .nan => .error .valueError

/-- A text that is given, or another one. -/
def orDefault (given : Option String) (other : String) : String :=
  (given.filter (· ≠ "")).getD other

/-- The start of a digest. -/
def shortDigest (digest : String) : String := .ofList (digest.toList.take 16)

/-! ## The artifact -/

/-- A check of a backup row itself. -/
def checkBackup (record : BackupHistory) : PreflightCheck :=
  let name := "backup_restorable"
  match record.filename with
  | none => ⟨name, false, s!"Backup #{record.id} never produced an artifact"⟩
  | some filename =>
    if record.status ≠ .success then
      ⟨name, false, s!"Backup #{record.id} is '{backupStatusText record.status}', so its " ++
        "artifact cannot be trusted as a restore source"⟩
    else ⟨name, true, s!"{filename} (vmid {record.vmid}, {record.guestType.value})"⟩

/-- What the host holds under the name of a backup, or why it did not say. -/
def localArtifact (agent : Agent) (record : BackupHistory) :
    Except Raised (Option AgentArtifact × Option String) :=
  match record.filename with
  | none => .ok (none, none)
  | some filename =>
    match agent.listBackups record.vmid record.guestType with
    | .ok artifacts => .ok (artifacts.find? fun item => item.filename == filename, none)
    | .error (.agentUnavailable detail) | .error (.agentError detail) => .ok (none, some detail)
    | .error (.other message) => .error (.host message)

/-- Where the archive comes from, whether it is there, and warnings. -/
def artifactPresence (record : BackupHistory) (artifact : Option AgentArtifact)
    (error : Option String) : RestoreSource × PreflightCheck × List String :=
  let name := "backup_present_locally"
  match error, artifact with
  | some error, _ => (.localCopy, ⟨name, false,
      s!"The host could not be asked whether the archive is present: {error}"⟩, [])
  | none, some artifact => (.localCopy, ⟨name, true, s!"{artifact.filename} is on the host"⟩, [])
  | none, none =>
    if record.uploadStatus = .uploaded ∧ record.remotePath.isSome ∧
        record.remoteDeletedAt = none then
      (.gdrive, ⟨name, true, "Not on the host; it will be downloaded from Google Drive first"⟩,
        ["The archive is not on the host and will be downloaded from Google Drive first, which " ++
          "can take considerably longer than the restore itself."])
    else
      (.localCopy, ⟨name, false, "The archive is on neither the host nor the remote, so there " ++
        "is nothing to restore from"⟩, [])

/-- A text in lower case; of the code points above ASCII only the sign of the kelvin has a lower
case in ASCII. -/
def lowered (text : String) : List Char :=
  text.toList.map fun char => if char.toNat = 0x212a then 'k' else char.toLower

/-- Whether two texts are equal, which have to be in ASCII. -/
def compareDigest (first second : List Char) : Except PyError Bool :=
  if (first ++ second).all fun char => char.toNat < 128 then .ok (first == second)
  else .error .typeError

/-- A check of the recorded digest against the one the host reports, and warnings. -/
def checksumCheck (record : BackupHistory) (artifact : Option AgentArtifact)
    (source : RestoreSource) : Except PyError (PreflightCheck × List String) :=
  let name := "checksum_matches"
  match record.checksumSha256 with
  | none => .ok (⟨name, true, "No checksum was recorded for this backup"⟩,
      ["No checksum was recorded for this backup, so the archive cannot be verified before it " ++
        "is restored."])
  | some expected =>
    if source = .gdrive then
      .ok (⟨name, true, "The downloaded archive is verified against its recorded digest on the " ++
        "host before the restore starts"⟩, [])
    else
      match artifact.bind (·.checksumSha256) with
      | none => .ok (⟨name, true, "The host reports no digest yet; the archive is verified " ++
          "against the recorded value before the restore starts"⟩, [])
      | some actual => do
        let same ← compareDigest (lowered actual) (lowered expected)
        if same then .ok (⟨name, true, s!"sha256 {shortDigest expected}… matches"⟩, [])
        else .ok (⟨name, false, "The archive on the host does not match the recorded digest " ++
          s!"(expected {shortDigest expected}…, found {shortDigest actual}…)"⟩, [])

/-! ## The target -/

/-- The first row of a number and a type. -/
def getByVmid (guests : Listing) (vmid : ℤ) (guestType : GuestType) : Option Guest :=
  guests.rows.find? fun guest => guest.vmid == vmid && guest.guestType == guestType

/-- A row of a number, of a virtual machine before one of a container. -/
def existingGuest (guests : Listing) (vmid : ℤ) : Option Guest :=
  [GuestType.vm, .lxc].findSome? (getByVmid guests vmid)

/-- A check that the number is free or may be taken over, and warnings. -/
def targetFreeCheck (vmid : ℕ) (existing : Option Guest) (request : RestoreRequest) :
    PreflightCheck × List String :=
  let name := "target_vmid_free"
  match existing with
  | none => (⟨name, true, s!"VMID {vmid} is free"⟩, [])
  | some guest =>
    let label := guestLabel guest
    if request.overwriteExisting then
      (⟨name, true, s!"VMID {vmid} ({label}) will be overwritten"⟩,
        [s!"{label} will be destroyed and replaced by this restore."])
    else
      (⟨name, false,
        s!"VMID {vmid} is in use by {label}. Set overwrite_existing to replace it."⟩, [])

/-- A check of the type of what occupies the number. -/
def targetTypeCheck (vmid : ℕ) (existing : Option Guest) (targetType : GuestType) :
    PreflightCheck :=
  let name := "target_type_matches"
  match existing with
  | none => ⟨name, true, s!"No existing guest occupies VMID {vmid}"⟩
  | some guest =>
    if guest.guestType ≠ targetType then
      ⟨name, false, s!"VMID {vmid} is a {guest.guestType.value}; a {targetType.value} backup " ++
        "cannot replace it. Remove it on the host first, or restore to a new VMID."⟩
    else ⟨name, true, s!"VMID {vmid} is a {targetType.value}, as the backup is"⟩

/-- A check that what occupies the number does not run or may be stopped. -/
def targetStoppedCheck (vmid : ℕ) (existing : Option Guest) (request : RestoreRequest) :
    PreflightCheck :=
  let name := "target_guest_stopped"
  match existing with
  | none => ⟨name, true, s!"Nothing is running at VMID {vmid}"⟩
  | some guest =>
    if guest.status ≠ .running then ⟨name, true, s!"{guestLabel guest} is not running"⟩
    else if request.forceStop then
      ⟨name, true, s!"{guestLabel guest} is running and will be stopped first"⟩
    else
      ⟨name, false, s!"{guestLabel guest} is running. Set force_stop to shut it down before " ++
        "restoring over it."⟩

/-- A check that the restore is on the node of the agent. -/
def nodeCheck (targetNode agentNode : String) : PreflightCheck :=
  let name := "target_node_supported"
  if targetNode = agentNode then ⟨name, true, s!"Restoring on node '{targetNode}'"⟩
  else
    ⟨name, false, s!"ProxSync's agent runs on node '{agentNode}'; restoring to '{targetNode}' " ++
      "is not supported."⟩

/-! ## The storage -/

/-- How much more room a guest takes than its archive. -/
def freeSpaceMargin : ℚ := nearestDouble (115 / 100)

/-- The room that an archive of a size asks for. -/
def requiredBytes (size : ℤ) : Except PyError ℤ := do
  match ← (Value.int size).toFloat with
  | .finite value =>
    match (PyFloat.finite (value * freeSpaceMargin)).round with
    | .finite product => .ok ⌈product⌉
    | .infinite _ => .error .overflowError
    | .nan => .error .valueError
  | .infinite _ => .error .overflowError
  | .nan => .error .valueError

/-- A check of the room on a storage that is listed and active, and warnings. -/
def entryCheck (record : BackupHistory) (storage : String) (entry : AgentStorageEntry) :
    Except PyError (PreflightCheck × List String) :=
  let name := "storage_free_space"
  match record.sizeBytes.filter (· ≠ 0) with
  | none => do
    let free ← formatBytes entry.availableBytes
    .ok (⟨name, true, s!"{free} free; the backup's size is unknown, so no requirement could be " ++
      "computed"⟩, [s!"The size of this backup is not recorded, so free space on '{storage}' " ++
      "could not be checked against it."])
  | some size => do
    let required ← requiredBytes size
    let free ← formatBytes entry.availableBytes
    let needed ← formatBytes required
    .ok (⟨name, decide (required ≤ entry.availableBytes),
      s!"{free} free, {needed} required on '{storage}'"⟩, [])

/-- A check of the room on a storage, and warnings. -/
def freeSpaceCheck (agent : Agent) (record : BackupHistory) (storage : String) :
    Except Raised (PreflightCheck × List String) :=
  let name := "storage_free_space"
  match agent.storageStatus with
  | .error (.agentUnavailable detail) | .error (.agentError detail) =>
    .ok (⟨name, false, s!"Free space on '{storage}' could not be measured: {detail}"⟩, [])
  | .error (.other message) => .error (.host message)
  | .ok storages =>
    match storages.find? fun item => item.name == storage with
    | none =>
      let names := (storages.map (·.name)).mergeSort fun first second => decide (first ≤ second)
      let available := orDefault (some (joined ", " names)) "none"
      .ok (⟨name, false, s!"The host does not report a storage called '{storage}'. Available: " ++
        s!"{available}."⟩, [])
    | some entry =>
      if entry.active then (entryCheck record storage entry).mapError .python
      else .ok (⟨name, false, s!"Storage '{storage}' is not active on the host"⟩, [])

/-- A check that no other restore was authorised. -/
def inFlightCheck (db : Database) : PreflightCheck :=
  let name := "no_restore_in_flight"
  match inFlight db with
  | none => ⟨name, true, "No other restore is authorised"⟩
  | some existing =>
    ⟨name, false, s!"Restore #{existing.id} is '{restoreStatusText existing.status}'. Restores " ++
      "are serialised, so it must finish or be cancelled first."⟩

/-! ## The report -/

/-- The number of the guest that a request restores. -/
def resolveTargetVmid (request : RestoreRequest) (record : BackupHistory) : ℕ :=
  if mode : request.restoreMode = .newId then
    request.targetVmid.get (request.target_matches_mode mode)
  else record.vmid

/-- The report with the checks of a backup, given what the host answered. -/
def assemble (service : Service) (request : RestoreRequest) (record : BackupHistory)
    (source : RestoreSource) (presence checksum space : PreflightCheck × List String) :
    PreflightReport :=
  let targetVmid := resolveTargetVmid request record
  let targetNode := orDefault request.targetNode service.node
  let existing := existingGuest service.guests targetVmid
  let free := targetFreeCheck targetVmid existing request
  let checks := [checkBackup record, presence.1, checksum.1, free.1,
    targetTypeCheck targetVmid existing record.guestType,
    targetStoppedCheck targetVmid existing request, nodeCheck targetNode service.node, space.1,
    inFlightCheck service.db]
  let moved :=
    if record.node ≠ "" ∧ record.node ≠ targetNode then
      [s!"This backup was taken on node '{record.node}' and will be restored on '{targetNode}'."]
    else []
  { checks := checks
    blocking := checks.any fun check => !check.ok
    warnings := presence.2 ++ checksum.2 ++ free.2 ++ space.2 ++ moved
    source := source
    backupId := record.id
    filename := record.filename
    sizeBytes := record.sizeBytes
    targetVmid := targetVmid
    targetType := record.guestType
    targetStorage := orDefault request.targetStorage service.defaultStorage
    targetNode := targetNode }

/-- The report on a request. -/
def preflight (service : Service) (request : RestoreRequest) : Except Raised PreflightReport :=
  match service.db.history.get request.backupId with
  | none => .error (.notFound s!"No backup with id {request.backupId}")
  | some record => do
    let (artifact, error) ← localArtifact service.agent record
    let (source, presence) := artifactPresence record artifact error
    let checksum ← (checksumCheck record artifact source).mapError .python
    let space ← freeSpaceCheck service.agent record
      (orDefault request.targetStorage service.defaultStorage)
    .ok (assemble service request record source presence checksum space)

/-! ## What a report promises -/

/-- The rows of a number. -/
def rowsOf (guests : Listing) (vmid : ℤ) : List Guest :=
  guests.rows.filter fun guest => guest.vmid == vmid

/-- Every row of the target is of the type of the backup, and is there only where overwriting was
asked for, and runs only where stopping it was. -/
def Safe (request : RestoreRequest) (guests : Guests) (report : PreflightReport) : Prop :=
  ∀ guest ∈ guests.table, guest.vmid = report.targetVmid →
    guest.guestType = report.targetType ∧ request.overwriteExisting = true ∧
      (guest.status = .running → request.forceStop = true)

/-- The rows of a number are of one type, and the first of them runs or none does. -/
def Uniform (guests : Listing) (vmid : ℤ) : Prop :=
  (∀ first ∈ rowsOf guests vmid, ∀ second ∈ rowsOf guests vmid,
    first.guestType = second.guestType) ∧
    ((rowsOf guests vmid).head?.any (fun guest => guest.status == .running) = true ∨
      ∀ guest ∈ rowsOf guests vmid, guest.status ≠ .running)

/-- What occupies the target passes its three checks. -/
def Passes (request : RestoreRequest) (targetType : GuestType) (existing : Option Guest) : Prop :=
  ∀ guest ∈ existing, guest.guestType = targetType ∧ request.overwriteExisting = true ∧
    (guest.status = .running → request.forceStop = true)

variable {service : Service} {request : RestoreRequest} {report : PreflightReport}
  {guests : Listing} {vmid : ℕ}

/-- The three checks of the target pass exactly when the target does. -/
theorem passes_iff {targetType : GuestType} {existing : Option Guest} :
    ((targetFreeCheck vmid existing request).1.ok = true ∧
      (targetTypeCheck vmid existing targetType).ok = true ∧
      (targetStoppedCheck vmid existing request).ok = true) ↔
    Passes request targetType existing := by
  unfold targetFreeCheck targetTypeCheck targetStoppedCheck Passes
  cases existing with
  | none => simp
  | some guest =>
    cases request.overwriteExisting <;> cases request.forceStop <;>
      by_cases typed : guest.guestType = targetType <;>
      by_cases running : guest.status = .running <;> simp [typed, running]

/-- A report is the checks of the backup that is asked for. -/
theorem preflight_ok (asked : preflight service request = .ok report) :
    ∃ record source presence checksum space,
      service.db.history.get request.backupId = some record ∧
        report = assemble service request record source presence checksum space := by
  unfold preflight at asked
  split at asked
  · cases asked
  · rename_i record found
    obtain ⟨answer, -, asked⟩ := bind_eq_ok.mp asked
    obtain ⟨checksum, -, asked⟩ := bind_eq_ok.mp asked
    obtain ⟨space, -, asked⟩ := bind_eq_ok.mp asked
    exact ⟨record, _, _, checksum, space, found, (Except.ok.inj asked).symm⟩

/-- Where the host answers, there is a report. -/
theorem preflight_eq {record : BackupHistory} {artifact : Option AgentArtifact}
    {error : Option String} {checksum space : PreflightCheck × List String}
    (found : service.db.history.get request.backupId = some record)
    (held : localArtifact service.agent record = .ok (artifact, error))
    (verified : checksumCheck record artifact (artifactPresence record artifact error).1 =
      .ok checksum)
    (measured : freeSpaceCheck service.agent record
      (orDefault request.targetStorage service.defaultStorage) = .ok space) :
    preflight service request = .ok (assemble service request record
      (artifactPresence record artifact error).1 (artifactPresence record artifact error).2
      checksum space) := by
  unfold preflight
  rw [found]
  apply bind_eq_ok.mpr
  have wrapped : (checksumCheck record artifact (artifactPresence record artifact error).1).mapError
      Raised.python = .ok checksum := by
    rw [verified]
    rfl
  exact ⟨_, held, bind_eq_ok.mpr ⟨checksum, wrapped, bind_eq_ok.mpr ⟨space, measured, rfl⟩⟩⟩

/-- A report does not block exactly when what occupies the target passes and so do the other
checks. -/
theorem clear_iff {record : BackupHistory} {source : RestoreSource}
    {presence checksum space : PreflightCheck × List String} :
    (assemble service request record source presence checksum space).blocking = false ↔
      ((checkBackup record).ok = true ∧ presence.1.ok = true ∧ checksum.1.ok = true ∧
        (nodeCheck (orDefault request.targetNode service.node) service.node).ok = true ∧
        space.1.ok = true ∧ (inFlightCheck service.db).ok = true) ∧
      Passes request record.guestType
        (existingGuest service.guests (resolveTargetVmid request record)) := by
  rw [← @passes_iff request (resolveTargetVmid request record)]
  unfold assemble
  simp only [List.any_cons, List.any_nil, Bool.or_eq_false_iff, Bool.not_eq_false', Bool.or_false]
  tauto

/-! ## The row that is looked up -/

/-- The rows of a number are the stored ones with it. -/
theorem mem_rowsOf {guest : Guest} :
    guest ∈ rowsOf guests vmid ↔ guest ∈ guests.guests.table ∧ guest.vmid = vmid := by
  unfold rowsOf
  rw [List.mem_filter, guests.listed.mem_iff, beq_iff_eq]
  exact Iff.rfl

/-- Where the rows of a number are of one type, the first of them is found. -/
theorem existingGuest_eq_head? (same : ∀ first ∈ rowsOf guests vmid,
    ∀ second ∈ rowsOf guests vmid, first.guestType = second.guestType) :
    existingGuest guests vmid = (rowsOf guests vmid).head? := by
  have lookup : ∀ guestType, getByVmid guests vmid guestType =
      (rowsOf guests vmid).find? fun guest => guest.guestType == guestType := by
    intro guestType
    unfold rowsOf getByVmid
    rw [List.find?_filter]
    simp only [Bool.decide_and, Bool.decide_eq_true]
  unfold existingGuest
  simp only [List.findSome?_cons, List.findSome?_nil, lookup]
  cases listed : rowsOf guests vmid with
  | nil => rfl
  | cons first rest =>
    rw [listed] at same
    rw [List.head?_cons]
    cases typed : first.guestType with
    | vm => rw [List.find?_cons_of_pos (by rw [typed]; rfl)]
    | lxc =>
      have none : (first :: rest).find? (fun guest => guest.guestType == .vm) = none := by
        apply List.find?_eq_none.mpr
        intro guest inside
        rw [same guest inside first List.mem_cons_self, typed]
        decide
      rw [none, List.find?_cons_of_pos (by rw [typed]; rfl)]

/-- A report that passes is safe where the rows of its target are uniform. -/
theorem safe_of_uniform (uniform : Uniform guests vmid) {targetType : GuestType}
    (passes : Passes request targetType (existingGuest guests vmid)) :
    ∀ guest ∈ rowsOf guests vmid, guest.guestType = targetType ∧
      request.overwriteExisting = true ∧ (guest.status = .running → request.forceStop = true) := by
  obtain ⟨same, states⟩ := uniform
  rw [existingGuest_eq_head? same] at passes
  intro guest inside
  cases listed : rowsOf guests vmid with
  | nil =>
    rw [listed] at inside
    exact absurd inside List.not_mem_nil
  | cons first rest =>
    rw [listed, List.head?_cons] at states passes
    obtain ⟨typed, overwrites, stops⟩ := passes first rfl
    have member : first ∈ rowsOf guests vmid := by
      rw [listed]
      exact List.mem_cons_self
    refine ⟨(same guest inside first member).trans typed, overwrites, ?_⟩
    intro running
    rcases states with first_runs | none_runs
    · exact stops (by simpa using first_runs)
    · rw [← listed] at none_runs
      exact absurd running (none_runs guest inside)

/-- Where nothing is found there is no row of the number. -/
theorem rowsOf_of_existingGuest (none : existingGuest guests vmid = none) :
    rowsOf guests vmid = [] := by
  have missing := List.findSome?_eq_none_iff.mp none
  apply List.filter_eq_nil_iff.mpr
  intro guest listed named
  have typed : guest.guestType ∈ [GuestType.vm, .lxc] := by
    cases guest.guestType <;> decide
  have unmatched := List.find?_eq_none.mp (missing guest.guestType typed) guest listed
  exact unmatched (by simpa using named)

/-- Where the rows of a number are not uniform, the one that is looked up passes a request that
another one makes unsafe. -/
theorem exists_unsafe (mixed : ¬ Uniform guests vmid) : ∃ found targetType force,
    existingGuest guests vmid = some found ∧ found.guestType = targetType ∧
      (found.status = .running → force = true) ∧ ∃ guest ∈ rowsOf guests vmid,
        ¬ (guest.guestType = targetType ∧ (guest.status = .running → force = true)) := by
  cases existing : existingGuest guests vmid with
  | none =>
    have empty := rowsOf_of_existingGuest existing
    apply absurd _ mixed
    unfold Uniform
    rw [empty]
    exact ⟨fun _ inside => absurd inside List.not_mem_nil,
      .inr fun _ inside => absurd inside List.not_mem_nil⟩
  | some found =>
    refine ⟨found, found.guestType, decide (found.status = .running), rfl, rfl, ?_, ?_⟩
    · exact decide_eq_true
    · by_contra safe
      push Not at safe
      apply mixed
      have same : ∀ first ∈ rowsOf guests vmid, ∀ second ∈ rowsOf guests vmid,
          first.guestType = second.guestType := by
        intro first here second there
        exact (safe first here).1.trans (safe second there).1.symm
      refine ⟨same, ?_⟩
      rw [← existingGuest_eq_head? same, existing]
      by_cases running : found.status = .running
      · left
        simpa using running
      · right
        intro guest inside runs
        exact running (of_decide_eq_true ((safe guest inside).2 runs))

/-! ## A preflight that nothing else blocks -/

/-- A backup that succeeded. -/
def readyBackup (vmid : ℕ) (targetType : GuestType) : BackupHistory :=
  { BackupHistory.create 1 none ⟨vmid, targetType, "web", "pve"⟩ "local" .notRequired 0 with
    status := .success
    filename := some "archive" }

/-- A service whose host holds the archive and has its storage. -/
def readyService (guests : Listing) (vmid : ℕ) (targetType : GuestType) : Service where
  db := { Database.empty with history := .singleton (readyBackup vmid targetType) }
  guests := guests
  agent :=
    { listBackups := fun _ _ => .ok [⟨"archive", none⟩]
      storageStatus := .ok [⟨"local", true, 0⟩] }
  defaultStorage := "local"
  node := "pve"

/-- A request to restore over what is there. -/
def overwriting (force : Bool) : RestoreRequest where
  backupId := 1
  restoreMode := .originalId
  targetVmid := none
  targetStorage := none
  targetNode := none
  overwriteExisting := true
  forceStop := force
  vmid_bounded := by simp
  storage_bounded := by simp
  node_bounded := by simp
  target_matches_mode := by simp

/-- The report on such a request does not block where what is looked up passes. -/
theorem preflight_ready {targetType : GuestType} {force : Bool}
    (passes : Passes (overwriting force) targetType (existingGuest guests vmid)) : ∃ report,
      preflight (readyService guests vmid targetType) (overwriting force) = .ok report ∧
        report.targetVmid = vmid ∧ report.targetType = targetType ∧ report.blocking = false := by
  have free : formatBytes 0 = .ok "0 B" := by decide +kernel
  obtain ⟨space, enough, room⟩ : ∃ check : PreflightCheck × List String,
      entryCheck (readyBackup vmid targetType) "local" ⟨"local", true, 0⟩ = .ok check ∧
        check.1.ok = true := by
    exact ⟨_, bind_eq_ok.mpr ⟨"0 B", free, rfl⟩, rfl⟩
  have measured : freeSpaceCheck (readyService guests vmid targetType).agent
      (readyBackup vmid targetType) "local" = .ok space := by
    show (entryCheck (readyBackup vmid targetType) "local" ⟨"local", true, 0⟩).mapError _ = _
    rw [enough]
    rfl
  have built := @preflight_eq (readyService guests vmid targetType) (overwriting force)
    (readyBackup vmid targetType) (some ⟨"archive", none⟩) none _ space rfl rfl rfl measured
  exact ⟨_, built, rfl, rfl, clear_iff.mpr ⟨⟨rfl, rfl, rfl, rfl, room, rfl⟩, passes⟩⟩

/-- A preflight that does not block is safe, whatever backup is restored and however it is asked
for, exactly when the rows of its target are uniform. -/
theorem safe_iff_uniform :
    (∀ service request report, service.guests = guests →
      preflight service request = .ok report → report.targetVmid = vmid →
      report.blocking = false → Safe request guests.guests report) ↔ Uniform guests vmid := by
  constructor
  · intro safe
    by_contra mixed
    obtain ⟨found, targetType, force, existing, typed, stops, guest, inside, violates⟩ :=
      exists_unsafe mixed
    have passes : Passes (overwriting force) targetType (existingGuest guests vmid) := by
      intro other looked
      rw [existing] at looked
      obtain rfl := Option.some.inj looked
      exact ⟨typed, rfl, stops⟩
    obtain ⟨report, asked, target, type, clear⟩ := preflight_ready passes
    obtain ⟨stored, named⟩ := mem_rowsOf.mp inside
    have kept := safe _ _ report rfl asked target clear guest stored (by rw [named, target])
    rw [type] at kept
    exact violates ⟨kept.1, kept.2.2⟩
  · intro uniform service request report same asked target clear guest stored named
    obtain ⟨record, source, presence, checksum, space, -, rfl⟩ := preflight_ok asked
    have passes := (clear_iff.mp clear).2
    have number : resolveTargetVmid request record = vmid := target
    rw [number, same] at passes
    exact safe_of_uniform uniform passes guest (mem_rowsOf.mpr ⟨stored, by rw [named, target]⟩)

/-- A stopped virtual machine whose row a container of the same number came to stand beside. -/
def moved : Listing where
  guests :=
    { table := ⟨[⟨1, 101, .vm, "old", "pve-a", .stopped, true, [], 0, 0⟩,
        ⟨2, 101, .lxc, "mail", "pve-b", .running, true, [], 0, 9⟩], by decide⟩
      unique := by decide }
  rows := [⟨1, 101, .vm, "old", "pve-a", .stopped, true, [], 0, 0⟩,
    ⟨2, 101, .lxc, "mail", "pve-b", .running, true, [], 0, 9⟩]
  listed := .refl _

/-- A container that runs does not keep a virtual machine from being restored over it. -/
theorem not_safe_of_moved : ∃ report,
    preflight (readyService moved 101 .vm) (overwriting false) = .ok report ∧
      report.blocking = false ∧ ¬ Safe (overwriting false) moved.guests report := by
  have passes : Passes (overwriting false) .vm (existingGuest moved (101 : ℕ)) := by
    intro guest found
    have first : existingGuest moved (101 : ℕ) =
      some ⟨1, 101, .vm, "old", "pve-a", .stopped, true, [], 0, 0⟩ := rfl
    rw [first] at found
    obtain rfl := Option.some.inj found
    exact ⟨rfl, rfl, by decide⟩
  obtain ⟨report, asked, target, type, clear⟩ := preflight_ready passes
  refine ⟨report, asked, clear, ?_⟩
  intro safe
  have container := safe ⟨2, 101, .lxc, "mail", "pve-b", .running, true, [], 0, 9⟩
    (by simp [moved, Table.mem_iff]) (by rw [target]; rfl)
  rw [type] at container
  exact absurd container.1 (by decide)

end ProxSync.Restore.Preflight
