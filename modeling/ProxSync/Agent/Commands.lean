import ProxSync.Agent.Artifacts
import ProxSync.Agent.Checksum
import ProxSync.Lib.Lines
/-!
# The commands of the agent

A request that passes the checks of the agent becomes a list of words that is run without a shell.
Guests and storages are looked up on the host, names of archives are resolved inside the dump root,
the digest of an archive is taken from the file beside it where it may be, and remotes and folders
are normalised; a request that does not pass is declined with a reason.
-/
open ProxSync.Lib

namespace ProxSync.Agent

/-! ## What the agent looks at -/

/-- How a guest is backed up. -/
inductive BackupMode
  | snapshot
  | suspend
  | stop
  deriving DecidableEq, Repr

/-- The mode as it is written. -/
def BackupMode.value : BackupMode → String
  | .snapshot => "snapshot"
  | .suspend => "suspend"
  | .stop => "stop"

/-- How vzdump spells a compression. -/
def Compression.vzdumpValue : Compression → String
  | .zstd => "zstd"
  | .gzip => "gzip"
  | .lzo => "lzo"
  | .none => "0"

/-- The type of a guest as it is written. -/
def guestTypeValue : GuestType → String
  | .vm => "vm"
  | .lxc => "lxc"

/-- Why a request is not accepted. -/
inductive Declined
  | raised (raised : Raised)
  | guestLocked (detail : String)
  | concurrencyConflict (detail : String)
  deriving DecidableEq, Repr

/-- A value is refused. -/
def invalid {α : Type} (detail : String) : Except Declined α :=
  .error (.raised (.failure (.validationFailed detail)))

/-- A value, unless there is a reason to refuse it. -/
def accepting {α : Type} (refused : Option String) (value : α) : Except Declined α :=
  match refused with
  | some detail => invalid detail
  | none => .ok value

/-- What the agent is configured with. -/
structure AgentSettings where
  dumpRoot : String
  tempDir : String
  vzdumpBin : String
  qmrestoreBin : String
  pctBin : String
  rcloneBin : String
  rcloneConfig : Option String
  syncEnabled : Bool
  allowedRemotes : List String
  allowedVmids : List ℤ
  allowedBackupStorages : List String
  allowedRestoreStorages : List String
  verifyStorageWithPvesm : Bool
  rcloneTransfers : ℕ
  rcloneCheckers : ℕ
  rcloneLowLevelRetries : ℕ
  rcloneStatsIntervalSeconds : ℕ
  maxConcurrentBackups : ℕ
  maxConcurrentSyncs : ℕ

/-- The host as a request finds it. -/
structure Machine where
  /-- A path with its symbolic links followed. -/
  resolve : String → String
  absolute : ∀ path, (resolve path).toList.head? = some '/'
  isFile : String → Bool
  exists_ : String → Bool
  /-- Whether a guest has a configuration file. -/
  configured : ℤ → GuestType → Bool
  /-- The exit code and the text of the command that asks for the status of a guest. -/
  status : ℤ → ℤ × String
  /-- The storages that pvesm reported last. -/
  storages : List String
  /-- The regular files that can be read, by their paths. -/
  archive : String → Option Archive
  /-- The files with digests beside them, where these can be read. -/
  sidecar : String → Option Sidecar
  hashes : Hashes
  /-- The letters and digits of any script. -/
  isalnum : Char → Bool
  /-- Whether no task holds the slot. -/
  slotFree : Bool

/-! ## Checks -/

/-- A name in a directory. -/
def join (directory name : String) : String :=
  if directory.toList.getLast? = some '/' then directory ++ name else directory ++ "/" ++ name

/-- Whether a path is a directory or lies in it. -/
def isRelativeTo (path directory : String) : Bool :=
  path == directory || (join directory "").toList.isPrefixOf path.toList

/-- A name in a directory that does not leave it. -/
def resolveWithin (machine : Machine) (root name : String) : Except Declined String :=
  match refuseBasename name with
  | some detail => invalid detail
  | none =>
    let resolvedRoot := machine.resolve root
    let candidate := machine.resolve (join resolvedRoot name)
    if candidate = resolvedRoot ∨ !isRelativeTo candidate resolvedRoot then
      invalid s!"Resolved path escapes the permitted root: {name}"
    else .ok candidate

/-- An artifact of the dump root with its path. -/
def resolveArtifact (settings : AgentSettings) (machine : Machine) (filename : String) :
    Except Declined (ArtifactName × String) := do
  let artifact ← (parseArtifactName filename).mapError .raised
  let path ← resolveWithin machine settings.dumpRoot filename
  if !machine.isFile path then
    .error (.raised (.failure (.notFound s!"Backup '{filename}' does not exist on this host")))
  else .ok (artifact, path)

/-- Why a number is not that of a guest the agent may touch, if it is not. -/
def refuseVmid (settings : AgentSettings) (vmid : ℤ) : Option String :=
  if ¬ (100 ≤ vmid ∧ vmid ≤ 999999999) then some "VMID must be between 100 and 999999999"
  else if settings.allowedVmids ≠ [] ∧ vmid ∉ settings.allowedVmids then
    some s!"VMID {vmid} is not in this agent's allow-list"
  else none

/-- The type of the guest with a number. -/
def findGuest (machine : Machine) (vmid : ℤ) : Option GuestType :=
  [GuestType.vm, GuestType.lxc].find? (machine.configured vmid)

/-- The type of a guest that has to be there. -/
def requireGuest (settings : AgentSettings) (machine : Machine) (vmid : ℤ) (guestType : GuestType) :
    Except Declined GuestType :=
  match refuseVmid settings vmid with
  | some detail => invalid detail
  | none =>
    match findGuest machine vmid with
    | none => .error (.raised (.failure (.notFound
        s!"No VM or container with id {vmid} exists on this host")))
    | some found =>
      if found ≠ guestType then
        invalid s!"Guest {vmid} is a {guestTypeValue found}, not a {guestTypeValue guestType}"
      else .ok found

/-- Why a storage cannot be used, if it cannot. -/
def refuseStorage (settings : AgentSettings) (machine : Machine) (allowed : List String)
    (storage : String) : Option String :=
  if storage = "" ∨ blank storage then some "Storage identifier must not be empty"
  else if !storage.toList.all fun char => machine.isalnum char || char ∈ ['.', '_', '-'] then
    some s!"Storage identifier '{storage}' contains illegal characters"
  else if storage.toList.head? = some '-' then some "Storage identifier must not start with '-'"
  else if allowed ≠ [] ∧ storage ∉ allowed then
    some s!"Storage '{storage}' is not in this agent's allow-list"
  else if settings.verifyStorageWithPvesm ∧ storage ∉ machine.storages then
    let sorted := machine.storages.dedup.insertionSort (· ≤ ·)
    let known := if sorted = [] then "none" else String.intercalate ", " sorted
    some s!"Storage '{storage}' is not configured on this host (known: {known})"
  else none

/-- The status in the output of a command. -/
def parseStatusOutput (output : String) : String :=
  let status := (splitlines output.toList).findSome? fun line =>
    let stripped := trim isSpace line
    if "status:".toList.isPrefixOf stripped then
      some (String.ofList (trim isSpace (stripped.drop 7)))
    else none
  status.getD "unknown"

/-- The status of a guest. -/
def guestStatus (machine : Machine) (vmid : ℤ) : String :=
  let (exitCode, output) := machine.status vmid
  if exitCode ≠ 0 then "unknown" else parseStatusOutput output

/-! ## Backups -/

/-- What vzdump is asked for. -/
structure VzdumpCommand where
  vmid : ℤ
  mode : BackupMode
  compression : Compression
  storage : String
  zstdThreads : Option ℕ
  bwlimitKbps : Option ℕ
  tmpdir : Option String

/-- The words for an option, if it has a value. -/
def optional (name : String) (value : Option String) : List String :=
  value.elim [] fun value => [name, value]

/-- A limit, unless it is none. -/
def limit (kbps : Option ℕ) : Option ℕ := kbps.filter (· ≠ 0)

/-- The command that backs a guest up. -/
def VzdumpCommand.build (command : VzdumpCommand) (vzdumpBin : String) : List String :=
  [vzdumpBin, s!"{command.vmid}", "--mode", command.mode.value, "--compress",
    command.compression.vzdumpValue, "--storage", command.storage] ++
  (if command.compression = .zstd then
    optional "--zstd" (command.zstdThreads.map toString)
  else []) ++
  optional "--bwlimit" ((limit command.bwlimitKbps).map toString) ++
  optional "--tmpdir" command.tmpdir

/-- What a backup is requested with. -/
structure BackupStartRequest where
  vmid : ℤ
  guestType : GuestType
  mode : BackupMode
  compression : Compression
  zstdThreads : Option ℕ
  storage : String
  bwlimitKbps : ℕ

/-- The command of a backup that is accepted. -/
def startBackup (settings : AgentSettings) (machine : Machine) (request : BackupStartRequest) :
    Except Declined (List String) := do
  let _ ← requireGuest settings machine request.vmid request.guestType
  let storage ← accepting
    (refuseStorage settings machine settings.allowedBackupStorages request.storage) request.storage
  if !machine.slotFree then
    .error (.concurrencyConflict (s!"A backup is already running (capacity " ++
      s!"{settings.maxConcurrentBackups}). Retry when it finishes."))
  else
    let command : VzdumpCommand := {
      vmid := request.vmid
      mode := request.mode
      compression := request.compression
      storage
      zstdThreads := request.zstdThreads
      bwlimitKbps := limit (some request.bwlimitKbps)
      tmpdir := some settings.tempDir }
    .ok (command.build settings.vzdumpBin)

/-! ## Restores -/

/-- What a restore command is asked for. -/
structure RestoreCommand where
  archivePath : String
  targetVmid : ℤ
  storage : String
  overwrite : Bool
  bwlimitKbps : Option ℕ
  /-- For containers only. -/
  unprivileged : Option Bool

/-- The command that restores a machine. -/
def RestoreCommand.buildVm (command : RestoreCommand) (qmrestoreBin : String) : List String :=
  [qmrestoreBin, command.archivePath, s!"{command.targetVmid}", "--storage", command.storage] ++
  (if command.overwrite then ["--force", "1"] else []) ++
  optional "--bwlimit" ((limit command.bwlimitKbps).map toString)

/-- The command that restores a container. -/
def RestoreCommand.buildLxc (command : RestoreCommand) (pctBin : String) : List String :=
  [pctBin, "restore", s!"{command.targetVmid}", command.archivePath, "--storage",
    command.storage] ++
  (if command.overwrite then ["--force", "1"] else []) ++
  optional "--bwlimit" ((limit command.bwlimitKbps).map toString) ++
  optional "--unprivileged" (command.unprivileged.map fun yes => if yes then "1" else "0")

/-- What a restore is requested with; a virtual machine is never asked to be unprivileged. -/
structure RestoreRequest where
  archive : String
  targetVmid : ℤ
  storage : String
  overwrite : Bool
  forceStop : Bool
  startAfter : Bool
  bwlimitKbps : ℕ
  expectedSha256 : Option String
  unprivileged : Option Bool

/-- What is executed for a restore. -/
structure RestorePlan where
  argv : List String
  stopFirst : Bool
  startAfter : Bool

/-- Why a guest that is there cannot be replaced, if it cannot. -/
def declineReplacing (machine : Machine) (request : RestoreRequest)
    (guestType existing : GuestType) : Option Declined :=
  if !request.overwrite then
    some (.raised (.failure (.validationFailed
      (s!"VMID {request.targetVmid} already exists as a {guestTypeValue existing}. " ++
        "Set overwrite to replace it."))))
  else if existing ≠ guestType then
    some (.raised (.failure (.validationFailed
      (s!"VMID {request.targetVmid} is a {guestTypeValue existing}; " ++
        s!"it cannot be replaced by a {guestTypeValue guestType} restore"))))
  else if guestStatus machine request.targetVmid = "running" ∧ !request.forceStop then
    some (.guestLocked (s!"Guest {request.targetVmid} is running. " ++
      "Set force_stop to shut it down before restoring."))
  else none

/-- The digest of an archive: the one beside it where it may be used, else that of its content. -/
def computeSha256 (machine : Machine) (path : String) : Except PyError String :=
  match readCached .sha256 (machine.archive path) (machine.sidecar path) with
  | .hit digest => .ok digest
  | .garbled => .error .valueError
  | .miss =>
    match machine.archive path with
    | some archive => .ok (machine.hashes.digest .sha256 archive.content)
    | none => .error .osError

/-- The digest of an archive has to be the expected one, if one is expected. -/
def verifyDigest (machine : Machine) (path : String) : Option String → Except Declined Unit
  | none | some "" => .ok ()
  | some expected => do
    let actual ← (computeSha256 machine path).mapError fun error => .raised (.error error)
    if lower actual ≠ lower expected then
      invalid ("Archive digest does not match the expected value; refusing to restore. " ++
        s!"expected={String.ofList (expected.toList.take 16)}… " ++
        s!"actual={String.ofList (actual.toList.take 16)}…")
    else .ok ()

/-- What is executed for a restore that is accepted. -/
def restore (settings : AgentSettings) (machine : Machine) (guestType : GuestType)
    (request : RestoreRequest) : Except Declined RestorePlan := do
  let (artifact, archivePath) ← resolveArtifact settings machine request.archive
  if artifact.guestType ≠ guestType then
    invalid (s!"'{request.archive}' is a {guestTypeValue artifact.guestType} backup; " ++
      s!"use the {guestTypeValue artifact.guestType} restore endpoint")
  else
    let storage ← accepting
      (refuseStorage settings machine settings.allowedRestoreStorages request.storage)
      request.storage
    let _ ← accepting (refuseVmid settings request.targetVmid) ()
    let existing := findGuest machine request.targetVmid
    match existing.bind (declineReplacing machine request guestType) with
    | some declined => .error declined
    | none =>
      verifyDigest machine archivePath request.expectedSha256
      if !machine.slotFree then
        .error (.concurrencyConflict
          "A restore is already running. Restores are serialised for safety.")
      else
        let command : RestoreCommand := {
          archivePath
          targetVmid := request.targetVmid
          storage
          overwrite := request.overwrite
          bwlimitKbps := limit (some request.bwlimitKbps)
          unprivileged := if guestType = .lxc then request.unprivileged else none }
        .ok {
          argv := if guestType = .vm then command.buildVm settings.qmrestoreBin
            else command.buildLxc settings.pctBin
          stopFirst := existing.isSome && request.forceStop
          startAfter := request.startAfter }

/-! ## Transfers -/

/-- The flags of every call of rclone. -/
structure RcloneOptions where
  rcloneBin : String
  configPath : Option String
  transfers : ℕ
  checkers : ℕ
  bwlimitKbps : ℕ
  lowLevelRetries : ℕ
  statsIntervalSeconds : ℕ
  extra : List String

namespace RcloneOptions

/-- What every command of rclone begins with. -/
def baseArgv (options : RcloneOptions) : List String :=
  [options.rcloneBin] ++ optional "--config" options.configPath ++
  ["--retries", "1", "--low-level-retries", s!"{options.lowLevelRetries}"] ++
  (if options.bwlimitKbps ≠ 0 then ["--bwlimit", s!"{options.bwlimitKbps}k"] else []) ++
  options.extra

/-- The options of a transfer. -/
def transferArgv (options : RcloneOptions) : List String :=
  options.baseArgv ++ ["--transfers", s!"{options.transfers}", "--checkers",
    s!"{options.checkers}", "--stats", s!"{options.statsIntervalSeconds}s",
    "--stats-one-line-date", "--stats-log-level", "NOTICE"]

end RcloneOptions

/-- The command that copies a file. -/
def buildCopyArgv (options : RcloneOptions) (source destination : String) : List String :=
  options.transferArgv ++ ["copyto", source, destination]

/-- The command that deletes a file. -/
def buildDeleteArgv (options : RcloneOptions) (target : String) : List String :=
  options.baseArgv ++ ["deletefile", target]

/-- What a transfer is requested with. -/
structure SyncRequest where
  remote : String
  remotePath : String
  filename : String
  bwlimitKbps : ℕ
  transfers : Option ℕ
  /-- Whether a download may replace a file. -/
  overwrite : Bool

/-- The flags of a call for a request. -/
def rcloneOptions (settings : AgentSettings) (bwlimitKbps : ℕ) (transfers : Option ℕ) :
    RcloneOptions where
  rcloneBin := settings.rcloneBin
  configPath := settings.rcloneConfig
  transfers := (limit transfers).getD settings.rcloneTransfers
  checkers := settings.rcloneCheckers
  bwlimitKbps := bwlimitKbps
  lowLevelRetries := settings.rcloneLowLevelRetries
  statsIntervalSeconds := settings.rcloneStatsIntervalSeconds
  extra := []

/-- The remote and the folder of a request, normalised. -/
def remoteOf (settings : AgentSettings) (remote path : String) :
    Except Declined (String × String) := do
  if !settings.syncEnabled then
    invalid "Sync is disabled on this agent (PROXSYNC_AGENT_SYNC_ENABLED=false)"
  else
    let name ← (validateRemoteName settings.allowedRemotes remote).mapError
      fun detail => .raised (.failure (.validationFailed detail))
    let folder ← (validateRemotePath path).mapError
      fun detail => .raised (.failure (.validationFailed detail))
    .ok (name, folder)

/-- A path for an artifact in the dump root. -/
def localArtifact (settings : AgentSettings) (machine : Machine) (filename : String) :
    Except Declined String := do
  let _ ← (parseArtifactName filename).mapError .raised
  resolveWithin machine settings.dumpRoot filename

/-- The slot of a transfer has to be free. -/
def scheduled (settings : AgentSettings) (machine : Machine) (argv : List String) :
    Except Declined (List String) :=
  if !machine.slotFree then
    .error (.concurrencyConflict (s!"A transfer is already running (capacity " ++
      s!"{settings.maxConcurrentSyncs}). Retry when it finishes."))
  else .ok argv

/-- The command of an upload that is accepted. -/
def upload (settings : AgentSettings) (machine : Machine) (request : SyncRequest) :
    Except Declined (List String) := do
  let (remote, folder) ← remoteOf settings request.remote request.remotePath
  let source ← localArtifact settings machine request.filename
  if !machine.isFile source then
    .error (.raised (.failure (.notFound
      s!"Backup '{request.filename}' does not exist on this host")))
  else
    let destination := buildRemoteSpec remote folder request.filename
    scheduled settings machine (buildCopyArgv
      (rcloneOptions settings request.bwlimitKbps request.transfers) source destination)

/-- The command of a download that is accepted. -/
def download (settings : AgentSettings) (machine : Machine) (request : SyncRequest) :
    Except Declined (List String) := do
  let (remote, folder) ← remoteOf settings request.remote request.remotePath
  let destination ← localArtifact settings machine request.filename
  if machine.exists_ destination ∧ !request.overwrite then
    invalid (s!"'{request.filename}' already exists locally. Pass overwrite=true only if " ++
      "you are sure the local copy should be replaced.")
  else
    let source := buildRemoteSpec remote folder request.filename
    scheduled settings machine (buildCopyArgv
      (rcloneOptions settings request.bwlimitKbps request.transfers) source destination)

/-- The command that deletes a file of a remote. -/
def deleteRemoteArgv (settings : AgentSettings) (request : SyncRequest) :
    Except Declined (List String) := do
  let (remote, folder) ← remoteOf settings request.remote request.remotePath
  let _ ← accepting (refuseBasename request.filename) ()
  let _ ← (parseArtifactName request.filename).mapError .raised
  .ok (buildDeleteArgv (rcloneOptions settings 0 none)
    (buildRemoteSpec remote folder request.filename))

end ProxSync.Agent
