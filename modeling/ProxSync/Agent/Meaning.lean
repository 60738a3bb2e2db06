import ProxSync.Agent.Commands
import ProxSync.Lib.CommandLine
import ProxSync.Settings.Remotes
/-!
# What the commands mean

The tools find options among the words of a command and rclone finds remotes in its addresses, so
what a request may say is restricted until its values can only be taken for what they are. A reader
that looks for options anywhere reads each command as its parts, with no option that the request did
not ask for, and rclone reads each address of a transfer as the one file it is about.
-/
open ProxSync.Lib ProxSync.Lib.CommandLine

namespace ProxSync.Agent

/-! ## What a command means -/

/-- The options of vzdump that the agent uses. -/
def vzdump : Tool := ⟨[], ["--mode", "--compress", "--storage", "--zstd", "--bwlimit", "--tmpdir"]⟩

/-- The options of qmrestore and of pct that the agent uses. -/
def restorer : Tool := ⟨[], ["--storage", "--force", "--bwlimit", "--unprivileged"]⟩

/-- The options of rclone that the agent uses. -/
def rclone : Tool :=
  ⟨["--stats-one-line-date", "--hash", "--json"],
    ["--config", "--retries", "--low-level-retries", "--bwlimit", "--transfers", "--checkers",
      "--stats", "--stats-log-level"]⟩

/-- A command that a reader that looks for options anywhere reads as some parts, with no option
given twice. -/
structure Means (tool : Tool) (program : String) (argv : List String) (parts : List Part) :
    Prop where
  program : argv.head? = some program
  reads : read tool argv.tail = some parts
  once : (CommandLine.names parts).Nodup

/-- The bandwidth limit of a request, unless it is none. -/
def bandwidth (kbps : ℕ) : Option String := if kbps = 0 then none else some (toString kbps)

/-- What a backup asks of vzdump. -/
def BackupStartRequest.asks (settings : AgentSettings) (request : BackupStartRequest) : List Part :=
  [.word s!"{request.vmid}", .option "--mode" request.mode.value,
    .option "--compress" request.compression.vzdumpValue, .option "--storage" request.storage] ++
  given "--zstd" (if request.compression = .zstd then request.zstdThreads.map toString else none) ++
  given "--bwlimit" (bandwidth request.bwlimitKbps) ++
  [.option "--tmpdir" settings.tempDir]

/-- What a restore of an archive asks of its tool. -/
def RestoreRequest.asks (request : RestoreRequest) (guestType : GuestType) (path : String) :
    List Part :=
  (if guestType = .vm then [.word path, .word s!"{request.targetVmid}"]
    else [.word "restore", .word s!"{request.targetVmid}", .word path]) ++
  [.option "--storage" request.storage] ++
  given "--force" (if request.overwrite then some "1" else none) ++
  given "--bwlimit" (bandwidth request.bwlimitKbps) ++
  given "--unprivileged" (if guestType = .lxc then
    request.unprivileged.map fun yes => if yes then "1" else "0" else none)

/-- What every call of rclone for a request is told, in front of its subcommand. -/
def globalParts (settings : AgentSettings) (bwlimitKbps : ℕ) : List Part :=
  given "--config" settings.rcloneConfig ++
  [.option "--retries" "1",
    .option "--low-level-retries" s!"{settings.rcloneLowLevelRetries}"] ++
  given "--bwlimit" (if bwlimitKbps = 0 then none else some s!"{bwlimitKbps}k")

/-- What a transfer asks of rclone. -/
def SyncRequest.asks (settings : AgentSettings) (request : SyncRequest)
    (source destination : String) : List Part :=
  globalParts settings request.bwlimitKbps ++
  [.option "--transfers" s!"{(limit request.transfers).getD settings.rcloneTransfers}",
    .option "--checkers" s!"{settings.rcloneCheckers}",
    .option "--stats" s!"{settings.rcloneStatsIntervalSeconds}s", .flag "--stats-one-line-date",
    .option "--stats-log-level" "NOTICE",
    .word "copyto", .word source, .word destination]

/-- What an address is to rclone. -/
inductive Address
  | onHost (path : List Char)
  | onRemote (remote path : List Char)
  deriving DecidableEq, Repr

/-- How rclone reads addresses, as far as it says: an absolute path is one of the host, and what
follows the name of a remote and a colon is a path on the remote. -/
structure AddressReader where
  read : List Char → Address
  read_path : ∀ path, path.head? = some '/' → read path = .onHost path
  read_remote : ∀ remote path, isRemoteName remote = true →
    read (remote ++ ':' :: path) = .onRemote remote path

/-- A file of the dump root that is named like an artifact. -/
structure LocalFile (reader : AddressReader) (settings : AgentSettings) (machine : Machine)
    (filename path : String) : Prop where
  address : reader.read path.toList = .onHost path.toList
  inside : isRelativeTo path (machine.resolve settings.dumpRoot) = true
  below : path ≠ machine.resolve settings.dumpRoot
  flat : refuseBasename filename = none
  named : ∃ artifact, parseArtifactName filename = .ok artifact

/-- A file on a remote that the agent may use, in a folder that leads nowhere else. -/
structure RemoteFile (reader : AddressReader) (settings : AgentSettings) (filename spec : String) :
    Prop where
  address : ∃ remote folder, reader.read spec.toList =
      .onRemote remote (folder ++ filename.toList) ∧
    (settings.allowedRemotes = [] ∨ .ofList remote ∈ settings.allowedRemotes) ∧
    (folder = [] ∨ ∃ path, folder = path ++ ['/'] ∧ Settings.Clean path)
  flat : refuseBasename filename = none
  named : ∃ artifact, parseArtifactName filename = .ok artifact

/-! ## Words that begin with no dash -/

section Plain

/-- A natural number is not taken for an option. -/
theorem dashed_nat (number : ℕ) : dashed (toString number) = false := by
  unfold dashed
  rw [Nat.toString_eq_ofList_toDigits, String.toList_ofList]
  have digits : ∀ char ∈ Nat.toDigits 10 number, asciiDigit char = true :=
    fun _ => asciiDigit_of_mem_toDigits
  cases shape : Nat.toDigits 10 number with
  | nil => rfl
  | cons first rest =>
    have digit := digits first (shape ▸ List.mem_cons_self)
    rw [List.head?_cons, beq_eq_false_iff_ne]
    intro dash
    obtain rfl := Option.some.inj dash
    cases digit

/-- A number that is not negative is not taken for an option. -/
theorem dashed_number {number : ℤ} (positive : 0 ≤ number) : dashed s!"{number}" = false := by
  obtain ⟨natural, rfl⟩ := Int.eq_ofNat_of_zero_le positive
  exact dashed_nat natural

/-- A text that goes on after a number begins with no dash. -/
theorem dashed_suffixed (number : ℕ) (unit : String) :
    dashed (toString number ++ unit) = false := by
  have plain := dashed_nat number
  unfold dashed at *
  have some_ : (toString number).toList ≠ [] := by
    rw [Nat.toString_eq_ofList_toDigits, String.toList_ofList]
    exact Nat.toDigits_ne_nil
  rw [String.toList_append, List.head?_append_of_ne_nil _ some_]
  exact plain

/-- The bandwidth is not taken for an option. -/
theorem dashed_bandwidth (kbps : ℕ) : ∀ text ∈ bandwidth kbps, dashed text = false := by
  intro text inside
  unfold bandwidth at inside
  split at inside
  · cases inside
  · obtain rfl := Option.some.inj inside
    exact dashed_nat _

/-- An absolute path begins with no dash. -/
theorem dashed_path {path : String} (absolute : path.toList.head? = some '/') :
    dashed path = false := by
  unfold dashed
  rw [absolute]
  rfl

/-- The name of a mode is not taken for an option. -/
theorem dashed_mode (mode : BackupMode) : dashed mode.value = false := by
  cases mode <;> decide

/-- The name of a compression is not taken for an option. -/
theorem dashed_vzdumpValue (compression : Compression) :
    dashed compression.vzdumpValue = false := by
  cases compression <;> decide

end Plain

/-! ## Backups and restores -/

section Guests

variable {settings : AgentSettings} {machine : Machine} {argv : List String} {tool : Tool}
  {program : String} {parts : List Part}

/-- A command that is written from sound parts, with its options in an order, means those parts. -/
theorem means_of {order : List String} (same : argv = program :: written parts)
    (sound : ∀ part ∈ parts, part.Sound tool) (ordered : (CommandLine.names parts).Sublist order)
    (distinct : order.Nodup) : Means tool program argv parts := by
  subst same
  exact ⟨rfl, read_written sound, List.Nodup.sublist ordered distinct⟩

/-- What is not refused is accepted as it is. -/
theorem accepting_eq_ok {α : Type} {refused : Option String} {value result : α} :
    accepting refused value = .ok result ↔ refused = none ∧ value = result := by
  cases refused <;> simp [accepting, invalid]

/-- A value that is given is written after its name, and one that is not is left out. -/
theorem written_given (name : String) (value : Option String) :
    written (given name value) = optional name value := by
  cases value <;> rfl

/-- A limit of a request is given unless it is none. -/
theorem limit_limit (kbps : ℕ) : (limit (limit (some kbps))).map toString = bandwidth kbps := by
  by_cases none_ : kbps = 0 <;> simp [limit, bandwidth, none_]

/-- The number of a guest that is not refused is within the bounds and the allow-list. -/
theorem refuseVmid_eq_none {vmid : ℤ} : refuseVmid settings vmid = none ↔
    (100 ≤ vmid ∧ vmid ≤ 999999999) ∧
      (settings.allowedVmids = [] ∨ vmid ∈ settings.allowedVmids) := by
  unfold refuseVmid
  by_cases bounds : 100 ≤ vmid ∧ vmid ≤ 999999999
  · by_cases listed : settings.allowedVmids ≠ [] ∧ vmid ∉ settings.allowedVmids
    · simp [bounds, listed]
    · rw [if_neg (not_not.mpr bounds), if_neg listed]
      simp only [true_iff]
      refine ⟨bounds, ?_⟩
      by_contra neither
      exact listed (not_or.mp neither)
  · simp [bounds]

/-- A storage that is not refused is in the allow-list, is known, and begins with no dash. -/
theorem refuseStorage_eq_none {allowed : List String} {storage : String}
    (accepted : refuseStorage settings machine allowed storage = none) :
    dashed storage = false ∧ (allowed = [] ∨ storage ∈ allowed) ∧
      (settings.verifyStorageWithPvesm = true → storage ∈ machine.storages) := by
  unfold refuseStorage at accepted
  dsimp only at accepted
  split at accepted
  · cases accepted
  split at accepted
  · cases accepted
  split at accepted
  · cases accepted
  split at accepted
  · cases accepted
  split at accepted
  · cases accepted
  rename_i dash listed known
  refine ⟨?_, ?_, ?_⟩
  · rw [dashed, beq_eq_false_iff_ne]
    exact dash
  · by_contra neither
    exact listed (not_or.mp neither)
  · intro verifies
    by_contra missing
    exact known ⟨verifies, missing⟩

/-- A guest that is required is there, is of its type, and may be touched. -/
theorem requireGuest_eq_ok {vmid : ℤ} {guestType found : GuestType}
    (required : requireGuest settings machine vmid guestType = .ok found) :
    findGuest machine vmid = some guestType ∧ refuseVmid settings vmid = none := by
  unfold requireGuest at required
  split at required
  · cases required
  · rename_i allowed
    split at required
    · cases required
    · rename_i existing there
      split at required
      · cases required
      · rename_i same
        exact ⟨not_not.mp same ▸ there, allowed⟩

/-- What a backup asks can be read in one way only. -/
theorem sound_asks (settings : AgentSettings) (request : BackupStartRequest)
    (vmid : 0 ≤ request.vmid) (storage : dashed request.storage = false)
    (tempDir : settings.tempDir.toList.head? = some '/') :
    ∀ part ∈ request.asks settings, part.Sound vzdump := by
  have zstd : ∀ text ∈ (if request.compression = .zstd then
      request.zstdThreads.map toString else none), dashed text = false := by
    intro text inside
    split at inside
    · obtain ⟨threads, _, rfl⟩ := Option.map_eq_some_iff.mp inside
      exact dashed_nat threads
    · cases inside
  simp only [BackupStartRequest.asks, List.forall_mem_append, List.forall_mem_cons,
    List.not_mem_nil, false_implies, implies_true, and_true]
  refine ⟨⟨⟨⟨?_, ?_, ?_, ?_⟩, ?_⟩, ?_⟩, ?_⟩
  · exact dashed_number vmid
  · exact ⟨by decide, by decide, by decide, dashed_mode _⟩
  · exact ⟨by decide, by decide, by decide, dashed_vzdumpValue _⟩
  · exact ⟨by decide, by decide, by decide, storage⟩
  · exact sound_given (by decide) (by decide) (by decide) zstd
  · exact sound_given (by decide) (by decide) (by decide) (dashed_bandwidth _)
  · exact ⟨by decide, by decide, by decide, dashed_path tempDir⟩

/-- A backup that is accepted runs vzdump on the guest it names, which is there and of its type, and
a reader that looks for options anywhere finds exactly those that the request stands for. -/
theorem backup_means {request : BackupStartRequest}
    (tempDir : settings.tempDir.toList.head? = some '/')
    (accepted : startBackup settings machine request = .ok argv) :
    Means vzdump settings.vzdumpBin argv (request.asks settings) ∧
      findGuest machine request.vmid = some request.guestType ∧
      (settings.allowedBackupStorages = [] ∨ request.storage ∈ settings.allowedBackupStorages) := by
  unfold startBackup at accepted
  obtain ⟨found, required, accepted⟩ := bind_eq_ok.mp accepted
  obtain ⟨storage, usable, accepted⟩ := bind_eq_ok.mp accepted
  obtain ⟨there, allowed⟩ := requireGuest_eq_ok required
  obtain ⟨unrefused, rfl⟩ := accepting_eq_ok.mp usable
  obtain ⟨dash, listed, _⟩ := refuseStorage_eq_none unrefused
  have bounds := (refuseVmid_eq_none.mp allowed).1.1
  split at accepted
  · cases accepted
  · have built := (Except.ok.inj accepted).symm
    refine ⟨?_, there, listed⟩
    apply means_of
    · rw [built]
      simp only [VzdumpCommand.build, BackupStartRequest.asks, limit_limit, written_append,
        written_given]
      by_cases zstd : request.compression = .zstd
      · simp [zstd, written, Part.written, optional]
      · simp [zstd, written, Part.written, optional]
    · exact sound_asks settings request (by omega) dash tempDir
    · simp only [BackupStartRequest.asks, names_append]
      exact ((List.Sublist.refl ["--mode", "--compress", "--storage"]).append
        (names_given "--zstd" _)).append (names_given "--bwlimit" _) |>.append
        (List.Sublist.refl ["--tmpdir"])
    · decide

/-- A name that is resolved stays in its directory. -/
theorem resolveWithin_eq_ok {root name path : String}
    (resolved : resolveWithin machine root name = .ok path) :
    refuseBasename name = none ∧ path ≠ machine.resolve root ∧
      isRelativeTo path (machine.resolve root) = true ∧ path.toList.head? = some '/' := by
  unfold resolveWithin at resolved
  split at resolved
  · cases resolved
  · rename_i flat
    dsimp only at resolved
    split at resolved
    · cases resolved
    · rename_i within
      obtain rfl := Except.ok.inj resolved
      obtain ⟨below, inside⟩ := not_or.mp within
      exact ⟨flat, below, by simpa using inside, machine.absolute _⟩

/-- An artifact that is resolved is a file in the dump root with the name of an artifact. -/
theorem resolveArtifact_eq_ok {filename path : String} {artifact : ArtifactName}
    (resolved : resolveArtifact settings machine filename = .ok (artifact, path)) :
    parseArtifactName filename = .ok artifact ∧
      resolveWithin machine settings.dumpRoot filename = .ok path ∧ machine.isFile path = true := by
  unfold resolveArtifact at resolved
  obtain ⟨parsed, named, resolved⟩ := bind_eq_ok.mp resolved
  obtain ⟨found, within, resolved⟩ := bind_eq_ok.mp resolved
  split at resolved
  · cases resolved
  · rename_i file
    cases resolved
    refine ⟨?_, within, by simpa using file⟩
    cases shape : parseArtifactName filename with
    | error raised => simp [shape, Except.mapError] at named
    | ok other => simpa [shape, Except.mapError] using named

/-- An error that is wrapped is still an error. -/
theorem mapError_eq_ok {ε α : Type} {answer : Except ε α} {wrap : ε → Declined} {value : α} :
    answer.mapError wrap = .ok value ↔ answer = .ok value := by
  cases answer <;> simp [Except.mapError]

/-- An archive with the digest beside it that may be used, or else with its own digest. -/
def Digested (machine : Machine) (path digest : String) : Prop :=
  ∃ archive, machine.archive path = some archive ∧
    (readCached .sha256 (some archive) (machine.sidecar path) = .hit digest ∨
      readCached .sha256 (some archive) (machine.sidecar path) = .miss ∧
        machine.hashes.digest .sha256 archive.content = digest)

/-- A digest is recorded in lower case. -/
theorem lower_of_hit {archive : Option Archive} {sidecar : Option Sidecar} {digest : String}
    (found : readCached .sha256 archive sidecar = .hit digest) : lower digest = digest := by
  unfold readCached at found
  split at found
  · split at found
    · cases found
    split at found
    · cases found
    · rename_i text _
      cases read : recorded .sha256 text with
      | none =>
        rw [read] at found
        cases found
      | some other =>
        rw [read] at found
        obtain rfl := Cached.hit.inj found
        unfold recorded at read
        dsimp only at read
        split at read
        · rename_i formed
          obtain rfl := Option.some.inj read
          have same : (lower (firstWord text)).toList.map Char.toLower =
              (lower (firstWord text)).toList := by
            apply (List.map_congr_left _).trans (List.map_id _)
            exact fun char inside => (isHex_plain (List.all_eq_true.mp formed.2 char inside)).1
          rw [lower, same, String.ofList_toList]
        · cases read
  · cases found

/-- What is computed for an archive is the digest beside it, or else its own. -/
theorem computeSha256_eq_ok {path digest : String}
    (computed : computeSha256 machine path = .ok digest) :
    Digested machine path digest ∧ lower digest = digest := by
  unfold computeSha256 at computed
  split at computed
  · rename_i found
    obtain rfl := Except.ok.inj computed
    cases there : machine.archive path with
    | none =>
      rw [there, readCached_none] at found
      cases found
    | some archive =>
      have lowered := lower_of_hit found
      rw [there] at found
      exact ⟨⟨archive, there, .inl found⟩, lowered⟩
  · cases computed
  · rename_i missed
    split at computed
    · rename_i archive there
      obtain rfl := Except.ok.inj computed
      rw [there] at missed
      exact ⟨⟨archive, there, .inr ⟨missed, rfl⟩⟩, machine.hashes.lower_digest _ _⟩
    · cases computed

/-- The digest of an archive that is verified is the expected one. -/
theorem verifyDigest_eq_ok {path expected : String} (some_ : expected ≠ "")
    (accepted : verifyDigest machine path (some expected) = .ok ()) :
    Digested machine path (lower expected) := by
  unfold verifyDigest at accepted
  split at accepted
  · rename_i none_
    cases none_
  · rename_i empty
    exact absurd (Option.some.inj empty) some_
  · rename_i text _ shape
    obtain rfl := Option.some.inj shape
    obtain ⟨actual, computed, accepted⟩ := bind_eq_ok.mp accepted
    obtain ⟨digested, lowered⟩ := computeSha256_eq_ok (mapError_eq_ok.mp computed)
    split at accepted
    · cases accepted
    · rename_i same
      rw [← not_not.mp same, lowered]
      exact digested

/-- A guest that is replaced is of the type of the archive, is meant to be replaced, and does not
run unless it may be stopped. -/
theorem declineReplacing_eq_none {request : RestoreRequest} {guestType existing : GuestType}
    (accepted : declineReplacing machine request guestType existing = none) :
    request.overwrite = true ∧ existing = guestType ∧
      (guestStatus machine request.targetVmid = "running" → request.forceStop = true) := by
  unfold declineReplacing at accepted
  split at accepted
  · cases accepted
  split at accepted
  · cases accepted
  split at accepted
  · cases accepted
  rename_i overwrite same stoppable
  refine ⟨by simpa using overwrite, not_not.mp same, fun running => ?_⟩
  by_contra kept
  exact stoppable ⟨running, by simpa using kept⟩

/-- What a restore asks can be read in one way only. -/
theorem sound_restore_asks {request : RestoreRequest} {guestType : GuestType} {path : String}
    (vmid : 0 ≤ request.targetVmid) (storage : dashed request.storage = false)
    (absolute : path.toList.head? = some '/') :
    ∀ part ∈ request.asks guestType path, part.Sound restorer := by
  have plain := dashed_path absolute
  have number := dashed_number vmid
  have targets : ∀ part ∈ (if guestType = .vm then [Part.word path, .word s!"{request.targetVmid}"]
      else [.word "restore", .word s!"{request.targetVmid}", .word path]),
      part.Sound restorer := by
    have named : dashed "restore" = false := by decide
    intro part inside
    split at inside
    · rcases List.mem_pair.mp inside with rfl | rfl
      · exact plain
      · exact number
    · rcases List.mem_cons.mp inside with rfl | rest
      · exact named
      · rcases List.mem_pair.mp rest with rfl | rfl
        · exact number
        · exact plain
  have force : ∀ text ∈ (if request.overwrite then some "1" else none), dashed text = false := by
    intro text inside
    split at inside
    · obtain rfl := Option.some.inj inside
      decide
    · cases inside
  have unprivileged : ∀ text ∈ (if guestType = .lxc then
      request.unprivileged.map (fun yes => if yes then "1" else "0") else none),
      dashed text = false := by
    intro text inside
    split at inside
    · obtain ⟨yes, _, rfl⟩ := Option.map_eq_some_iff.mp inside
      cases yes <;> decide
    · cases inside
  simp only [RestoreRequest.asks, List.forall_mem_append, List.forall_mem_cons, List.not_mem_nil,
    false_implies, implies_true, and_true]
  refine ⟨⟨⟨⟨targets, ?_⟩, ?_⟩, ?_⟩, ?_⟩
  · exact ⟨by decide, by decide, by decide, storage⟩
  · exact sound_given (by decide) (by decide) (by decide) force
  · exact sound_given (by decide) (by decide) (by decide) (dashed_bandwidth _)
  · exact sound_given (by decide) (by decide) (by decide) unprivileged

/-- The command of a restore is written from what the restore asks. -/
theorem built_restore {request : RestoreRequest} {guestType : GuestType} {path : String}
    {plan : RestorePlan} {stopFirst : Bool}
    (built : plan = {
      argv :=
        let command : RestoreCommand := ⟨path, request.targetVmid, request.storage,
          request.overwrite, limit (some request.bwlimitKbps),
          if guestType = .lxc then request.unprivileged else none⟩
        if guestType = .vm then command.buildVm settings.qmrestoreBin
          else command.buildLxc settings.pctBin
      stopFirst
      startAfter := request.startAfter }) :
    plan.argv = (if guestType = .vm then settings.qmrestoreBin else settings.pctBin) ::
      written (request.asks guestType path) := by
  rw [built]
  have forced : written (given "--force" (if request.overwrite then some "1" else none)) =
      if request.overwrite then ["--force", "1"] else [] := by
    cases request.overwrite <;> rfl
  cases guestType with
  | vm =>
    simp only [RestoreCommand.buildVm, RestoreRequest.asks, written_append, forced, written_given,
      limit_limit]
    simp [written, Part.written, optional]
  | lxc =>
    simp only [RestoreCommand.buildLxc, RestoreRequest.asks, written_append, forced, written_given,
      limit_limit]
    simp [written, Part.written, optional]

/-- The archive of a restore that is accepted. -/
structure RestoredArchive (settings : AgentSettings) (machine : Machine) (request : RestoreRequest)
    (guestType : GuestType) (path : String) : Prop where
  inside : isRelativeTo path (machine.resolve settings.dumpRoot) = true
  file : machine.isFile path = true
  named : ∃ artifact, parseArtifactName request.archive = .ok artifact ∧
    artifact.guestType = guestType
  /-- The expected digest is the one beside the archive where that may be used, whatever the archive
  holds, and the archive's own digest elsewhere. -/
  digest : ∀ expected, request.expectedSha256 = some expected → expected ≠ "" →
    Digested machine path (lower expected)

/-- A restore that is accepted runs the tool of its archive's type on an archive of the dump root,
whose digest in the file beside it, where that is not older, or else whose own digest is the
expected one. A reader that looks for options anywhere finds exactly those that the request stands
for, and a guest that is there is replaced only if it is meant to be, is of that type, and is
stopped before if it runs. -/
theorem restore_means {request : RestoreRequest} {guestType : GuestType} {plan : RestorePlan}
    (accepted : restore settings machine guestType request = .ok plan) :
    ∃ path, RestoredArchive settings machine request guestType path ∧
      Means restorer (if guestType = .vm then settings.qmrestoreBin else settings.pctBin) plan.argv
        (request.asks guestType path) ∧
      (.option "--force" "1" ∈ request.asks guestType path ↔ request.overwrite = true) ∧
      ∀ existing, findGuest machine request.targetVmid = some existing →
        request.overwrite = true ∧ existing = guestType ∧
          (guestStatus machine request.targetVmid = "running" → plan.stopFirst = true) := by
  unfold restore at accepted
  obtain ⟨⟨artifact, path⟩, resolved, accepted⟩ := bind_eq_ok.mp accepted
  obtain ⟨named, within, file⟩ := resolveArtifact_eq_ok resolved
  obtain ⟨-, -, inside, absolute⟩ := resolveWithin_eq_ok within
  dsimp only at accepted
  split at accepted
  · cases accepted
  rename_i same
  obtain ⟨storage, usable, accepted⟩ := bind_eq_ok.mp accepted
  obtain ⟨_, allowed, accepted⟩ := bind_eq_ok.mp accepted
  obtain ⟨unrefused, rfl⟩ := accepting_eq_ok.mp usable
  have bounds := (refuseVmid_eq_none.mp (accepting_eq_ok.mp allowed).1).1.1
  have dash := (refuseStorage_eq_none unrefused).1
  split at accepted
  · cases accepted
  rename_i replaces
  obtain ⟨⟨⟩, digest, accepted⟩ := bind_eq_ok.mp accepted
  split at accepted
  · cases accepted
  have built := (Except.ok.inj accepted).symm
  refine ⟨path, ⟨inside, file, ⟨artifact, named, not_not.mp same⟩, ?_⟩, ?_, ?_, ?_⟩
  · intro expected expects some_
    rw [expects] at digest
    exact verifyDigest_eq_ok some_ digest
  · have order : ["--storage", "--force", "--bwlimit", "--unprivileged"].Nodup := by decide
    apply means_of (built_restore built) (sound_restore_asks (by omega) dash absolute) _ order
    · simp only [RestoreRequest.asks, names_append]
      have targets : CommandLine.names (if guestType = .vm then
          [Part.word path, .word s!"{request.targetVmid}"]
          else [.word "restore", .word s!"{request.targetVmid}", .word path]) = [] := by
        split <;> rfl
      rw [targets, List.nil_append]
      exact (((List.Sublist.refl ["--storage"]).append (names_given "--force" _)).append
        (names_given "--bwlimit" _)).append (names_given "--unprivileged" _)
  · cases guestType <;> simp [RestoreRequest.asks, mem_given]
  · intro existing there
    have declined : declineReplacing machine request guestType existing = none := by
      simpa [there] using replaces
    obtain ⟨overwrite, type_, stoppable⟩ := declineReplacing_eq_none declined
    refine ⟨overwrite, type_, fun running => ?_⟩
    rw [built, there, stoppable running]
    rfl

end Guests

/-! ## Transfers -/

section Remotes

variable {settings : AgentSettings} {machine : Machine} {argv : List String}
  {reader : AddressReader}

/-- The name of a remote begins with no dash, and so does what goes on after it. -/
theorem head_remote {remote : List Char} (named : isRemoteName remote = true) (path : List Char) :
    (remote ++ path).head? ≠ some '-' := by
  cases remote with
  | nil => cases named
  | cons first rest =>
    simp only [isRemoteName, Bool.and_eq_true] at named
    intro dash
    obtain rfl := Option.some.inj dash
    exact absurd named.1.1 (by decide)

/-- The name of a remote that is accepted is well-formed and permitted. -/
theorem validateRemoteName_eq_ok {allowed : List String} {name accepted : String}
    (valid : validateRemoteName allowed name = .ok accepted) :
    isRemoteName accepted.toList = true ∧ (allowed = [] ∨ accepted ∈ allowed) := by
  unfold validateRemoteName at valid
  dsimp only at valid
  split at valid
  · cases valid
  rename_i formed
  split at valid
  · cases valid
  rename_i permitted
  obtain rfl := Except.ok.inj valid
  constructor
  · rw [String.toList_ofList]
    simpa using formed
  · by_contra neither
    exact permitted (not_or.mp neither)

/-- The remote and the folder that are accepted. -/
theorem remoteOf_eq_ok {remote path name folder : String}
    (accepted : remoteOf settings remote path = .ok (name, folder)) :
    isRemoteName name.toList = true ∧
      (settings.allowedRemotes = [] ∨ name ∈ settings.allowedRemotes) ∧
      (folder = "" ∨ Settings.Clean folder.toList) := by
  unfold remoteOf at accepted
  split at accepted
  · cases accepted
  obtain ⟨remote_, named, accepted⟩ := bind_eq_ok.mp accepted
  obtain ⟨folder_, placed, accepted⟩ := bind_eq_ok.mp accepted
  cases accepted
  obtain ⟨formed, permitted⟩ := validateRemoteName_eq_ok (mapError_eq_ok.mp named)
  obtain ⟨-, -, clean, same⟩ := Settings.validateRemotePath_ok_iff.mp (mapError_eq_ok.mp placed)
  refine ⟨formed, permitted, ?_⟩
  rcases clean with empty | clean
  · exact .inl (same.trans (by rw [empty]))
  · exact .inr (by rw [same, String.toList_ofList]; exact clean)

/-- What names a file of a remote in a command. -/
theorem buildRemoteSpec_toList {remote folder filename : String} (some_ : filename ≠ "") :
    (buildRemoteSpec remote folder filename).toList = remote.toList ++ ':' ::
      ((if folder = "" then [] else folder.toList ++ ['/']) ++ filename.toList) := by
  unfold buildRemoteSpec
  have named : (s!"{remote}:").toList = remote.toList ++ [':'] := String.toList_append ..
  rw [String.toList_append, named]
  by_cases empty : folder = ""
  · simp [empty, some_]
  · simp [empty, some_]

/-- A path that is accepted for an artifact is that of a file of the dump root. -/
theorem localFile_of_ok {filename path : String}
    (accepted : localArtifact settings machine filename = .ok path) :
    LocalFile reader settings machine filename path ∧ path.toList.head? = some '/' := by
  unfold localArtifact at accepted
  obtain ⟨artifact, parsed, accepted⟩ := bind_eq_ok.mp accepted
  obtain ⟨flat, below, inside, absolute⟩ := resolveWithin_eq_ok accepted
  exact ⟨⟨reader.read_path _ absolute, inside, below, flat, artifact, mapError_eq_ok.mp parsed⟩,
    absolute⟩

/-- What is written for a remote, a folder and a name that are accepted names that file. -/
theorem remoteFile_of_ok {remote path name folder filename : String}
    (accepted : remoteOf settings remote path = .ok (name, folder))
    (flat : refuseBasename filename = none)
    (named : ∃ artifact, parseArtifactName filename = .ok artifact) :
    RemoteFile reader settings filename (buildRemoteSpec name folder filename) ∧
      dashed (buildRemoteSpec name folder filename) = false := by
  obtain ⟨formed, permitted, clean⟩ := remoteOf_eq_ok accepted
  have some_ : filename ≠ "" := by
    rintro rfl
    simp [refuseBasename] at flat
  have spec := @buildRemoteSpec_toList name folder filename some_
  constructor
  · refine ⟨⟨name.toList, if folder = "" then [] else folder.toList ++ ['/'], ?_, ?_, ?_⟩, flat,
      named⟩
    · rw [spec]
      exact reader.read_remote _ _ formed
    · rw [String.ofList_toList]
      exact permitted
    · rcases clean with empty | clean
      · exact .inl (if_pos empty)
      · by_cases empty : folder = ""
        · exact .inl (if_pos empty)
        · exact .inr ⟨folder.toList, if_neg empty, clean⟩
  · rw [dashed, spec, beq_eq_false_iff_ne]
    exact head_remote formed _

/-- The options in front of a subcommand can be read in one way only. -/
theorem sound_globalParts (bwlimitKbps : ℕ)
    (config : ∀ path ∈ settings.rcloneConfig, path.toList.head? = some '/') :
    ∀ part ∈ globalParts settings bwlimitKbps, part.Sound rclone := by
  have bwlimit : ∀ text ∈ (if bwlimitKbps = 0 then none else some s!"{bwlimitKbps}k"),
      dashed text = false := by
    intro text inside
    split at inside
    · cases inside
    · obtain rfl := Option.some.inj inside
      exact dashed_suffixed bwlimitKbps "k"
  simp only [globalParts, List.forall_mem_append, List.forall_mem_cons, List.not_mem_nil,
    false_implies, implies_true, and_true]
  refine ⟨⟨?_, ?_, ?_⟩, ?_⟩
  · exact sound_given (by decide) (by decide) (by decide) fun path inside =>
      dashed_path (config path inside)
  · exact ⟨by decide, by decide, by decide, by decide⟩
  · exact ⟨by decide, by decide, by decide, dashed_nat _⟩
  · exact sound_given (by decide) (by decide) (by decide) bwlimit

/-- The order of the options of a transfer. -/
def transferOrder : List String :=
  ["--config", "--retries", "--low-level-retries", "--bwlimit", "--transfers", "--checkers",
    "--stats", "--stats-one-line-date", "--stats-log-level"]

/-- The global options are among four, in their order. -/
theorem names_globalParts (bwlimitKbps : ℕ) :
    (CommandLine.names (globalParts settings bwlimitKbps)).Sublist
      ["--config", "--retries", "--low-level-retries", "--bwlimit"] := by
  simp only [globalParts, names_append]
  exact ((names_given "--config" _).append
    (List.Sublist.refl ["--retries", "--low-level-retries"])).append (names_given "--bwlimit" _)

/-- Every command begins with the global options as they are written. -/
theorem base_written (bwlimitKbps : ℕ) (transfers : Option ℕ) :
    (rcloneOptions settings bwlimitKbps transfers).baseArgv =
      settings.rcloneBin :: written (globalParts settings bwlimitKbps) := by
  simp only [RcloneOptions.baseArgv, rcloneOptions, globalParts, written_append, written_given]
  by_cases none_ : bwlimitKbps = 0
  · simp [none_, written, Part.written, optional]
  · simp [none_, written, Part.written, optional]

/-- A copy is read as the copy of its source to its destination. -/
theorem copy_means (request : SyncRequest) {source destination : String}
    (config : ∀ path ∈ settings.rcloneConfig, path.toList.head? = some '/')
    (source_ : dashed source = false) (destination_ : dashed destination = false) :
    Means rclone settings.rcloneBin
      (buildCopyArgv (rcloneOptions settings request.bwlimitKbps request.transfers) source
        destination) (request.asks settings source destination) := by
  have distinct : transferOrder.Nodup := by decide
  apply means_of _ _ _ distinct
  · simp only [buildCopyArgv, RcloneOptions.transferArgv, base_written, SyncRequest.asks,
      written_append]
    simp [written, Part.written, rcloneOptions]
  · have copyto : dashed "copyto" = false := by decide
    have notice : dashed "NOTICE" = false := by decide
    simp only [SyncRequest.asks, List.forall_mem_append, List.forall_mem_cons, List.not_mem_nil,
      false_implies, implies_true, and_true]
    refine ⟨sound_globalParts _ config, ?_, ?_, ?_, ?_, ?_, copyto, source_, destination_⟩
    · exact ⟨by decide, by decide, by decide, dashed_nat _⟩
    · exact ⟨by decide, by decide, by decide, dashed_nat _⟩
    · exact ⟨by decide, by decide, by decide, dashed_suffixed _ "s"⟩
    · exact ⟨by decide, by decide⟩
    · exact ⟨by decide, by decide, by decide, notice⟩
  · simp only [SyncRequest.asks, names_append]
    exact (names_globalParts _).append (List.Sublist.refl ["--transfers", "--checkers",
      "--stats", "--stats-one-line-date", "--stats-log-level"])

/-- A deletion on a remote is read as that of its target. -/
theorem delete_means {target : String}
    (config : ∀ path ∈ settings.rcloneConfig, path.toList.head? = some '/')
    (target_ : dashed target = false) :
    Means rclone settings.rcloneBin (buildDeleteArgv (rcloneOptions settings 0 none) target)
      (globalParts settings 0 ++ [.word "deletefile", .word target]) := by
  have distinct : ["--config", "--retries", "--low-level-retries", "--bwlimit"].Nodup := by decide
  apply means_of _ _ _ distinct
  · simp only [buildDeleteArgv, base_written, written_append]
    simp [written, Part.written]
  · have named : dashed "deletefile" = false := by decide
    simp only [List.forall_mem_append, List.forall_mem_cons, List.not_mem_nil, false_implies,
      implies_true, and_true]
    exact ⟨sound_globalParts 0 config, named, target_⟩
  · rw [names_append]
    have none_ : CommandLine.names [Part.word "deletefile", .word target] = [] := rfl
    rw [none_, List.append_nil]
    exact names_globalParts 0

/-- Whatever a request for a transfer says: the command of an upload copies the named file of the
dump root to a permitted remote, that of a download copies from there to the dump root, where it
replaces a file only if it may, and that of a deletion removes one file of a permitted remote. A
reader that looks for options anywhere finds exactly those of the command, and rclone reads each
address as that file. -/
theorem transfers_mean (reader : AddressReader) (settings : AgentSettings) (machine : Machine)
    (request : SyncRequest)
    (config : ∀ path ∈ settings.rcloneConfig, path.toList.head? = some '/') :
    (∀ argv, upload settings machine request = .ok argv → ∃ source destination,
      Means rclone settings.rcloneBin argv (request.asks settings source destination) ∧
        LocalFile reader settings machine request.filename source ∧ machine.isFile source = true ∧
        RemoteFile reader settings request.filename destination) ∧
    (∀ argv, download settings machine request = .ok argv → ∃ source destination,
      Means rclone settings.rcloneBin argv (request.asks settings source destination) ∧
        RemoteFile reader settings request.filename source ∧
        LocalFile reader settings machine request.filename destination ∧
        (machine.exists_ destination = true → request.overwrite = true)) ∧
    ∀ argv, deleteRemoteArgv settings request = .ok argv → ∃ target,
      Means rclone settings.rcloneBin argv
          (globalParts settings 0 ++ [.word "deletefile", .word target]) ∧
        RemoteFile reader settings request.filename target := by
  refine ⟨fun argv accepted => ?_, fun argv accepted => ?_, fun argv accepted => ?_⟩
  · unfold upload at accepted
    obtain ⟨⟨remote, folder⟩, addressed, accepted⟩ := bind_eq_ok.mp accepted
    obtain ⟨source, found, accepted⟩ := bind_eq_ok.mp accepted
    obtain ⟨file, absolute⟩ := @localFile_of_ok _ _ reader _ _ found
    obtain ⟨target, plain⟩ := @remoteFile_of_ok _ reader _ _ _ _ _ addressed file.flat file.named
    split at accepted
    · cases accepted
    rename_i regular
    unfold scheduled at accepted
    split at accepted
    · cases accepted
    obtain rfl := Except.ok.inj accepted
    exact ⟨source, _, copy_means request config (dashed_path absolute) plain, file,
      by simpa using regular, target⟩
  · unfold download at accepted
    obtain ⟨⟨remote, folder⟩, addressed, accepted⟩ := bind_eq_ok.mp accepted
    obtain ⟨destination, found, accepted⟩ := bind_eq_ok.mp accepted
    obtain ⟨file, absolute⟩ := @localFile_of_ok _ _ reader _ _ found
    obtain ⟨target, plain⟩ := @remoteFile_of_ok _ reader _ _ _ _ _ addressed file.flat file.named
    split at accepted
    · cases accepted
    rename_i replaces
    unfold scheduled at accepted
    split at accepted
    · cases accepted
    obtain rfl := Except.ok.inj accepted
    refine ⟨_, destination, copy_means request config plain (dashed_path absolute), target, file,
      fun there => ?_⟩
    by_contra kept
    exact replaces ⟨there, by simpa using kept⟩
  · unfold deleteRemoteArgv at accepted
    obtain ⟨⟨remote, folder⟩, addressed, accepted⟩ := bind_eq_ok.mp accepted
    obtain ⟨_, flat, accepted⟩ := bind_eq_ok.mp accepted
    obtain ⟨artifact, parsed, accepted⟩ := bind_eq_ok.mp accepted
    obtain ⟨target, plain⟩ := @remoteFile_of_ok _ reader _ _ _ _ _ addressed
      (accepting_eq_ok.mp flat).1 ⟨artifact, mapError_eq_ok.mp parsed⟩
    obtain rfl := Except.ok.inj accepted
    exact ⟨_, delete_means config plain, target⟩

end Remotes

/-! ## Requests that are accepted -/

/-- An agent in its usual places. -/
def usual : AgentSettings where
  dumpRoot := "/mnt/backup-hdd/dump"
  tempDir := "/mnt/backup-hdd/tmp"
  vzdumpBin := "/usr/bin/vzdump"
  qmrestoreBin := "/usr/sbin/qmrestore"
  pctBin := "/usr/sbin/pct"
  rcloneBin := "/usr/bin/rclone"
  rcloneConfig := some "/var/lib/proxsync-agent/rclone.conf"
  syncEnabled := true
  allowedRemotes := ["gdrive"]
  allowedVmids := []
  allowedBackupStorages := ["backup-hdd"]
  allowedRestoreStorages := []
  verifyStorageWithPvesm := true
  rcloneTransfers := 4
  rcloneCheckers := 8
  rcloneLowLevelRetries := 3
  rcloneStatsIntervalSeconds := 5
  maxConcurrentBackups := 1
  maxConcurrentSyncs := 1

/-- A path under the root is absolute. -/
theorem absolute_of_rooted (path : String) :
    (String.ofList ('/' :: path.toList.drop 1)).toList.head? = some '/' := by
  rw [String.toList_ofList]
  rfl

/-- A digest of the letter a in every place. -/
def sameDigest (algorithm : Algorithm) (_ : List UInt8) : String :=
  .ofList (List.replicate algorithm.digestLength 'a')

/-- Hash functions that tell no files apart. -/
def sameHashes : Hashes where
  digest := sameDigest
  length algorithm _ := by
    rw [sameDigest, String.toList_ofList, List.length_replicate]
  hex algorithm _ char inside := by
    rw [sameDigest, String.toList_ofList] at inside
    rw [List.eq_of_mem_replicate inside]
    rfl

/-- A host without symbolic links, with one running virtual machine and a digest beside every file.
-/
def runningHost : Machine where
  resolve path := .ofList ('/' :: path.toList.drop 1)
  absolute := absolute_of_rooted
  isFile _ := true
  exists_ _ := true
  configured vmid guestType := vmid = 101 ∧ guestType = .vm
  status _ := (0, "status: running\n")
  storages := ["local-lvm", "backup-hdd"]
  archive _ := some ⟨[97], 10⟩
  sidecar _ := some ⟨some (.ofList (List.replicate 64 'B') ++ "  archive\n"), 11⟩
  hashes := sameHashes
  isalnum := isAlphanumeric
  slotFree := true

/-- What passes has a value. -/
theorem exists_of_toBool {ε α : Type} {answer : Except ε α} (passed : answer.toBool = true) :
    ∃ value, answer = .ok value := by
  cases answer with
  | error error => cases passed
  | ok value => exact ⟨value, rfl⟩

/-- A backup of the virtual machine. -/
def someBackup : BackupStartRequest :=
  ⟨101, .vm, .snapshot, .zstd, some 0, "backup-hdd", 5000⟩

/-- The command of a backup of the virtual machine. -/
theorem backup_means_some : ∃ argv, startBackup usual runningHost someBackup = .ok argv ∧
    Means vzdump "/usr/bin/vzdump" argv (someBackup.asks usual) := by
  obtain ⟨argv, accepted⟩ := exists_of_toBool
    (show (startBackup usual runningHost someBackup).toBool = true by decide +kernel)
  exact ⟨argv, accepted, (backup_means (by simp [usual]) accepted).1⟩

/-- A restore over the virtual machine, which is stopped before. -/
def someRestore : RestoreRequest where
  archive := "vzdump-qemu-101-2026_07_19-01_00_04.vma.zst"
  targetVmid := 101
  storage := "local-lvm"
  overwrite := true
  forceStop := true
  startAfter := false
  bwlimitKbps := 0
  expectedSha256 := some (.ofList (List.replicate 64 'b'))
  unprivileged := none

/-- The command of a restore that is checked against the digest beside its archive. -/
theorem restore_means_some : ∃ plan path, restore usual runningHost .vm someRestore = .ok plan ∧
    Digested runningHost path (lower (.ofList (List.replicate 64 'b'))) ∧
    Means restorer "/usr/sbin/qmrestore" plan.argv (someRestore.asks .vm path) ∧
      plan.stopFirst = true := by
  obtain ⟨plan, accepted⟩ := exists_of_toBool
    (show (restore usual runningHost .vm someRestore).toBool = true by decide +kernel)
  obtain ⟨path, archive, means, -, replaces⟩ := restore_means accepted
  have running : guestStatus runningHost 101 = "running" := by decide +kernel
  exact ⟨plan, path, accepted, archive.digest _ rfl (by decide), means,
    (replaces .vm (by decide)).2.2 running⟩

/-- The address of a text: what comes before its first colon, unless a slash comes earlier, is the
name of a remote. -/
def readAddress (text : List Char) : Address :=
  let remote := text.takeWhile fun char => char != ':' && char != '/'
  match text.drop remote.length with
  | ':' :: path => .onRemote remote path
  | _ => .onHost text

/-- An absolute path is read as a path of the host. -/
theorem readAddress_path (path : List Char) (absolute : path.head? = some '/') :
    readAddress path = .onHost path := by
  obtain ⟨rest, rfl⟩ := List.head?_eq_some_iff.mp absolute
  simp [readAddress]

/-- What follows the name of a remote and a colon is read as a path on the remote. -/
theorem readAddress_remote (remote path : List Char)
    (named : isRemoteName remote = true) :
    readAddress (remote ++ ':' :: path) = .onRemote remote path := by
  have plain : ∀ char ∈ remote, (char != ':' && char != '/') = true := by
    have letter (char : Char) (formed : (isAlphanumeric char || char == '.' || char == '_' ||
        char == '-') = true) : (char != ':' && char != '/') = true := by
      rw [Bool.and_eq_true, bne_iff_ne, bne_iff_ne]
      constructor <;> rintro rfl <;> cases formed
    cases remote with
    | nil => exact fun _ inside => absurd inside List.not_mem_nil
    | cons first rest =>
      simp only [isRemoteName, Bool.and_eq_true, List.all_eq_true] at named
      intro char inside
      rcases List.mem_cons.mp inside with rfl | later
      · apply letter
        simp [named.1.1]
      · exact letter char (named.2 char later)
  have name : (remote ++ ':' :: path).takeWhile (fun char => char != ':' && char != '/') =
      remote := by
    rw [List.takeWhile_append_of_pos plain]
    simp
  unfold readAddress
  dsimp only
  rw [name, List.drop_left]
  rfl

/-- A reader that takes every colon before the first slash for the end of a name. -/
def colonReader : AddressReader := ⟨readAddress, readAddress_path, readAddress_remote⟩

/-- A download of the archive over the one that is there. -/
def someTransfer : SyncRequest :=
  ⟨"gdrive:", "/proxsync/dump/", "vzdump-qemu-101-2026_07_19-01_00_04.vma.zst", 0, none, true⟩

/-- The command of a download over an archive. -/
theorem transfers_mean_some : ∃ argv source destination,
    download usual runningHost someTransfer = .ok argv ∧
      Means rclone "/usr/bin/rclone" argv (someTransfer.asks usual source destination) ∧
      LocalFile colonReader usual runningHost someTransfer.filename destination := by
  obtain ⟨argv, accepted⟩ := exists_of_toBool
    (show (download usual runningHost someTransfer).toBool = true by decide +kernel)
  have rooted : ∀ path ∈ usual.rcloneConfig, path.toList.head? = some '/' := by simp [usual]
  obtain ⟨source, destination, means, -, file, -⟩ :=
    (transfers_mean colonReader usual runningHost someTransfer rooted).2.1 argv accepted
  exact ⟨argv, source, destination, accepted, means, file⟩

end ProxSync.Agent
