import ProxSync.Lib.System
import ProxSync.Lib.Table
import ProxSync.Agent.Checksum
/-!
# Enforcing digests before a restore

A restore may be told the digest its archive has to have, and a verification compares an archive
with the digest a remote reports of its copy. Both take the digest of the archive, from the file
beside it or by hashing chunk after chunk, and act on it later. Meanwhile backups and downloads
write archives with any modification time, operators write and remove any file, and the agent may
restart; the theorems say when what is restored or reported is still what the digest was taken of.
-/
open ProxSync.Lib

namespace ProxSync.Agent

/-- A file on a remote, with the digest the remote publishes. -/
structure RemoteEntry where
  name : String
  sizeBytes : Int
  isDir : Bool
  md5 : Option String
  deriving DecidableEq, Repr

/-- What a verification finds. -/
inductive VerifyOutcome
  | matching
  | hashMismatch
  | sizeMismatch
  | missingRemote
  | hashUnavailable
  deriving DecidableEq, Repr

/-- The answer of a verification. -/
structure VerifyResult where
  filename : String
  remote : String
  remotePath : String
  outcome : VerifyOutcome
  verified : Bool
  localSizeBytes : Int
  remoteSizeBytes : Option Int
  localMd5 : Option String
  remoteMd5 : Option String
  detail : Option String
  deriving DecidableEq, Repr

/-- The part of an answer that is known before the copies are compared. -/
structure Base where
  remote : String
  remotePath : String
  localSizeBytes : Int
  deriving DecidableEq, Repr

/-- What a job takes a digest for. -/
inductive Purpose
  | restore (expected : Option String)
  /-- The remote has not been listed. -/
  | verify (base : Base)
  | compare (base : Base) (remoteSize : Int) (remoteMd5 : String)
  /-- A backup that has finished. -/
  | record
  deriving DecidableEq, Repr

/-- The digest a purpose takes. -/
def Purpose.algorithm : Purpose → Algorithm
  | .restore _ | .record => .sha256
  | .verify _ | .compare .. => .md5

/-- Whether a purpose takes a digest from the file beside the archive. -/
def Purpose.useCache : Purpose → Bool
  | .record => false
  | _ => true

/-- Where a job is suspended. -/
inductive Stage
  | asked
  /-- The file is about to be opened. -/
  | opening
  /-- Chunks are read, from a file that is no longer in the directory if its content is kept. -/
  | hashing (pinned : Option (List UInt8)) (read : List UInt8)
  | storing (digest : String)
  | taken (digest : String)
  /-- The restore is accepted. -/
  | cleared
  | restoring
  | ended
  deriving DecidableEq, Repr

/-- A request that takes the digest of an archive. -/
structure Job where
  id : Nat
  name : String
  purpose : Purpose
  stage : Stage
  deriving DecidableEq, Repr

/-- What becomes known outside the agent, with the content of the archive at the time. -/
inductive Event
  | commanded (expected : Option String) (content : Option (List UInt8))
  | refused (detail : String)
  | verified (result : VerifyResult) (content : Option (List UInt8))
  deriving DecidableEq, Repr

/-- What the agent is configured with. -/
structure Config where
  hashes : Hashes
  checksumChunkBytes : Nat
  maxConcurrentRestores : Nat
  /-- A chunk has at least one byte. -/
  positive : 0 < checksumChunkBytes

/-- The dump directory, the jobs, the restores in progress and what happened. -/
structure State where
  directory : Directory
  jobs : Table Job.id
  inUse : Nat
  journal : List Event

/-- What may happen next. -/
inductive Action
  | restore (name : String) (expected : Option String)
  | verify (name remote remotePath : String)
  | backup (name : String)
  /-- The digest is needed now. -/
  | take (id : Nat)
  | listed (id : Nat) (entries : List RemoteEntry)
  | openFile (id : Nat)
  | readChunk (id : Nat)
  /-- The digest is written beside the archive, or that fails. -/
  | store (id : Nat) (mtime : Option Int)
  | resume (id : Nat)
  | command (id : Nat)
  /-- A job ends, because it is done or because it fails elsewhere. -/
  | finish (id : Nat)
  | crash
  | download (name : String) (overwrite : Bool) (archive : Archive) (inPlace : Bool)
  /-- A backup or an operator writes an archive. -/
  | write (name : String) (archive : Archive) (inPlace : Bool)
  | remove (name : String)
  | deleteArtifact (name : String)
  /-- An operator writes or removes a file beside an archive. -/
  | plant (algorithm : Algorithm) (name : String) (sidecar : Option Sidecar)

/-! ## Steps -/

/-- The refusal of an archive that has another digest. -/
def digestMismatch (expected digest : String) : String :=
  let head (text : String) : String := .ofList (text.toList.take 16)
  "Archive digest does not match the expected value; refusing to restore. " ++
    s!"expected={head expected}… actual={head digest}…"

/-- The refusal of a restore while others are in progress. -/
def restoreRunning : String :=
  "A restore is already running. Restores are serialised for safety."

/-- The answer for a listing, or the digest that is still to be compared. -/
def matchEntries (name : String) (base : Base) (entries : List RemoteEntry) :
    VerifyResult ⊕ (Int × String) :=
  let result (outcome : VerifyOutcome) (size : Option Int) (detail : String) : VerifyResult :=
    ⟨name, base.remote, base.remotePath, outcome, false, base.localSizeBytes, size, none, none,
      some detail⟩
  match entries.find? fun entry => entry.name == name && !entry.isDir with
  | none =>
    .inl (result .missingRemote none
      s!"'{name}' is not present at {base.remote}:{base.remotePath}")
  | some entry =>
    if entry.sizeBytes ≠ base.localSizeBytes then
      .inl (result .sizeMismatch (some entry.sizeBytes)
        s!"Local file is {base.localSizeBytes} bytes, remote copy is {entry.sizeBytes}")
    else
      match entry.md5 with
      | none =>
        .inl (result .hashUnavailable (some entry.sizeBytes)
          (s!"Sizes agree, but remote '{base.remote}' publishes no MD5 to compare against. " ++
            "The copy is the right length; its contents are unconfirmed."))
      | some md5 => .inr (entry.sizeBytes, md5)

/-- The answer for two copies of one size. -/
def compareDigests (name : String) (base : Base) (remoteSize : Int) (remoteMd5 localMd5 : String) :
    VerifyResult :=
  let agree := lower localMd5 == lower remoteMd5
  ⟨name, base.remote, base.remotePath, if agree then .matching else .hashMismatch, agree,
    base.localSizeBytes, some remoteSize, some localMd5, some remoteMd5,
    if agree then none
    else some "Sizes agree but the MD5 digests differ; the remote copy is corrupt"⟩

/-- Keep reading a file that is replaced or removed. -/
def Stage.pin (content : List UInt8) : Stage → Stage
  | .hashing pinned read => .hashing (some (pinned.getD content)) read
  | stage => stage

/-- A job whose archive is replaced or removed. -/
def Job.pin (name : String) (content : List UInt8) (job : Job) : Job :=
  if job.name = name then { job with stage := job.stage.pin content } else job

/-- Pinning an archive leaves the id of a job. -/
theorem Job.pin_id (name : String) (content : List UInt8) (job : Job) :
    (job.pin name content).id = job.id := by
  unfold Job.pin
  split <;> rfl

namespace State

/-- Move a job to another stage, possibly with what it now takes the digest for. -/
def goto (state : State) (id : Nat) (purpose : Purpose) (stage : Stage) : State :=
  { state with jobs := state.jobs.modify id (fun job => { job with purpose, stage }) fun _ => rfl }

/-- End a job with an event. -/
def conclude (state : State) (job : Job) (event : Event) : State :=
  { state.goto job.id job.purpose .ended with journal := event :: state.journal }

/-- Take up a job on an archive that exists. -/
def accept (state : State) (name : String) (purpose : Archive → Purpose) : Option State :=
  (state.directory.archive name).map fun archive =>
    { state with
      jobs := state.jobs.append (fun id => ⟨id, name, purpose archive, .asked⟩) fun _ => rfl }

/-- Accept a restore if fewer than allowed are in progress. -/
def admitRestore (config : Config) (state : State) (job : Job) : State :=
  if state.inUse < config.maxConcurrentRestores then
    { state.goto job.id job.purpose .cleared with inUse := state.inUse + 1 }
  else state.conclude job (.refused restoreRunning)

/-- Act on a digest. -/
def judge (config : Config) (state : State) (job : Job) (digest : String) : State :=
  match job.purpose with
  | .restore none => state.admitRestore config job
  | .restore (some expected) =>
    if lower digest ≠ lower expected then
      state.conclude job (.refused (digestMismatch expected digest))
    else state.admitRestore config job
  | .compare base remoteSize remoteMd5 =>
    state.conclude job (.verified (compareDigests job.name base remoteSize remoteMd5 digest)
      (state.directory.content job.name))
  | .verify _ | .record => state.goto job.id job.purpose .ended

/-- Use the digest beside the archive, or start to hash it. -/
def computeDigest (config : Config) (state : State) (job : Job) : State :=
  if job.purpose.useCache then
    match state.directory.cached job.purpose.algorithm job.name with
    | .hit digest => state.judge config job digest
    | .miss => state.goto job.id job.purpose .opening
    | .garbled => state.goto job.id job.purpose .ended
  else state.goto job.id job.purpose .opening

/-- Begin to take a digest, if one is needed. -/
def take (config : Config) (state : State) (job : Job) : Option State :=
  match job.purpose, job.stage with
  | .restore none, .asked => some (state.admitRestore config job)
  | .restore (some _), .asked | .record, .asked => some (state.computeDigest config job)
  | _, _ => none

/-- Go on with a verification when the remote has been listed. -/
def listed (config : Config) (state : State) (entries : List RemoteEntry) (job : Job) :
    Option State :=
  match job.purpose, job.stage with
  | .verify base, .asked =>
    match matchEntries job.name base entries with
    | .inl result =>
      some (state.conclude job (.verified result (state.directory.content job.name)))
    | .inr (size, md5) =>
      some (state.computeDigest config { job with purpose := .compare base size md5 })
  | _, _ => none

/-- Open the file, which may be gone. -/
def openFile (state : State) (job : Job) : Option State :=
  if job.stage = .opening then
    let opened := (state.directory.archive job.name).isSome
    some (state.goto job.id job.purpose (if opened then .hashing none [] else .ended))
  else none

/-- Read a chunk, or compute the digest at the end of the file. -/
def readChunk (config : Config) (state : State) (job : Job) : Option State :=
  match job.stage with
  | .hashing pinned read =>
    let source := pinned.getD ((state.directory.content job.name).getD [])
    let chunk := (source.drop read.length).take config.checksumChunkBytes
    some (state.goto job.id job.purpose (if chunk = [] then
      .storing (config.hashes.digest job.purpose.algorithm read)
      else .hashing pinned (read ++ chunk)))
  | _ => none

/-- Write the digest beside the archive; a failure is ignored. -/
def store (state : State) (mtime : Option Int) (job : Job) : Option State :=
  match job.stage with
  | .storing digest =>
    let directory := match mtime with
      | some mtime => state.directory.writeCache job.purpose.algorithm job.name digest mtime
      | none => state.directory
    some { state.goto job.id job.purpose (.taken digest) with directory }
  | _ => none

/-- Act on the digest that was computed. -/
def resume (config : Config) (state : State) (job : Job) : Option State :=
  match job.stage with
  | .taken digest => some (state.judge config job digest)
  | _ => none

/-- Run the restore command. -/
def command (state : State) (job : Job) : Option State :=
  match job.purpose, job.stage with
  | .restore expected, .cleared =>
    some { state.goto job.id job.purpose .restoring with
      journal := .commanded expected (state.directory.content job.name) :: state.journal }
  | _, _ => none

/-- End a job, and a restore that was accepted frees its slot. -/
def finish (state : State) (job : Job) : State :=
  let held := job.stage = .cleared ∨ job.stage = .restoring
  { state.goto job.id job.purpose .ended with inUse := state.inUse - if held then 1 else 0 }

/-- Put an archive in the place of another, or remove it. -/
def replace (state : State) (name : String) (archive : Option Archive) (inPlace : Bool) : State :=
  let old := (state.directory.content name).getD []
  { state with
    directory := state.directory.setArchive name archive
    jobs :=
      if inPlace then state.jobs else state.jobs.map (Job.pin name old) (Job.pin_id name old) }

end State

/-- The effect of one action, or nothing where it cannot happen. -/
def step (config : Config) (state : State) : Action → Option State
  | .restore name expected => state.accept name fun _ => .restore expected
  | .verify name remote remotePath =>
    state.accept name fun archive => .verify ⟨remote, remotePath, archive.content.length⟩
  | .backup name => state.accept name fun _ => .record
  | .take id => (state.jobs.get id).bind (state.take config)
  | .listed id entries => (state.jobs.get id).bind (state.listed config entries)
  | .openFile id => (state.jobs.get id).bind state.openFile
  | .readChunk id => (state.jobs.get id).bind (state.readChunk config)
  | .store id mtime => (state.jobs.get id).bind (state.store mtime)
  | .resume id => (state.jobs.get id).bind (state.resume config)
  | .command id => (state.jobs.get id).bind state.command
  | .finish id => (state.jobs.get id).map state.finish
  | .crash => some { state with jobs := .empty, inUse := 0 }
  | .download name overwrite archive inPlace =>
    if (state.directory.archive name).isSome ∧ ¬overwrite then none
    else some (state.replace name (some archive) inPlace)
  | .write name archive inPlace => some (state.replace name (some archive) inPlace)
  | .remove name => some (state.replace name none false)
  | .deleteArtifact name =>
    (state.directory.archive name).map fun _ =>
      { state.replace name none false with directory := state.directory.delete name }
  | .plant algorithm name sidecar =>
    some { state with directory := state.directory.setSidecar algorithm name sidecar }

/-- The agent of a new installation. -/
def system (config : Config) : System State Action where
  init state := state = ⟨⟨fun _ => none, fun _ _ => none⟩, .empty, 0, []⟩
  step := step config

/-- What an event says of the content it is about: it has the digest that was expected, or that the
remote reports. -/
def Event.Faithful (hashes : Hashes) : Event → Prop
  | .commanded (some expected) content =>
    ∃ bytes, content = some bytes ∧ hashes.digest .sha256 bytes = lower expected
  | .verified result content => result.verified = true →
    ∃ bytes remote, content = some bytes ∧ result.remoteMd5 = some remote ∧
      hashes.digest .md5 bytes = lower remote
  | _ => True

/-- What is restored has the digest that was expected, and what is reported to match has the digest
the remote reports. -/
def Enforced (hashes : Hashes) (state : State) : Prop :=
  ∀ event ∈ state.journal, event.Faithful hashes

/-- Whether a job has begun to take a digest and not yet acted on it. -/
def Job.relies (job : Job) : Bool :=
  match job.stage, job.purpose with
  | .hashing .., _ | .storing _, _ | .taken _, _ | .cleared, .restore (some _) => true
  | _, _ => false

/-- Whether an archive may be changed without changing what a job relies on, and without a digest
beside it passing for that of the new content. -/
def undisturbed (hashes : Hashes) (state : State) (name : String) (archive : Option Archive) :
    Bool :=
  (state.jobs.rows.all fun job => job.name ≠ name || !job.relies ||
    archive.map Archive.content == state.directory.content name) &&
  [Algorithm.sha256, .md5].all fun algorithm =>
    truthful hashes algorithm archive (state.directory.sidecar algorithm name)

/-- Whether an action leaves what was digested, and every digest that would be used, as it is. -/
def honest (hashes : Hashes) (state : State) : Action → Bool
  | .download name _ archive _ | .write name archive _ =>
    undisturbed hashes state name (some archive)
  | .remove name | .deleteArtifact name => undisturbed hashes state name none
  | .plant algorithm name sidecar =>
    truthful hashes algorithm (state.directory.archive name) sidecar
  | _ => true

/-- No archive is changed while a job relies on its digest, and no file beside an archive that is
not older than it records the digest of another content. -/
def Honest (config : Config) (state : State) (action : Action) : Prop :=
  honest config.hashes state action = true

instance (config : Config) (state : State) (action : Action) :
    Decidable (Honest config state action) :=
  inferInstanceAs (Decidable (_ = true))

/-! ## What a job relies on -/

section Jobs

variable {hashes : Hashes} {directory after : Directory} {job : Job}

/-- What a job relies on is so: it reads the archive, or has the digest of the archive. -/
def Job.Sound (hashes : Hashes) (directory : Directory) (job : Job) : Prop :=
  match job.stage with
  | .hashing pinned read =>
    ∃ bytes, directory.content job.name = some bytes ∧ pinned.getD bytes = bytes ∧ read <+: bytes
  | .storing digest | .taken digest =>
    ∃ bytes, directory.content job.name = some bytes ∧
      digest = hashes.digest job.purpose.algorithm bytes
  | .cleared => ∀ expected, job.purpose = .restore (some expected) →
    ∃ bytes, directory.content job.name = some bytes ∧
      hashes.digest .sha256 bytes = lower expected
  | _ => True

/-- A job that relies on nothing is sound. -/
theorem Job.sound_of_idle (idle : job.relies = false) : job.Sound hashes directory := by
  unfold Job.relies at idle
  unfold Job.Sound
  cases staged : job.stage with
  | hashing | storing | taken => rw [staged] at idle; cases idle
  | cleared =>
    intro expected restoring
    rw [staged, restoring] at idle
    cases idle
  | asked | opening | restoring | ended => trivial

/-- A job stays sound while the content of its archive stays. -/
theorem Job.Sound.mono (sound : job.Sound hashes directory)
    (same : after.content job.name = directory.content job.name) : job.Sound hashes after := by
  unfold Job.Sound at sound ⊢
  rw [same]
  exact sound

/-- A job stays sound when its file is replaced by one of the same content. -/
theorem Job.Sound.pin (sound : job.Sound hashes directory) {name : String} {content : List UInt8}
    (same : job.name = name → ∀ bytes, directory.content name = some bytes → content = bytes) :
    (job.pin name content).Sound hashes directory := by
  unfold Job.pin
  by_cases named : job.name = name
  · rw [if_pos named]
    unfold Job.Sound at sound ⊢
    cases staged : job.stage with
    | hashing pinned read =>
      rw [staged] at sound
      obtain ⟨bytes, here, kept, begun⟩ := sound
      have equal := same named bytes (named ▸ here)
      exact ⟨bytes, here, by rw [equal, kept]; rfl, begun⟩
    | asked | opening | storing | taken | cleared | restoring | ended =>
      rw [staged] at sound
      exact sound
  · rw [if_neg named]
    exact sound

/-- Pinning the file of a job does not make it rely on a digest. -/
theorem Job.relies_pin (name : String) (content : List UInt8) :
    (job.pin name content).relies = job.relies := by
  unfold Job.pin
  split
  · unfold Job.relies
    cases job.stage <;> rfl
  · rfl

end Jobs

/-! ## Every step -/

section Steps

variable {config : Config} {state after : State} {job : Job}

/-- What every reached state satisfies while archives and the files beside them are honest. -/
structure Sound (config : Config) (state : State) : Prop where
  directory : state.directory.Honest config.hashes
  jobs : ∀ job ∈ state.jobs, job.Sound config.hashes state.directory
  journal : Enforced config.hashes state

/-- Whether the table holds a job, possibly with another purpose. -/
def State.Holds (state : State) (job : Job) : Prop :=
  ∃ stored ∈ state.jobs, stored.id = job.id ∧ stored.name = job.name

/-- A stored job is held. -/
theorem State.holds_of_mem (stored : job ∈ state.jobs) : state.Holds job :=
  ⟨job, stored, rfl, rfl⟩

/-- A job may move to a stage in which it is sound. -/
theorem Sound.goto (sound : Sound config state) (held : state.Holds job) {stage : Stage}
    (next : Job.Sound config.hashes state.directory { job with stage }) :
    Sound config (state.goto job.id job.purpose stage) := by
  constructor
  · exact sound.directory
  · intro row listed
    obtain ⟨stored, there, named, same⟩ := held
    have keeps (row : Job) : ({ row with purpose := job.purpose, stage } : Job).id = row.id := rfl
    unfold State.goto at listed
    rw [← named] at listed
    rcases (Table.mem_modify_of_mem keeps there).mp listed with rfl | ⟨before, _⟩
    · have image : ({ stored with purpose := job.purpose, stage } : Job) = { job with stage } := by
        rw [named, same]
      rw [image]
      exact next
    · exact sound.jobs row before
  · exact sound.journal

/-- A job may end at any time. -/
theorem Sound.close (sound : Sound config state) (held : state.Holds job) :
    Sound config (state.goto job.id job.purpose .ended) :=
  sound.goto held (Job.sound_of_idle rfl)

/-- A job may end with an event that is true. -/
theorem Sound.conclude (sound : Sound config state) (held : state.Holds job) {event : Event}
    (faithful : event.Faithful config.hashes) : Sound config (state.conclude job event) := by
  have closed := sound.close held
  constructor
  · exact closed.directory
  · exact closed.jobs
  · intro told listed
    rcases List.mem_cons.mp listed with rfl | before
    · exact faithful
    · exact sound.journal told before

/-- A restore may be accepted if its archive has the digest that is expected. -/
theorem Sound.admitRestore (sound : Sound config state) (held : state.Holds job)
    (checked : Job.Sound config.hashes state.directory { job with stage := .cleared }) :
    Sound config (state.admitRestore config job) := by
  unfold State.admitRestore
  split
  · have moved := sound.goto held checked
    exact ⟨moved.directory, moved.jobs, moved.journal⟩
  · exact sound.conclude held trivial

/-- The digest of the archive is acted on soundly. -/
theorem Sound.judge (sound : Sound config state) (held : state.Holds job) {digest : String}
    (taken : Job.Sound config.hashes state.directory { job with stage := .taken digest }) :
    Sound config (state.judge config job digest) := by
  obtain ⟨bytes, here, own⟩ : ∃ bytes, state.directory.content job.name = some bytes ∧
      digest = config.hashes.digest job.purpose.algorithm bytes := taken
  subst own
  have lowered := config.hashes.lower_digest job.purpose.algorithm bytes
  unfold State.judge
  cases purpose : job.purpose with
  | restore expected =>
    cases expected with
    | none =>
      apply sound.admitRestore held
      intro expected restoring
      rw [purpose] at restoring
      cases restoring
    | some expected =>
      simp only
      split
      · exact sound.conclude held trivial
      · rename_i equal
        apply sound.admitRestore held
        intro other restoring
        rw [purpose] at restoring lowered
        cases restoring
        exact ⟨bytes, here, lowered.symm.trans (not_not.mp equal)⟩
  | compare base remoteSize remoteMd5 =>
    apply sound.conclude held
    intro agree
    rw [purpose] at lowered
    have equal : lower (config.hashes.digest .md5 bytes) = lower remoteMd5 := beq_iff_eq.mp agree
    exact ⟨bytes, remoteMd5, here, rfl, lowered.symm.trans equal⟩
  | verify | record =>
    have closed := sound.close held
    rw [purpose] at closed
    exact closed

/-- A digest that is used from beside the archive is that of the archive. -/
theorem Sound.computeDigest (sound : Sound config state) (held : state.Holds job) :
    Sound config (state.computeDigest config job) := by
  have opened : Sound config (state.goto job.id job.purpose .opening) :=
    sound.goto held (Job.sound_of_idle rfl)
  unfold State.computeDigest
  split
  · split
    · rename_i digest found
      exact sound.judge held (sound.directory.hit found)
    · exact opened
    · exact sound.close held
  · exact opened

/-- A job is taken up with nothing digested. -/
theorem Sound.accept (sound : Sound config state) {name : String} {purpose : Archive → Purpose}
    (accepted : state.accept name purpose = some after) : Sound config after := by
  obtain ⟨archive, _, rfl⟩ := Option.map_eq_some_iff.mp accepted
  constructor
  · exact sound.directory
  · intro row listed
    rcases (Table.mem_append fun _ => rfl).mp listed with before | rfl
    · exact sound.jobs row before
    · exact Job.sound_of_idle rfl
  · exact sound.journal

/-- An archive that a job relies on keeps its content. -/
theorem undisturbed_content {hashes : Hashes} {name : String} {archive : Option Archive}
    (allowed : undisturbed hashes state name archive = true) (stored : job ∈ state.jobs)
    (relies : job.relies = true) (named : job.name = name) :
    archive.map Archive.content = state.directory.content name := by
  have all := List.all_eq_true.mp (Bool.and_eq_true_iff.mp allowed).1 job stored
  simpa [named, relies] using all

/-- A job stays sound when an archive is changed on which it does not rely, or whose content
stays. -/
theorem Sound.job_kept (sound : Sound config state) {name : String} {archive : Option Archive}
    (allowed : undisturbed config.hashes state name archive = true) {directory : Directory}
    (changed : directory.content name = archive.map Archive.content)
    (others : ∀ other, other ≠ name → directory.content other = state.directory.content other)
    (stored : job ∈ state.jobs) :
    (job.pin name ((state.directory.content name).getD [])).Sound config.hashes directory ∧
      job.Sound config.hashes directory := by
  cases relies : job.relies with
  | false =>
    have idle : (job.pin name ((state.directory.content name).getD [])).relies = false :=
      (Job.relies_pin name _).trans relies
    exact ⟨Job.sound_of_idle idle, Job.sound_of_idle relies⟩
  | true =>
    have same : job.name = name → directory.content name = state.directory.content name :=
      fun named => changed.trans (undisturbed_content allowed stored relies named)
    have kept : job.Sound config.hashes directory := by
      apply (sound.jobs job stored).mono
      by_cases named : job.name = name
      · rw [named]
        exact same named
      · exact others job.name named
    refine ⟨kept.pin fun named bytes here => ?_, kept⟩
    rw [← same named, here]
    rfl

/-- Changing an archive is sound when no job relies on it, or its content stays. -/
theorem Sound.replace (sound : Sound config state) {name : String} {archive : Option Archive}
    (allowed : undisturbed config.hashes state name archive = true) (inPlace : Bool) :
    Sound config (state.replace name archive inPlace) := by
  have changed : (state.directory.setArchive name archive).content name =
      archive.map Archive.content := by
    rw [Directory.content, Directory.archive_setArchive]
  have others (other : String) (apart : other ≠ name) :
      (state.directory.setArchive name archive).content other = state.directory.content other := by
    rw [Directory.content, Directory.archive_setArchive_of_ne _ _ apart, Directory.content]
  constructor
  · apply sound.directory.setArchive
    have truths := (Bool.and_eq_true_iff.mp allowed).2
    intro algorithm
    cases algorithm <;> exact List.all_eq_true.mp truths _ (by decide)
  · intro row listed
    cases inPlace with
    | true => exact (sound.job_kept allowed changed others listed).2
    | false =>
      have keeps := Job.pin_id name ((state.directory.content name).getD [])
      obtain ⟨job, stored, rfl⟩ := (Table.mem_map keeps).mp listed
      exact (sound.job_kept allowed changed others stored).1
  · exact sound.journal

/-- An answer that needs no digest reports no match. -/
theorem matchEntries_unverified {name : String} {base : Base} {entries : List RemoteEntry}
    {result : VerifyResult} (answered : matchEntries name base entries = .inl result) :
    result.verified = false := by
  unfold matchEntries at answered
  simp only at answered
  split at answered
  · exact Sum.inl.inj answered ▸ rfl
  · split at answered
    · exact Sum.inl.inj answered ▸ rfl
    · split at answered
      · exact Sum.inl.inj answered ▸ rfl
      · cases answered

/-- Beginning to take a digest is sound. -/
theorem Sound.take (sound : Sound config state) (stored : job ∈ state.jobs)
    (stepped : state.take config job = some after) : Sound config after := by
  have held := State.holds_of_mem stored
  unfold State.take at stepped
  split at stepped
  · rename_i purpose _
    obtain rfl := Option.some.inj stepped
    apply sound.admitRestore held
    intro expected restoring
    rw [purpose] at restoring
    cases restoring
  · obtain rfl := Option.some.inj stepped
    exact sound.computeDigest held
  · obtain rfl := Option.some.inj stepped
    exact sound.computeDigest held
  · cases stepped

/-- Going on with a verification is sound. -/
theorem Sound.listed (sound : Sound config state) (stored : job ∈ state.jobs)
    {entries : List RemoteEntry} (stepped : state.listed config entries job = some after) :
    Sound config after := by
  have held := State.holds_of_mem stored
  unfold State.listed at stepped
  split at stepped
  · split at stepped
    · rename_i answered
      obtain rfl := Option.some.inj stepped
      apply sound.conclude held
      intro verified
      rw [matchEntries_unverified answered] at verified
      exact absurd verified Bool.false_ne_true
    · obtain rfl := Option.some.inj stepped
      exact sound.computeDigest held
  · cases stepped

/-- Opening the file is sound. -/
theorem Sound.openFile (sound : Sound config state) (stored : job ∈ state.jobs)
    (stepped : state.openFile job = some after) : Sound config after := by
  unfold State.openFile at stepped
  split at stepped
  · obtain rfl := Option.some.inj stepped
    apply sound.goto (State.holds_of_mem stored)
    cases here : state.directory.archive job.name with
    | none => exact Job.sound_of_idle rfl
    | some archive =>
      have content : state.directory.content job.name = some archive.content := by
        rw [Directory.content, here]
        rfl
      exact ⟨archive.content, content, rfl, List.nil_prefix⟩
  · cases stepped

/-- What is read so far stays a prefix of the content, and the whole of it is digested. -/
theorem Sound.readChunk (sound : Sound config state) (stored : job ∈ state.jobs)
    (stepped : state.readChunk config job = some after) : Sound config after := by
  have reading := sound.jobs job stored
  unfold State.readChunk at stepped
  split at stepped
  · rename_i pinned read staged
    obtain rfl := Option.some.inj stepped
    apply sound.goto (State.holds_of_mem stored)
    unfold Job.Sound at reading
    rw [staged] at reading
    obtain ⟨bytes, here, kept, rest, split⟩ := reading
    rw [here, Option.getD_some, kept, ← split, List.drop_left]
    by_cases last : rest.take config.checksumChunkBytes = []
    · have whole : rest = [] := by
        rcases List.take_eq_nil_iff.mp last with none | none
        · exact absurd none config.positive.ne'
        · exact none
      rw [if_pos last]
      refine ⟨bytes, here, ?_⟩
      rw [← split, whole, List.append_nil]
    · rw [if_neg last]
      refine ⟨bytes, here, kept, rest.drop config.checksumChunkBytes, ?_⟩
      rw [List.append_assoc, List.take_append_drop, split]
  · cases stepped

/-- Writing the digest beside the archive is sound. -/
theorem Sound.store (sound : Sound config state) (stored : job ∈ state.jobs) {mtime : Option Int}
    (stepped : state.store mtime job = some after) : Sound config after := by
  have computed := sound.jobs job stored
  unfold State.store at stepped
  split at stepped
  · rename_i digest staged
    obtain rfl := Option.some.inj stepped
    unfold Job.Sound at computed
    rw [staged] at computed
    have moved : Sound config (state.goto job.id job.purpose (.taken digest)) :=
      sound.goto (State.holds_of_mem stored) computed
    obtain ⟨bytes, here, own⟩ := computed
    cases mtime with
    | none => exact moved
    | some mtime =>
      constructor
      · rw [own]
        exact sound.directory.writeCache here mtime
      · exact fun row listed => (moved.jobs row listed).mono rfl
      · exact moved.journal
  · cases stepped

/-- Acting on a computed digest is sound. -/
theorem Sound.resume (sound : Sound config state) (stored : job ∈ state.jobs)
    (stepped : state.resume config job = some after) : Sound config after := by
  have taken := sound.jobs job stored
  unfold State.resume at stepped
  split at stepped
  · rename_i digest staged
    obtain rfl := Option.some.inj stepped
    apply sound.judge (State.holds_of_mem stored)
    unfold Job.Sound at taken ⊢
    rw [staged] at taken
    exact taken
  · cases stepped

/-- The restore command runs on the archive whose digest was checked. -/
theorem Sound.command (sound : Sound config state) (stored : job ∈ state.jobs)
    (stepped : state.command job = some after) : Sound config after := by
  have checked := sound.jobs job stored
  unfold State.command at stepped
  split at stepped
  · rename_i expected purpose staged
    obtain rfl := Option.some.inj stepped
    have moved : Sound config (state.goto job.id job.purpose .restoring) :=
      sound.goto (State.holds_of_mem stored) (Job.sound_of_idle rfl)
    constructor
    · exact moved.directory
    · exact moved.jobs
    · intro event told
      rcases List.mem_cons.mp told with rfl | before
      · unfold Job.Sound at checked
        rw [staged] at checked
        cases expected with
        | none => trivial
        | some expected => exact checked expected purpose
      · exact sound.journal event before
  · cases stepped

/-- One step that leaves what was digested is sound. -/
theorem step_sound (sound : Sound config state) {action : Action}
    (allowed : Honest config state action) (stepped : step config state action = some after) :
    Sound config after := by
  have member {id : Nat} {job : Job} (found : state.jobs.get id = some job) : job ∈ state.jobs :=
    (Table.get_eq_some.mp found).1
  cases action with
  | restore | verify | backup => exact sound.accept stepped
  | take id =>
    obtain ⟨job, found, moved⟩ := Option.bind_eq_some_iff.mp stepped
    exact sound.take (member found) moved
  | listed id entries =>
    obtain ⟨job, found, moved⟩ := Option.bind_eq_some_iff.mp stepped
    exact sound.listed (member found) moved
  | openFile id =>
    obtain ⟨job, found, moved⟩ := Option.bind_eq_some_iff.mp stepped
    exact sound.openFile (member found) moved
  | readChunk id =>
    obtain ⟨job, found, moved⟩ := Option.bind_eq_some_iff.mp stepped
    exact sound.readChunk (member found) moved
  | store id mtime =>
    obtain ⟨job, found, moved⟩ := Option.bind_eq_some_iff.mp stepped
    exact sound.store (member found) moved
  | resume id =>
    obtain ⟨job, found, moved⟩ := Option.bind_eq_some_iff.mp stepped
    exact sound.resume (member found) moved
  | command id =>
    obtain ⟨job, found, moved⟩ := Option.bind_eq_some_iff.mp stepped
    exact sound.command (member found) moved
  | finish id =>
    obtain ⟨job, found, rfl⟩ := Option.map_eq_some_iff.mp stepped
    have closed := sound.close (State.holds_of_mem (member found))
    exact ⟨closed.directory, closed.jobs, closed.journal⟩
  | crash =>
    obtain rfl := Option.some.inj stepped
    exact ⟨sound.directory, fun job listed => absurd listed (Table.not_mem_empty job),
      sound.journal⟩
  | download name overwrite archive inPlace =>
    simp only [step] at stepped
    split at stepped
    · cases stepped
    · obtain rfl := Option.some.inj stepped
      exact sound.replace allowed inPlace
  | write name archive inPlace =>
    obtain rfl := Option.some.inj stepped
    exact sound.replace allowed inPlace
  | remove name =>
    obtain rfl := Option.some.inj stepped
    exact sound.replace allowed false
  | deleteArtifact name =>
    obtain ⟨_, _, rfl⟩ := Option.map_eq_some_iff.mp stepped
    have removed := sound.replace allowed false
    exact ⟨sound.directory.delete name, fun job listed => (removed.jobs job listed).mono rfl,
      removed.journal⟩
  | plant algorithm name sidecar =>
    obtain rfl := Option.some.inj stepped
    exact ⟨sound.directory.setSidecar allowed,
      fun job listed => (sound.jobs job listed).mono rfl, sound.journal⟩

/-- However jobs, writers of the directory and restarts of the agent interleave, while no archive is
changed under a job that relies on its digest, and no digest of another content lies beside an
archive that is not newer, a restore that was given a digest runs on an archive of that digest, and
a verification reports a match only of an archive with the digest the remote reports. -/
theorem enforced_of_honest (reached : (system config).Reachable (Honest config) state) :
    Enforced config.hashes state := by
  have sound : Sound config state := by
    apply reached.invariant_alone
    constructor
    · rintro _ rfl
      exact ⟨fun algorithm _ => truthful_none algorithm none,
        fun job listed => absurd listed (Table.not_mem_empty job),
        fun _ listed => absurd listed List.not_mem_nil⟩
    · exact fun _ _ _ _ sound allowed stepped => step_sound sound allowed stepped
  exact sound.journal

end Steps

/-- The digests of the empty file and of the file of the letter a, and zeros for other files. -/
def shortDigests : Algorithm → List UInt8 → String
  | .sha256, [] => "e3b0c44298fc1c149afbf4c8996fb92427ae41e4649b934ca495991b7852b855"
  | .sha256, [97] => "ca978112ca1bbdcafac231b39a23dc4da786eff8147c4e72b9807785afee48bb"
  | .sha256, _ => "0000000000000000000000000000000000000000000000000000000000000000"
  | .md5, [] => "d41d8cd98f00b204e9800998ecf8427e"
  | .md5, [97] => "0cc175b9c0f1b6a831c399e269772661"
  | .md5, _ => "00000000000000000000000000000000"

/-- Hash functions that are right for the two shortest files. -/
def shortHashes : Hashes where
  digest := shortDigests
  length algorithm bytes := by
    unfold shortDigests
    split <;> rfl
  hex algorithm bytes := by
    apply List.all_eq_true.mp
    unfold shortDigests
    split <;> decide

/-- An agent that reads chunks of four mebibytes and restores one guest at a time. -/
def plainConfig : Config := ⟨shortHashes, 4194304, 1, by decide⟩

/-- An archive of a machine. -/
def webArchive : String := "vzdump-qemu-101-2026_01_01-00_00_00.vma.zst"

/-- A backup writes an archive, and its digest is recorded beside it. -/
def backedUp (content : List UInt8) : List Action :=
  [.write webArchive ⟨content, 10⟩ false, .backup webArchive, .take 1, .openFile 1, .readChunk 1] ++
    (if content = [] then [] else [.readChunk 1]) ++ [.store 1 (some 11), .resume 1]

/-- A backup that is restored, and compared with its copy on a remote. -/
theorem enforced_restore_and_match :
    ∃ state : State, .commanded (some (shortDigests .sha256 [97])) (some [97]) ∈ state.journal ∧
      (∃ event ∈ state.journal, match event with
        | .verified result _ => result.verified = true
        | _ => False) ∧ Enforced shortHashes state := by
  obtain ⟨state, reached, shown⟩ : ∃ state,
      (system plainConfig).Reachable (Honest plainConfig) state ∧
        (decide (.commanded (some (shortDigests .sha256 [97])) (some [97]) ∈ state.journal) &&
          state.journal.any fun event => match event with
            | .verified result _ => result.verified
            | _ => false) = true := by
    refine System.exists_of_runFrom rfl (backedUp [97] ++
      [.restore webArchive (some (shortDigests .sha256 [97])), .take 2, .command 2,
        .verify webArchive "gdrive" "backups",
        .listed 3 [⟨webArchive, 1, false, some (shortDigests .md5 [97])⟩], .openFile 3,
        .readChunk 3, .readChunk 3, .store 3 (some 12), .resume 3]) _ ?_
    decide +kernel
  obtain ⟨commanded, matched⟩ := Bool.and_eq_true_iff.mp shown
  obtain ⟨event, told, verified⟩ := List.any_eq_true.mp matched
  refine ⟨state, of_decide_eq_true commanded, ⟨event, told, ?_⟩, enforced_of_honest reached⟩
  cases event with
  | verified result content => exact verified
  | commanded | refused => cases verified

/-- A download that replaces an archive by another content keeps the older modification time of its
source, so the digest beside it still counts, and the other content is restored. -/
theorem stale_digest_restored :
    ¬ ∀ config state, (system config).Reachable System.unguarded state →
      Enforced config.hashes state := by
  intro always
  obtain ⟨state, reached, shown⟩ : ∃ state,
      (system plainConfig).Reachable System.unguarded state ∧
        decide (.commanded (some (shortDigests .sha256 [])) (some [97]) ∈ state.journal) =
          true := by
    refine System.exists_of_runFrom rfl (backedUp [] ++
      [.download webArchive true ⟨[97], 9⟩ false,
        .restore webArchive (some (shortDigests .sha256 [])), .take 2, .command 2]) _ ?_
    decide +kernel
  obtain ⟨bytes, here, same⟩ := always plainConfig state reached _ (of_decide_eq_true shown)
  obtain rfl := Option.some.inj here
  revert same
  decide

end ProxSync.Agent
