import ProxSync.Agent.Artifacts
import ProxSync.Agent.Checksum
import ProxSync.Lib.Raising
import ProxSync.Lib.Utf8
/-!
# Listing the artifacts of the dump root

Every regular file that is named like an artifact is listed with its times, its digest and its
notes. The name is read after it is recognised, and the digest is decoded strictly, so one file with
a time that is none, or with a digest file that does not decode, makes the whole listing fail.
-/
open ProxSync.Lib

namespace ProxSync.Agent

/-- A regular file. -/
structure HostFile where
  bytes : List UInt8
  /-- Reading it raises no error of the operating system. -/
  readable : Bool
  /-- Modification time in seconds. -/
  mtime : ℤ

/-- An entry of the dump root; it has a file unless it is a directory or another special file. -/
structure DirEntry where
  name : String
  file : Option HostFile

/-- The content of the dump root. -/
structure DumpRoot where
  path : String
  entries : List DirEntry
  /-- No two entries have one name. -/
  distinct : (entries.map DirEntry.name).Nodup

/-- The regular file of a name. -/
def DumpRoot.file (root : DumpRoot) (name : String) : Option HostFile :=
  (root.entries.find? fun entry => entry.name = name).bind DirEntry.file

/-- An artifact as it is listed. -/
structure ArtifactResponse where
  filename : String
  path : String
  vmid : Nat
  guestType : GuestType
  sizeBytes : Nat
  createdAt : ℤ
  modifiedAt : ℤ
  compression : Compression
  checksumSha256 : Option String
  notes : Option String
  deriving DecidableEq, Repr

/-- What a listing is restricted to. -/
structure ListFilter where
  vmid : Option Nat
  guestType : Option GuestType

/-- Whether an artifact is listed. -/
def ListFilter.admits (filter : ListFilter) (artifact : ArtifactName) : Bool :=
  filter.vmid.all (· == artifact.vmid) && filter.guestType.all (· == artifact.guestType)

/-- An instant of a modification time, which lies in the years from 1 to 9999. -/
def fromTimestamp (mtime : ℤ) : Except PyError ℤ :=
  if -62135596800 ≤ mtime ∧ mtime ≤ 253402300799 then .ok mtime else .error .valueError

/-- The file beside an artifact, as its reader sees it. -/
def sidecarOf (file : Option HostFile) : Option Sidecar :=
  (file.filter HostFile.readable).map fun file => ⟨decodeStrict file.bytes, file.mtime⟩

/-- The digest beside an artifact. -/
def readCachedSha256 (root : DumpRoot) (name : String) (file : HostFile) :
    Except PyError (Option String) :=
  let sidecar := sidecarOf (root.file (name ++ ".sha256"))
  match readCached .sha256 (some ⟨file.bytes, file.mtime⟩) sidecar with
  | .hit digest => .ok (some digest)
  | .miss => .ok none
  | .garbled => .error .valueError

/-- The characters of notes that are read. -/
def maxNotesBytes : Nat := 4096

/-- The notes beside an artifact. -/
def readNotes (root : DumpRoot) (name : String) : Option String :=
  ((root.file (name ++ ".notes")).filter HostFile.readable).map fun file =>
    strip (.ofList ((universalNewlines (decodeReplace file.bytes).toList).take maxNotesBytes))

section Listing

-- The time zone of the host gives the instant of a time of its clock, if that can be expressed.
variable (zone : LocalTime → Except PyError ℤ) (root : DumpRoot) (filter : ListFilter)

/-- An artifact as it is listed. -/
def describe (artifact : ArtifactName) (file : HostFile) : Except Raised ArtifactResponse := do
  let createdAt ← raising (zone artifact.createdAt)
  let modifiedAt ← raising (fromTimestamp file.mtime)
  let checksum ← raising (readCachedSha256 root artifact.filename file)
  .ok ⟨artifact.filename, s!"{root.path}/{artifact.filename}", artifact.vmid, artifact.guestType,
    file.bytes.length, createdAt, modifiedAt, artifact.compression, checksum,
    readNotes root artifact.filename⟩

/-- The artifacts of entries, in their order. -/
def collect : List DirEntry → Except Raised (List ArtifactResponse)
  | [] => .ok []
  | entry :: rest =>
    match entry.file with
    | none => collect rest
    | some file =>
      if isArtifactName entry.name then do
        let artifact ← parseArtifactName entry.name
        if filter.admits artifact then do
          let response ← describe zone root artifact file
          let others ← collect rest
          .ok (response :: others)
        else collect rest
      else collect rest

/-- The order of a listing. -/
def newestFirst (first second : ArtifactResponse) : Bool := second.createdAt ≤ first.createdAt

/-- The artifacts of the dump root, newest first. -/
def list : Except Raised (List ArtifactResponse) := do
  let entries ← collect zone root filter root.entries
  .ok (entries.mergeSort newestFirst)

/-- Whether an entry is listed: a regular file whose name is read and passes the filter. -/
def listed (entry : DirEntry) : Bool :=
  entry.file.isSome && (parseArtifactName entry.name).toOption.any filter.admits

/-- What the digest file beside an artifact must be like. -/
def DigestDecodes (name : String) (file : HostFile) : Prop :=
  ∀ sidecar, root.file (name ++ ".sha256") = some sidecar → sidecar.readable = true →
    file.mtime ≤ sidecar.mtime → (decodeStrict sidecar.bytes).isSome = true

/-- An entry that does not make the listing fail: if it is a regular file named like an artifact,
its time is one, and if it is listed, its times can be expressed and its digest file decodes. -/
structure Tolerable (entry : DirEntry) (file : HostFile) : Prop where
  dated : (stampOf entry.name).isSome = true
  described : ∀ artifact, parseArtifactName entry.name = .ok artifact →
    filter.admits artifact = true → (zone artifact.createdAt).toBool = true ∧
      (fromTimestamp file.mtime).toBool = true ∧ DigestDecodes root entry.name file

end Listing

variable {zone : LocalTime → Except PyError ℤ} {root : DumpRoot} {filter : ListFilter}
variable {entry : DirEntry} {entries : List DirEntry} {file : HostFile} {artifact : ArtifactName}
variable {name : String}

/-- An answer is true when it has a value. -/
theorem toBool_eq_true {ε α : Type} {answer : Except ε α} :
    answer.toBool = true ↔ ∃ value, answer = .ok value := by
  cases answer with
  | error raised => simp [Except.toBool]
  | ok value => simp [Except.toBool]

/-- A digest file is read without an error exactly when it decodes where it would be used. -/
theorem readCachedSha256_ok_iff :
    (∃ digest, readCachedSha256 root name file = .ok digest) ↔ DigestDecodes root name file := by
  unfold readCachedSha256 DigestDecodes sidecarOf
  cases beside : root.file (name ++ ".sha256") with
  | none => simp [readCached]
  | some sidecar =>
    cases readable : sidecar.readable with
    | false => simp [readCached, readable]
    | true =>
      have seen : (some sidecar).filter HostFile.readable = some sidecar := by
        simp [Option.filter, readable]
      rw [seen]
      by_cases older : sidecar.mtime < file.mtime
      · have newer : ¬ file.mtime ≤ sidecar.mtime := not_le.mpr older
        simp [readCached, older, newer]
      · have newer : file.mtime ≤ sidecar.mtime := not_lt.mp older
        cases text : decodeStrict sidecar.bytes with
        | none => simp [readCached, readable, older, newer, text]
        | some content =>
          cases read : recorded .sha256 content <;> simp [readCached, older, text, read]

/-- An artifact is described exactly when its times can be expressed and its digest file decodes. -/
theorem describe_ok_iff :
    (∃ response, describe zone root artifact file = .ok response) ↔
      (zone artifact.createdAt).toBool = true ∧ (fromTimestamp file.mtime).toBool = true ∧
        DigestDecodes root artifact.filename file := by
  simp only [describe, bind_eq_ok, raising_eq_ok, toBool_eq_true, ← readCachedSha256_ok_iff]
  constructor
  · rintro ⟨_, created, here, modified, there, checksum, digest, -⟩
    exact ⟨⟨created, here⟩, ⟨modified, there⟩, ⟨checksum, digest⟩⟩
  · rintro ⟨⟨created, here⟩, ⟨modified, there⟩, ⟨checksum, digest⟩⟩
    exact ⟨_, created, here, modified, there, checksum, digest, rfl⟩

/-- What describes an artifact has its name. -/
theorem describe_filename {response : ArtifactResponse}
    (described : describe zone root artifact file = .ok response) :
    response.filename = artifact.filename := by
  simp only [describe, bind_eq_ok] at described
  obtain ⟨created, -, modified, -, checksum, -, answer⟩ := described
  exact (congrArg ArtifactResponse.filename (Except.ok.inj answer)).symm

/-- A name is kept as it is read. -/
theorem parseArtifactName_filename (parsed : parseArtifactName name = .ok artifact) :
    artifact.filename = name := by
  unfold parseArtifactName at parsed
  split at parsed
  · cases parsed
  · split at parsed
    · cases parsed
    · cases parsed
    · exact (congrArg ArtifactName.filename (Except.ok.inj parsed)).symm

/-- A name that is read is that of an artifact. -/
theorem isArtifactName_of_parsed (parsed : parseArtifactName name = .ok artifact) :
    isArtifactName name = true := by
  unfold parseArtifactName at parsed
  unfold isArtifactName
  split at parsed
  · cases parsed
  · rename_i found
    rw [found]
    rfl

/-- What is collected is what is listed, in the order of the entries. -/
theorem collect_names {responses : List ArtifactResponse}
    (collected : collect zone root filter entries = .ok responses) :
    responses.map ArtifactResponse.filename =
      (entries.filter (listed filter)).map DirEntry.name := by
  induction entries generalizing responses with
  | nil =>
    obtain rfl := Except.ok.inj collected
    rfl
  | cons entry rest ih =>
    unfold collect at collected
    cases there : entry.file with
    | none =>
      have skipped : listed filter entry = false := by simp [listed, there]
      simp only [there] at collected
      rw [List.filter_cons_of_neg (by rw [skipped]; exact Bool.false_ne_true)]
      exact ih collected
    | some file =>
      simp only [there] at collected
      split at collected
      · obtain ⟨artifact, parsed, collected⟩ := bind_eq_ok.mp collected
        split at collected
        · rename_i admitted
          obtain ⟨response, described, collected⟩ := bind_eq_ok.mp collected
          obtain ⟨others, later, collected⟩ := bind_eq_ok.mp collected
          obtain rfl := Except.ok.inj collected
          have here : listed filter entry = true := by
            simp [listed, there, parsed, Except.toOption, admitted]
          rw [List.filter_cons_of_pos here, List.map_cons, List.map_cons, ih later,
            describe_filename described, parseArtifactName_filename parsed]
        · rename_i refused
          have skipped : listed filter entry = false := by
            simp [listed, there, parsed, Except.toOption, refused]
          rw [List.filter_cons_of_neg (by rw [skipped]; exact Bool.false_ne_true)]
          exact ih collected
      · rename_i unnamed
        have skipped : listed filter entry = false := by
          cases parsed : parseArtifactName entry.name with
          | error raised => simp [listed, parsed, Except.toOption]
          | ok artifact => exact absurd (isArtifactName_of_parsed parsed) unnamed
        rw [List.filter_cons_of_neg (by rw [skipped]; exact Bool.false_ne_true)]
        exact ih collected

/-- A name is read exactly when its time is one. -/
theorem stampOf_isSome :
    (stampOf name).isSome = true ↔ ∃ artifact, parseArtifactName name = .ok artifact := by
  rw [Option.isSome_iff_exists]
  simp only [← parseArtifactName_ok_iff]
  constructor
  · rintro ⟨-, artifact, parsed, -⟩
    exact ⟨artifact, parsed⟩
  · rintro ⟨artifact, parsed⟩
    exact ⟨_, artifact, parsed, rfl⟩

/-- A regular file is collected exactly when it is tolerable, where it is named like an artifact. -/
theorem collect_file_ok_iff {rest : List DirEntry} (there : entry.file = some file) :
    (∃ responses, collect zone root filter (entry :: rest) = .ok responses) ↔
      (isArtifactName entry.name = true → Tolerable zone root filter entry file) ∧
        ∃ responses, collect zone root filter rest = .ok responses := by
  by_cases named : isArtifactName entry.name = true
  · simp only [collect, there, named, if_true, true_implies]
    constructor
    · rintro ⟨responses, collected⟩
      obtain ⟨artifact, parsed, collected⟩ := bind_eq_ok.mp collected
      have dated : (stampOf entry.name).isSome = true := stampOf_isSome.mpr ⟨artifact, parsed⟩
      by_cases admitted : filter.admits artifact = true
      · rw [if_pos admitted] at collected
        obtain ⟨response, described, collected⟩ := bind_eq_ok.mp collected
        obtain ⟨others, later, -⟩ := bind_eq_ok.mp collected
        refine ⟨⟨dated, ?_⟩, others, later⟩
        intro other again _
        obtain rfl := Except.ok.inj (parsed.symm.trans again)
        have described := describe_ok_iff.mp ⟨response, described⟩
        rwa [parseArtifactName_filename parsed] at described
      · rw [if_neg admitted] at collected
        refine ⟨⟨dated, ?_⟩, responses, collected⟩
        intro other again taken
        obtain rfl := Except.ok.inj (parsed.symm.trans again)
        exact absurd taken admitted
    · rintro ⟨tolerable, others, later⟩
      obtain ⟨artifact, parsed⟩ := stampOf_isSome.mp tolerable.dated
      apply exists_bind_eq_ok parsed
      by_cases admitted : filter.admits artifact = true
      · have fine := tolerable.described artifact parsed admitted
        rw [← parseArtifactName_filename parsed] at fine
        obtain ⟨response, described⟩ := describe_ok_iff.mpr fine
        rw [if_pos admitted]
        apply exists_bind_eq_ok described
        exact exists_bind_eq_ok later ⟨_, rfl⟩
      · rw [if_neg admitted]
        exact ⟨others, later⟩
  · simp [collect, there, named]

/-- Entries are collected exactly when each is tolerable. -/
theorem collect_ok_iff :
    (∃ responses, collect zone root filter entries = .ok responses) ↔
      ∀ entry ∈ entries, ∀ file, entry.file = some file → isArtifactName entry.name = true →
        Tolerable zone root filter entry file := by
  induction entries with
  | nil => exact iff_of_true ⟨[], rfl⟩ fun _ absent => absurd absent List.not_mem_nil
  | cons entry rest ih =>
    rw [List.forall_mem_cons, ← ih]
    cases there : entry.file with
    | none => simp [collect, there]
    | some file => simp [collect_file_ok_iff there]

/-- A listing that returns lists exactly the regular files whose names are read. -/
theorem list_names {responses : List ArtifactResponse}
    (answered : list zone root filter = .ok responses) :
    (responses.map ArtifactResponse.filename).Perm
        ((root.entries.filter (listed filter)).map DirEntry.name) ∧
      (responses.map ArtifactResponse.filename).Nodup := by
  obtain ⟨collected, all, sorted⟩ := bind_eq_ok.mp answered
  obtain rfl := Except.ok.inj sorted
  have same := (List.mergeSort_perm collected newestFirst).map ArtifactResponse.filename
  rw [collect_names all] at same
  have once : ((root.entries.filter (listed filter)).map DirEntry.name).Nodup :=
    root.distinct.sublist (List.filter_sublist.map DirEntry.name)
  exact ⟨same, same.nodup_iff.mpr once⟩

/-- A listing returns exactly the regular files whose names are read, each once, when each regular
file that is named like an artifact is tolerable. -/
theorem lists_iff_tolerable (zone : LocalTime → Except PyError ℤ) (root : DumpRoot)
    (filter : ListFilter) :
    (∃ responses, list zone root filter = .ok responses ∧
        (responses.map ArtifactResponse.filename).Perm
          ((root.entries.filter (listed filter)).map DirEntry.name) ∧
        (responses.map ArtifactResponse.filename).Nodup) ↔
      ∀ entry ∈ root.entries, ∀ file, entry.file = some file →
        isArtifactName entry.name = true → Tolerable zone root filter entry file := by
  rw [← collect_ok_iff]
  constructor
  · rintro ⟨responses, answered, -⟩
    obtain ⟨collected, all, -⟩ := bind_eq_ok.mp answered
    exact ⟨collected, all⟩
  · rintro ⟨collected, all⟩
    have answered : ∃ responses, list zone root filter = .ok responses :=
      exists_bind_eq_ok all ⟨_, rfl⟩
    obtain ⟨responses, answered⟩ := answered
    exact ⟨responses, answered, list_names answered⟩

/-- An archive in the dump root. -/
def archive : HostFile := ⟨[], true, 1784422900⟩

/-- The dump root after someone copied an archive of the 45th day of a 13th month there. -/
def misdatedRoot : DumpRoot where
  path := "/var/lib/vz/dump"
  entries := [⟨"vzdump-qemu-101-2026_07_19-01_00_04.vma.zst", some archive⟩,
    ⟨"vzdump-qemu-101-2026_13_45-01_00_04.vma.zst", some archive⟩]
  distinct := by decide

/-- The dump root with a digest file of one byte that is not UTF-8. -/
def garbledRoot : DumpRoot where
  path := "/var/lib/vz/dump"
  entries := [⟨"vzdump-qemu-101-2026_07_19-01_00_04.vma.zst", some archive⟩,
    ⟨"vzdump-qemu-101-2026_07_19-01_00_04.vma.zst.sha256", some ⟨[0xff], true, 1784422900⟩⟩]
  distinct := by decide

/-- Neither is listed. -/
theorem not_lists :
    ¬ (list (fun _ => .ok 1784422804) misdatedRoot ⟨none, none⟩).toBool = true ∧
      ¬ (list (fun _ => .ok 1784422804) garbledRoot ⟨none, none⟩).toBool = true := by
  decide +kernel

end ProxSync.Agent
