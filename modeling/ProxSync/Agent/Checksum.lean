import ProxSync.Lib.Text
/-!
# Digests and their sidecars

An archive of the dump directory may have a file beside it that records a digest of it. The digest
there is used instead of hashing when the file is not older than the archive by their modification
times, and it is written after the archive is hashed. The hash functions are parameters, known only
to give lower-case hexadecimal digests of their lengths.
-/
open ProxSync.Lib

namespace ProxSync.Agent

/-- The digests the agent computes. -/
inductive Algorithm
  | sha256
  | md5
  deriving DecidableEq, Repr

/-- The number of digits of a digest. -/
def Algorithm.digestLength : Algorithm → Nat
  | .sha256 => 64
  | .md5 => 32

/-- The digits of a digest. -/
def isHex (char : Char) : Bool := char ∈ "0123456789abcdef".toList

/-- The hash functions. -/
structure Hashes where
  digest : Algorithm → List UInt8 → String
  /-- A digest has the digits its algorithm gives it. -/
  length : ∀ algorithm bytes, (digest algorithm bytes).toList.length = algorithm.digestLength
  /-- A digest is written in lower-case hexadecimal digits. -/
  hex : ∀ algorithm bytes, ∀ char ∈ (digest algorithm bytes).toList, isHex char = true

/-- An archive, with its modification time as it is read. -/
structure Archive where
  content : List UInt8
  mtime : Int
  deriving DecidableEq, Repr

/-- A file beside an archive, with its text where it decodes. -/
structure Sidecar where
  text : Option String
  mtime : Int
  deriving DecidableEq, Repr

/-- The dump directory: the archive of each name and the files beside it. -/
structure Directory where
  archive : String → Option Archive
  sidecar : Algorithm → String → Option Sidecar

/-- What is found beside an archive. -/
inductive Cached
  | hit (digest : String)
  | miss
  /-- The text does not decode, which the reader does not expect. -/
  | garbled
  deriving DecidableEq, Repr

/-- The digest a text records, if it records one. -/
def recorded (algorithm : Algorithm) (text : String) : Option String :=
  let digest := firstWord text
  if digest.toList.length = algorithm.digestLength ∧ (lower digest).toList.all isHex then
    some (lower digest)
  else none

/-- The digest beside an archive, unless the file there is missing or older than the archive. -/
def readCached (algorithm : Algorithm) (archive : Option Archive) (sidecar : Option Sidecar) :
    Cached :=
  match sidecar, archive with
  | some sidecar, some archive =>
    if sidecar.mtime < archive.mtime then .miss
    else
      match sidecar.text with
      | none => .garbled
      | some text =>
        match recorded algorithm text with
        | some digest => .hit digest
        | none => .miss
  | _, _ => .miss

namespace Directory

/-- Replace, write or remove an archive. -/
def setArchive (directory : Directory) (name : String) (archive : Option Archive) : Directory :=
  { directory with archive := Function.update directory.archive name archive }

/-- Replace, write or remove a file beside an archive. -/
def setSidecar (directory : Directory) (algorithm : Algorithm) (name : String)
    (sidecar : Option Sidecar) : Directory :=
  { directory with
    sidecar := Function.update directory.sidecar algorithm
      (Function.update (directory.sidecar algorithm) name sidecar) }

/-- Remove an archive with the files beside it. -/
def delete (directory : Directory) (name : String) : Directory :=
  ((directory.setArchive name none).setSidecar .sha256 name none).setSidecar .md5 name none

/-- The digest beside an archive. -/
def cached (directory : Directory) (algorithm : Algorithm) (name : String) : Cached :=
  readCached algorithm (directory.archive name) (directory.sidecar algorithm name)

/-- The content of an archive. -/
def content (directory : Directory) (name : String) : Option (List UInt8) :=
  (directory.archive name).map Archive.content

/-- Write a computed digest beside an archive. -/
def writeCache (directory : Directory) (algorithm : Algorithm) (name digest : String)
    (mtime : Int) : Directory :=
  directory.setSidecar algorithm name (some ⟨some s!"{digest}  {name}\n", mtime⟩)

/-- Writing a sidecar leaves the archives. -/
@[simp] theorem archive_setSidecar (directory : Directory) (algorithm : Algorithm) (name : String)
    (sidecar : Option Sidecar) :
    (directory.setSidecar algorithm name sidecar).archive = directory.archive := rfl

/-- Writing an archive leaves the sidecars. -/
@[simp] theorem sidecar_setArchive (directory : Directory) (name : String)
    (archive : Option Archive) :
    (directory.setArchive name archive).sidecar = directory.sidecar := rfl

/-- A written archive is read. -/
theorem archive_setArchive (directory : Directory) (name : String) (archive : Option Archive) :
    (directory.setArchive name archive).archive name = archive := Function.update_self ..

/-- Writing an archive leaves those of other names. -/
theorem archive_setArchive_of_ne (directory : Directory) {name other : String}
    (archive : Option Archive) (apart : other ≠ name) :
    (directory.setArchive name archive).archive other = directory.archive other :=
  Function.update_of_ne apart ..

/-- A written sidecar is read. -/
theorem sidecar_setSidecar (directory : Directory) (algorithm : Algorithm) (name : String)
    (sidecar : Option Sidecar) :
    (directory.setSidecar algorithm name sidecar).sidecar algorithm name = sidecar := by
  simp [setSidecar]

/-- Writing a sidecar leaves those of other algorithms and other names. -/
theorem sidecar_setSidecar_of_ne (directory : Directory) {algorithm other : Algorithm}
    {name file : String} (sidecar : Option Sidecar) (apart : other ≠ algorithm ∨ file ≠ name) :
    (directory.setSidecar algorithm name sidecar).sidecar other file =
      directory.sidecar other file := by
  by_cases same : other = algorithm
  · subst same
    have apart := apart.resolve_left (not_not_intro rfl)
    simp [setSidecar, Function.update_of_ne apart]
  · simp [setSidecar, Function.update_of_ne same]

end Directory

/-! ## Trusted digests -/

section Trust

variable {hashes : Hashes} {directory : Directory}

/-- A digit is neither lowered nor stripped. -/
theorem isHex_plain {char : Char} (digit : isHex char = true) :
    char.toLower = char ∧ isSpace char = false := by
  have all : ("0123456789abcdef".toList.all fun char => char.toLower == char && !isSpace char) =
      true := by decide
  have plain := List.all_eq_true.mp all char (of_decide_eq_true digit)
  rw [Bool.and_eq_true, beq_iff_eq, Bool.not_eq_true'] at plain
  exact plain

/-- Lowering leaves a digest as it is. -/
theorem Hashes.lower_digest (hashes : Hashes) (algorithm : Algorithm) (bytes : List UInt8) :
    lower (hashes.digest algorithm bytes) = hashes.digest algorithm bytes := by
  have same : (hashes.digest algorithm bytes).toList.map Char.toLower =
      (hashes.digest algorithm bytes).toList := by
    conv_rhs => rw [← List.map_id (hashes.digest algorithm bytes).toList]
    apply List.map_congr_left
    exact fun char inside => (isHex_plain (hashes.hex algorithm bytes char inside)).1
  rw [lower, same, String.ofList_toList]

/-- What is written beside an archive is read back as the digest that was computed. -/
theorem recorded_written (hashes : Hashes) (algorithm : Algorithm) (bytes : List UInt8)
    (name : String) : recorded algorithm s!"{hashes.digest algorithm bytes}  {name}\n" =
      some (hashes.digest algorithm bytes) := by
  have digits := hashes.length algorithm bytes
  have written : s!"{hashes.digest algorithm bytes}  {name}\n" =
      hashes.digest algorithm bytes ++ .ofList (' ' :: (" " ++ name ++ "\n").toList) := by
    apply String.toList_inj.mp
    simp [toString]
  have first : firstWord s!"{hashes.digest algorithm bytes}  {name}\n" =
      hashes.digest algorithm bytes := by
    rw [written]
    apply firstWord_append _ _ (by decide)
    · intro empty
      rw [empty] at digits
      cases algorithm <;> cases digits
    · exact fun char inside => (isHex_plain (hashes.hex algorithm bytes char inside)).2
  unfold recorded
  simp only
  have hexadecimal := List.all_eq_true.mpr (hashes.hex algorithm bytes)
  rw [first, hashes.lower_digest, if_pos ⟨digits, hexadecimal⟩]

/-- No digest is read beside a missing archive. -/
theorem readCached_none (algorithm : Algorithm) (sidecar : Option Sidecar) :
    readCached algorithm none sidecar = .miss := by
  cases sidecar <;> rfl

/-- Whether the digest beside an archive, where it would be used, is the digest of its content. -/
def truthful (hashes : Hashes) (algorithm : Algorithm) (archive : Option Archive)
    (sidecar : Option Sidecar) : Bool :=
  match archive, readCached algorithm archive sidecar with
  | some archive, .hit digest => digest == hashes.digest algorithm archive.content
  | _, _ => true

/-- Every digest that would be used is that of the content it is beside. -/
def Directory.Honest (hashes : Hashes) (directory : Directory) : Prop :=
  ∀ algorithm name, truthful hashes algorithm (directory.archive name)
    (directory.sidecar algorithm name) = true

/-- A digest that is used is that of the archive. -/
theorem Directory.Honest.hit (honest : directory.Honest hashes) {algorithm : Algorithm}
    {name digest : String} (found : directory.cached algorithm name = .hit digest) :
    ∃ bytes, directory.content name = some bytes ∧ digest = hashes.digest algorithm bytes := by
  have truth := honest algorithm name
  unfold Directory.cached at found
  unfold truthful at truth
  rw [found] at truth
  cases here : directory.archive name with
  | none =>
    rw [here, readCached_none] at found
    cases found
  | some archive =>
    rw [here] at truth
    have same : digest = hashes.digest algorithm archive.content := by simpa using truth
    exact ⟨archive.content, by rw [Directory.content, here]; rfl, same⟩

/-- Where no archive is, no digest is used. -/
theorem truthful_none (algorithm : Algorithm) (sidecar : Option Sidecar) :
    truthful hashes algorithm none sidecar = true := rfl

/-- Changing one archive keeps the directory honest if the digests beside it are those of the new
content. -/
theorem Directory.Honest.setArchive (honest : directory.Honest hashes) {name : String}
    {archive : Option Archive} (truth : ∀ algorithm,
      truthful hashes algorithm archive (directory.sidecar algorithm name) = true) :
    (directory.setArchive name archive).Honest hashes := by
  intro algorithm other
  rw [directory.sidecar_setArchive]
  by_cases same : other = name
  · rw [same, directory.archive_setArchive]
    exact truth algorithm
  · rw [directory.archive_setArchive_of_ne archive same]
    exact honest algorithm other

/-- Changing one file beside an archive keeps the directory honest if it gives its digest. -/
theorem Directory.Honest.setSidecar (honest : directory.Honest hashes) {algorithm : Algorithm}
    {name : String} {sidecar : Option Sidecar}
    (truth : truthful hashes algorithm (directory.archive name) sidecar = true) :
    (directory.setSidecar algorithm name sidecar).Honest hashes := by
  intro other file
  rw [directory.archive_setSidecar]
  by_cases same : other = algorithm ∧ file = name
  · obtain ⟨rfl, rfl⟩ := same
    rw [directory.sidecar_setSidecar]
    exact truth
  · rw [directory.sidecar_setSidecar_of_ne sidecar (not_and_or.mp same)]
    exact honest other file

/-- A computed digest may be written beside its archive at any time. -/
theorem Directory.Honest.writeCache (honest : directory.Honest hashes) {algorithm : Algorithm}
    {name : String} {bytes : List UInt8} (holds : directory.content name = some bytes)
    (mtime : Int) :
    (directory.writeCache algorithm name (hashes.digest algorithm bytes) mtime).Honest hashes := by
  apply honest.setSidecar
  obtain ⟨archive, here, rfl⟩ := Option.map_eq_some_iff.mp holds
  rw [here]
  unfold truthful readCached
  simp only
  by_cases older : mtime < archive.mtime
  · rw [if_pos older]
  · rw [if_neg older, recorded_written hashes algorithm archive.content name]
    exact beq_self_eq_true _

/-- Removing an archive with the files beside it keeps the directory honest. -/
theorem Directory.Honest.delete (honest : directory.Honest hashes) (name : String) :
    (directory.delete name).Honest hashes := by
  have bare : (directory.setArchive name none).Honest hashes :=
    honest.setArchive fun algorithm => truthful_none algorithm _
  have gone : (directory.setArchive name none).archive name = none :=
    directory.archive_setArchive name none
  apply Directory.Honest.setSidecar
  · exact bare.setSidecar (by rw [gone]; rfl)
  · rw [Directory.archive_setSidecar, gone]
    rfl

end Trust

end ProxSync.Agent
