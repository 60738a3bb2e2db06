import ProxSync.Agent.Deletion
import ProxSync.Lib.Pattern
import ProxSync.Lib.Value
import ProxSync.Schemas
/-!
# The names of artifacts

An artifact is named by its kind, the guest, the time it was made, and the format and compression of
the archive. One pattern recognises such names; the parser also reads the time, which the pattern
only knows as digits, so it refuses names that the pattern accepts.
-/
open ProxSync.Lib

namespace ProxSync.Agent

/-- How an archive is compressed. -/
inductive Compression
  | zstd
  | gzip
  | lzo
  | none
  deriving DecidableEq, Repr

/-- The digits of the time in a name. -/
structure Stamp where
  year : List Char
  month : List Char
  day : List Char
  hour : List Char
  minute : List Char
  second : List Char
  deriving DecidableEq, Repr

/-- What is raised: an exception of the agent, or one of the language. -/
inductive Raised
  | failure (failure : Failure)
  | error (error : PyError)
  deriving DecidableEq, Repr

/-- Errors of the language. -/
def raising {α : Type} : Except PyError α → Except Raised α
  | .ok value => .ok value
  | .error error => .error (.error error)

/-- What the pattern captures of a name. -/
structure ArtifactGroups where
  kind : String
  vmid : List Char
  stamp : Stamp
  container : String
  compression : Option String
  deriving DecidableEq, Repr

/-- A time of the host's clock. -/
structure LocalTime where
  year : Nat
  month : Nat
  day : Nat
  hour : Nat
  minute : Nat
  second : Nat
  deriving DecidableEq, Repr

/-- A name that was read. -/
structure ArtifactName where
  filename : String
  guestType : GuestType
  vmid : Nat
  createdAt : LocalTime
  containerFormat : String
  compression : Compression
  deriving DecidableEq, Repr

/-- A word of a name. -/
def exact (text : String) : Pattern String := do
  Pattern.word (· == ·) text.toList
  pure text

/-- The digits of a time. -/
def stampPattern : Pattern Stamp := do
  let year ← .exactly Pattern.digit 4
  let _ ← exact "_"
  let month ← .exactly Pattern.digit 2
  let _ ← exact "_"
  let day ← .exactly Pattern.digit 2
  let _ ← exact "-"
  let hour ← .exactly Pattern.digit 2
  let _ ← exact "_"
  let minute ← .exactly Pattern.digit 2
  let _ ← exact "_"
  let second ← .exactly Pattern.digit 2
  pure ⟨year, month, day, hour, minute, second⟩

/-- The compression of a name, if it has one. -/
def suffixPattern : Pattern String := do
  let _ ← exact "."
  .either (exact "zst") (.either (exact "gz") (exact "lzo"))

/-- The pattern of the names of artifacts. -/
def artifactPattern : Pattern ArtifactGroups := do
  let _ ← exact "vzdump-"
  let kind ← .either (exact "qemu") (.either (exact "lxc") (exact "openvz"))
  let _ ← exact "-"
  let first ← .char Pattern.digit
  let others ← .atMost Pattern.digit 8
  let _ ← exact "-"
  let stamp ← stampPattern
  let _ ← exact "."
  let container ← .either (exact "vma") (exact "tar")
  let compression ← .optional suffixPattern
  Pattern.ending
  pure ⟨kind, first :: others, stamp, container, compression⟩

/-- What the pattern captures of a name, if it is that of an artifact. -/
def artifactMatch (filename : String) : Option ArtifactGroups :=
  artifactPattern.matchStart filename.toList

/-- Whether a file name is one of an artifact. -/
def isArtifactName (filename : String) : Bool := (artifactMatch filename).isSome

/-! ## The time of a name -/

/-- Whether a digit is an ASCII digit within bounds. -/
def within (low high : Char) (char : Char) : Bool := low ≤ char && char ≤ high

/-- Two digits, if they may stand together. -/
def twoDigitField (allowed : Char → Char → Bool) : List Char → Option Nat
  | [tens, ones] => if allowed tens ones then some (digitsValue [tens, ones]) else none
  | _ => none

/-- Days of a month. -/
def daysIn (year month : Nat) : Nat :=
  if month = 2 then
    if year % 4 = 0 ∧ (year % 100 ≠ 0 ∨ year % 400 = 0) then 29 else 28
  else if month = 4 ∨ month = 6 ∨ month = 9 ∨ month = 11 then 30 else 31

/-- The time that digits stand for; a digit that the format bounds is an ASCII digit. -/
def strptime (stamp : Stamp) : Option LocalTime := do
  let year := digitsValue stamp.year
  let month ← twoDigitField
    (fun tens ones => (tens == '1' && within '0' '2' ones) || (tens == '0' && within '1' '9' ones))
    stamp.month
  let day ← twoDigitField
    (fun tens ones => (tens == '3' && within '0' '1' ones) || within '1' '2' tens ||
      (tens == '0' && within '1' '9' ones))
    stamp.day
  let hour ← twoDigitField
    (fun tens ones => (tens == '2' && within '0' '3' ones) || within '0' '1' tens) stamp.hour
  let minute ← twoDigitField (fun tens _ => within '0' '5' tens) stamp.minute
  let second ← twoDigitField
    (fun tens ones => (tens == '6' && within '0' '1' ones) || within '0' '5' tens) stamp.second
  if 1 ≤ year ∧ day ≤ daysIn year month ∧ second ≤ 59 then
    some ⟨year, month, day, hour, minute, second⟩
  else none

/-- The guest type of a kind. -/
def kindToGuestType (kind : String) : GuestType := if kind = "qemu" then .vm else .lxc

/-- The compression of a suffix. -/
def suffixToCompression : Option String → Compression
  | some "zst" => .zstd
  | some "gz" => .gzip
  | some "lzo" => .lzo
  | _ => .none

/-- Read a name. -/
def parseArtifactName (filename : String) : Except Raised ArtifactName :=
  match artifactMatch filename with
  | none =>
    .error (.failure (.validationFailed
      s!"'{filename}' is not a vzdump artifact name; refusing to operate on it"))
  | some groups =>
    match strptime groups.stamp, int (.ofList groups.vmid) with
    | none, _ =>
      .error (.failure (.validationFailed s!"'{filename}' carries an invalid timestamp"))
    | some _, .error _ => .error (.error .valueError)
    | some createdAt, .ok vmid =>
      .ok ⟨filename, kindToGuestType groups.kind, vmid, createdAt, groups.container,
        suffixToCompression groups.compression⟩

/-! ## What the pattern captures -/

/-- What raises no error answers the same. -/
theorem raising_eq_ok {α : Type} {answer : Except PyError α} {value : α} :
    raising answer = .ok value ↔ answer = .ok value := by
  cases answer <;> simp [raising]

/-- The number of the guest in a name is short enough to be read. -/
theorem vmid_of_artifactMatch {filename : String} {groups : ArtifactGroups}
    (found : artifactMatch filename = some groups) :
    int (.ofList groups.vmid) = .ok (digitsValue groups.vmid) := by
  have gives : artifactPattern.Gives fun groups =>
      groups.vmid.length ≤ 9 ∧ ∀ char ∈ groups.vmid, Pattern.digit char = true := by
    unfold artifactPattern
    refine Pattern.gives_anything.bind fun _ _ => Pattern.gives_anything.bind fun kind _ =>
      Pattern.gives_anything.bind fun _ _ => Pattern.gives_char.bind fun first digit =>
      Pattern.gives_atMost.bind ?_
    rintro others ⟨length, digits⟩
    refine Pattern.gives_anything.bind fun _ _ => Pattern.gives_anything.bind fun stamp _ =>
      Pattern.gives_anything.bind fun _ _ => Pattern.gives_anything.bind fun container _ =>
      Pattern.gives_anything.bind fun compression _ => Pattern.gives_anything.bind fun _ _ => ?_
    exact Pattern.gives_pure ⟨Nat.succ_le_succ length, List.forall_mem_cons.mpr ⟨digit, digits⟩⟩
  obtain ⟨length, digits⟩ := gives.matchStart found
  have limit : 9 ≤ maxStrDigits := by decide
  have all : (groups.vmid.all fun char => (decimalValue char).isSome) = true :=
    List.all_eq_true.mpr digits
  unfold int
  rw [String.toList_ofList, if_pos all, if_pos (length.trans limit)]

/-- The time in a name, where it is one. -/
def stampOf (filename : String) : Option LocalTime :=
  (artifactMatch filename).bind fun groups => strptime groups.stamp

/-- A name is read exactly when it is that of an artifact and its time is one. -/
theorem parseArtifactName_ok_iff {filename : String} {createdAt : LocalTime} :
    (∃ artifact, parseArtifactName filename = .ok artifact ∧ artifact.createdAt = createdAt) ↔
      stampOf filename = some createdAt := by
  unfold parseArtifactName stampOf
  cases found : artifactMatch filename with
  | none => simp
  | some groups =>
    simp only [vmid_of_artifactMatch found]
    cases stamped : strptime groups.stamp <;> simp [stamped]

example : isArtifactName "vzdump-qemu-101-2026_07_19-01_00_04.vma.zst" = true := by decide +kernel

end ProxSync.Agent
