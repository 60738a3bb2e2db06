import ProxSync.Lib.Value
/-!
# Task records

A task is written as a dictionary and read back from one. Reading takes most fields as they are, so
a record of another shape raises whatever the first field that does not fit raises. How dates are
written and how a value is printed are parameters, known only to read back and to leave texts alone.
-/
open ProxSync.Lib

namespace ProxSync.Agent

/-- A date in microseconds of its own clock, with the offset of that clock where it is known. -/
structure DateTime where
  wall : ℤ
  offset : Option ℤ
  deriving DecidableEq, Repr

namespace DateTime

/-- The date of an instant in universal time. -/
def utc (instant : ℤ) : DateTime := ⟨instant, some 0⟩

/-- Whether the offset of a date is known. -/
def aware (date : DateTime) : Bool := date.offset.isSome

/-- The microseconds from one date to another, which must both have offsets or neither. -/
def sub (later earlier : DateTime) : Except PyError ℤ :=
  match later.offset, earlier.offset with
  | some offset, some other => .ok ((later.wall - offset) - (earlier.wall - other))
  | none, none => .ok (later.wall - earlier.wall)
  | _, _ => .error .typeError

/-- Whether a date is before another. -/
def lt (date other : DateTime) : Except PyError Bool := do
  let distance ← other.sub date
  .ok (0 < distance)

/-- Two dates of which one has an offset and the other has none cannot be subtracted. -/
theorem sub_ok_iff {later earlier : DateTime} :
    (∃ distance, later.sub earlier = .ok distance) ↔ later.aware = earlier.aware := by
  unfold sub aware
  cases later.offset <;> cases earlier.offset <;> simp

end DateTime

/-- How values are printed and dates written and read. -/
structure Texts where
  str : Value → String
  isoformat : DateTime → String
  fromisoformat : String → Option DateTime
  /-- A text is printed as it is. -/
  str_text : ∀ text, str (.str text) = text
  /-- A written date is read back. -/
  fromisoformat_isoformat : ∀ date, fromisoformat (isoformat date) = some date
  /-- A written date is not empty. -/
  isoformat_ne : ∀ date, isoformat date ≠ ""

/-- Dates written as numbers of dots. -/
def dottedTexts : Texts where
  str value :=
    match value with
    | .str text => text
    | .none => "None"
    | .bool flag => if flag then "True" else "False"
    | _ => "[]"
  isoformat date :=
    .ofList (List.replicate (Encodable.encode (date.wall, date.offset) + 1) '.')
  fromisoformat text :=
    (Encodable.decode (text.toList.length - 1) : Option (ℤ × Option ℤ)).map fun date =>
      ⟨date.1, date.2⟩
  str_text _ := rfl
  fromisoformat_isoformat date := by
    rw [String.toList_ofList, List.length_replicate, Nat.add_sub_cancel, Encodable.encodek]
    rfl
  isoformat_ne date := by
    intro empty
    have chars := congrArg String.toList empty
    rw [String.toList_ofList, List.replicate_succ] at chars
    cases chars

/-! ## Paths -/

/-- What a path starts from. -/
inductive Root
  | relative
  | absolute
  | double
  deriving DecidableEq, Repr

/-- A path without empty parts and parts that stay where they are. -/
structure Path where
  root : Root
  parts : List (List Char)
  solid : ∀ part ∈ parts, part ≠ [] ∧ part ≠ ['.'] ∧ '/' ∉ part

namespace Path

/-- Two slashes start a path of their own, one or more than two start an absolute one. -/
def rootOf : List Char → Root
  | '/' :: '/' :: '/' :: _ => .absolute
  | '/' :: '/' :: _ => .double
  | '/' :: _ => .absolute
  | _ => .relative

/-- The parts between the slashes that are kept. -/
def partsOf (chars : List Char) : List (List Char) :=
  (chars.splitOn '/').filter fun part => !part.isEmpty && part != ['.']

/-- The parts that are kept are solid. -/
theorem solid_partsOf (chars : List Char) :
    ∀ part ∈ partsOf chars, part ≠ [] ∧ part ≠ ['.'] ∧ '/' ∉ part := by
  intro part inside
  obtain ⟨split, kept⟩ := List.mem_filter.mp inside
  simp only [Bool.and_eq_true, Bool.not_eq_true', List.isEmpty_eq_false_iff, bne_iff_ne, ne_eq]
    at kept
  exact ⟨kept.1, kept.2, notMem_of_mem_splitOn split⟩

/-- The path of a text. -/
def parse (text : String) : Path :=
  ⟨rootOf text.toList, partsOf text.toList, solid_partsOf _⟩

/-- The slashes a path starts with. -/
def slashes : Root → List Char
  | .relative => []
  | .absolute => ['/']
  | .double => ['/', '/']

/-- The text of a path. -/
def str (path : Path) : String :=
  if path.root = .relative ∧ path.parts = [] then "."
  else .ofList (slashes path.root ++ ['/'].intercalate path.parts)

/-- Joined parts do not start with a slash. -/
theorem head_intercalate {parts : List (List Char)}
    (solid : ∀ part ∈ parts, part ≠ [] ∧ part ≠ ['.'] ∧ '/' ∉ part) (rest : List Char) :
    ['/'].intercalate parts ≠ '/' :: rest := by
  intro slashed
  cases parts with
  | nil => cases slashed
  | cons first others =>
    obtain ⟨filled, -, plain⟩ := solid first List.mem_cons_self
    obtain ⟨char, chars, rfl⟩ := List.exists_cons_of_ne_nil filled
    have start : char = '/' := by
      cases others with
      | nil =>
        rw [List.intercalate_singleton] at slashed
        exact (List.cons.inj slashed).1
      | cons second more =>
        rw [List.intercalate_cons_cons] at slashed
        exact (List.cons.inj slashed).1
    exact plain (start ▸ List.mem_cons_self)

/-- The parts that were joined are found again. -/
theorem partsOf_intercalate {parts : List (List Char)}
    (solid : ∀ part ∈ parts, part ≠ [] ∧ part ≠ ['.'] ∧ '/' ∉ part) :
    partsOf (['/'].intercalate parts) = parts := by
  unfold partsOf
  by_cases none : parts = []
  · subst none
    rfl
  · rw [List.splitOn_intercalate '/' (fun part inside => (solid part inside).2.2) none]
    apply List.filter_eq_self.mpr
    intro part inside
    obtain ⟨filled, moving, -⟩ := solid part inside
    rw [Bool.and_eq_true, Bool.not_eq_true', List.isEmpty_eq_false_iff, bne_iff_ne]
    exact ⟨filled, moving⟩

/-- A slash in front adds no part. -/
theorem partsOf_slash (chars : List Char) : partsOf ('/' :: chars) = partsOf chars := by
  unfold partsOf
  rw [List.splitOn_cons_eq_if_modifyHead, if_pos (beq_self_eq_true _)]
  rfl

/-- A text that does not start with a slash is a relative path. -/
theorem rootOf_plain {chars : List Char} (plain : ∀ rest, chars ≠ '/' :: rest) :
    rootOf chars = .relative := by
  unfold rootOf
  split
  · exact absurd rfl (plain _)
  · exact absurd rfl (plain _)
  · exact absurd rfl (plain _)
  · rfl

/-- A path is read back from its text. -/
theorem parse_str (path : Path) : parse path.str = path := by
  obtain ⟨root, parts, solid⟩ := path
  have plain := head_intercalate solid
  have found := partsOf_intercalate solid
  have same : ∀ {text : String}, rootOf text.toList = root → partsOf text.toList = parts →
      parse text = ⟨root, parts, solid⟩ := by
    intro text roots split
    unfold parse
    simp only [Path.mk.injEq]
    exact ⟨roots, split⟩
  unfold str
  split
  · rename_i dot
    obtain ⟨rfl, rfl⟩ := dot
    exact same rfl rfl
  · rename_i some
    apply same
    · rw [String.toList_ofList]
      cases root with
      | relative => exact rootOf_plain plain
      | absolute =>
        show rootOf ('/' :: ['/'].intercalate parts) = .absolute
        unfold rootOf
        split
        · rfl
        · rename_i rest _ slashed
          exact absurd (List.cons.inj slashed).2 (plain rest)
        · rfl
        · rename_i _ _ other
          exact absurd rfl (other _)
      | double =>
        show rootOf ('/' :: '/' :: ['/'].intercalate parts) = .double
        unfold rootOf
        split
        · rename_i rest slashed
          exact absurd (List.cons.inj (List.cons.inj slashed).2).2 (plain rest)
        · rfl
        · rename_i other slashed
          exact absurd (List.cons.inj slashed).2.symm (other _)
        · rename_i other
          exact absurd rfl (other _)
    · rw [String.toList_ofList]
      cases root with
      | relative => exact found
      | absolute => exact (partsOf_slash _).trans found
      | double => exact (partsOf_slash _).trans ((partsOf_slash _).trans found)

end Path

/-! ## Records -/

/-- What a task does. -/
inductive TaskKind
  | backup
  | restoreVm
  | restoreLxc
  | upload
  | download
  | verify
  deriving DecidableEq, Repr

/-- The kind as it is written. -/
def TaskKind.value : TaskKind → String
  | .backup => "backup"
  | .restoreVm => "restore_vm"
  | .restoreLxc => "restore_lxc"
  | .upload => "upload"
  | .download => "download"
  | .verify => "verify"

/-- How far a task is. -/
inductive TaskState
  | queued
  | running
  | success
  | failed
  | cancelled
  /-- The agent restarted while the task was running. -/
  | interrupted
  deriving DecidableEq, Repr

/-- The state as it is written. -/
def TaskState.value : TaskState → String
  | .queued => "queued"
  | .running => "running"
  | .success => "success"
  | .failed => "failed"
  | .cancelled => "cancelled"
  | .interrupted => "interrupted"

/-- Whether a state is final. -/
def TaskState.isTerminal : TaskState → Bool
  | .success | .failed | .cancelled | .interrupted => true
  | .queued | .running => false

/-- The member of an enumeration that a value is the text of. -/
def memberOf {α : Type} (members : List α) (written : α → String) : Value → Except PyError α
  | .str text =>
    match members.find? fun member => written member == text with
    | some member => .ok member
    | none => .error .valueError
  | _ => .error .valueError

/-- The kinds. -/
def TaskKind.members : List TaskKind :=
  [.backup, .restoreVm, .restoreLxc, .upload, .download, .verify]

/-- The states. -/
def TaskState.members : List TaskState :=
  [.queued, .running, .success, .failed, .cancelled, .interrupted]

/-- The kind of a value. -/
def TaskKind.ofValue : Value → Except PyError TaskKind := memberOf members TaskKind.value

/-- The state of a value. -/
def TaskState.ofValue : Value → Except PyError TaskState := memberOf members TaskState.value

/-- A kind is read back. -/
@[simp] theorem TaskKind.ofValue_value (kind : TaskKind) :
    TaskKind.ofValue (.str kind.value) = .ok kind := by
  cases kind <;> rfl

/-- A state is read back. -/
@[simp] theorem TaskState.ofValue_value (state : TaskState) :
    TaskState.ofValue (.str state.value) = .ok state := by
  cases state <;> rfl

/-- How far the transfer of a task is, as it was written. -/
structure TaskProgress where
  percent : Value
  bytesDone : Value
  bytesTotal : Value
  rateBps : Value
  etaSeconds : Value
  message : Value

/-- A record of a task. -/
structure Task where
  id : String
  kind : TaskKind
  state : TaskState
  logPath : Path
  createdAt : DateTime
  startedAt : Option DateTime
  finishedAt : Option DateTime
  pid : Value
  exitCode : Value
  error : Value
  correlationId : Value
  progress : TaskProgress
  result : List (Value × Value)
  metadata : List (Value × Value)

/-- Progress that has not begun. -/
def TaskProgress.empty : TaskProgress := ⟨.none, .none, .none, .none, .none, .none⟩

/-- Progress as a dictionary. -/
def TaskProgress.asDict (progress : TaskProgress) : Value :=
  .dict [(.str "percent", progress.percent), (.str "bytes_done", progress.bytesDone),
    (.str "bytes_total", progress.bytesTotal), (.str "rate_bps", progress.rateBps),
    (.str "eta_seconds", progress.etaSeconds), (.str "message", progress.message)]

/-- Progress read from a value, which counts as none where it is false. -/
def TaskProgress.fromDict (data : Value) : Except PyError TaskProgress :=
  if !data.truthy then .ok .empty
  else
    match data with
    | .dict entries =>
      .ok ⟨Value.get entries "percent", Value.get entries "bytes_done",
        Value.get entries "bytes_total", Value.get entries "rate_bps",
        Value.get entries "eta_seconds", Value.get entries "message"⟩
    | _ => .error .attributeError

/-- The date of a value, if it is not false. -/
def parseDt (texts : Texts) (value : Value) : Except PyError (Option DateTime) :=
  if !value.truthy then .ok none
  else
    match texts.fromisoformat (texts.str value) with
    | some date => .ok (some date)
    | none => .error .valueError

/-- The path of a value, which must be a text. -/
def toPath : Value → Except PyError Path
  | .str text => .ok (.parse text)
  | _ => .error .typeError

/-- A dictionary made of a value, empty where the value is false. -/
def toDictOrEmpty (value : Value) : Except PyError (List (Value × Value)) :=
  if value.truthy then value.toDict else .ok []

namespace Task

/-- The seconds a task took, to the millisecond, up to now where it is not finished. -/
def durationSeconds (task : Task) (now : DateTime) : Except PyError Value :=
  match task.startedAt with
  | none => .ok .none
  | some startedAt => do
    let elapsed ← (task.finishedAt.getD now).sub startedAt
    .ok (.float (.finite (roundHalfEven ((elapsed : ℚ) / 1000) / 1000)))

/-- A date that may be missing, as it is written. -/
def dateText (texts : Texts) : Option DateTime → Value
  | none => .none
  | some date => .str (texts.isoformat date)

/-- A task as a dictionary. -/
def asDict (texts : Texts) (now : DateTime) (task : Task) : Except PyError Value := do
  let duration ← task.durationSeconds now
  .ok (.dict [(.str "id", .str task.id), (.str "kind", .str task.kind.value),
    (.str "state", .str task.state.value), (.str "log_path", .str task.logPath.str),
    (.str "created_at", .str (texts.isoformat task.createdAt)),
    (.str "started_at", dateText texts task.startedAt),
    (.str "finished_at", dateText texts task.finishedAt), (.str "duration_seconds", duration),
    (.str "pid", task.pid), (.str "exit_code", task.exitCode), (.str "error", task.error),
    (.str "correlation_id", task.correlationId), (.str "progress", task.progress.asDict),
    (.str "result", .dict task.result), (.str "meta", .dict task.metadata)])

/-- The entries of a value that has a method to get them. -/
def entriesOf : Value → Except PyError (List (Value × Value))
  | .dict entries => .ok entries
  | _ => .error .attributeError

/-- A task read from a value. -/
def fromDict (texts : Texts) (now : DateTime) (data : Value) : Except PyError Task := do
  let entries ← entriesOf data
  let createdAt ← parseDt texts (Value.get entries "created_at")
  let id ← Value.item entries "id"
  let kind ← Value.item entries "kind" >>= TaskKind.ofValue
  let state ← Value.item entries "state" >>= TaskState.ofValue
  let logPath ← Value.item entries "log_path" >>= toPath
  let startedAt ← parseDt texts (Value.get entries "started_at")
  let finishedAt ← parseDt texts (Value.get entries "finished_at")
  let progress ← TaskProgress.fromDict (Value.get entries "progress")
  let result ← toDictOrEmpty (Value.get entries "result")
  let metadata ← toDictOrEmpty (Value.get entries "meta")
  .ok { id := texts.str id, kind, state, logPath, createdAt := createdAt.getD now, startedAt,
        finishedAt, pid := Value.get entries "pid", exitCode := Value.get entries "exit_code",
        error := Value.get entries "error",
        correlationId := Value.get entries "correlation_id", progress, result, metadata }

end Task

/-! ## Reading back what was written -/

variable {texts : Texts} {now later : DateTime} {task : Task}

/-- A date that may be missing is read back. -/
theorem parseDt_dateText (date : Option DateTime) :
    parseDt texts (Task.dateText texts date) = .ok date := by
  cases date with
  | none => rfl
  | some date =>
    have filled : (Value.str (texts.isoformat date)).truthy = true :=
      bne_iff_ne.mpr (texts.isoformat_ne date)
    unfold parseDt Task.dateText
    simp only [filled, texts.str_text, texts.fromisoformat_isoformat, Bool.not_true,
      Bool.false_eq_true, if_false]

/-- A dictionary is taken as it is. -/
theorem toDictOrEmpty_dict (entries : List (Value × Value)) :
    toDictOrEmpty (.dict entries) = .ok entries := by
  unfold toDictOrEmpty
  cases entries with
  | nil => rfl
  | cons entry rest => rfl

/-- Progress is read back. -/
theorem TaskProgress.fromDict_asDict (progress : TaskProgress) :
    TaskProgress.fromDict progress.asDict = .ok progress := rfl

namespace Task

/-- A task that is written is read back. -/
theorem fromDict_asDict {data : Value} (written : task.asDict texts now = .ok data) :
    fromDict texts later data = .ok task := by
  obtain ⟨duration, -, built⟩ := bind_eq_ok.mp written
  obtain rfl := Except.ok.inj built
  have created := @parseDt_dateText texts (some task.createdAt)
  have path : toPath (.str task.logPath.str) = .ok task.logPath :=
    congrArg Except.ok (Path.parse_str _)
  unfold dateText at created
  simp [fromDict, entriesOf, Value.get, Value.item, Value.find, Value.sameKey, created, path,
    parseDt_dateText, toDictOrEmpty_dict, TaskProgress.fromDict_asDict, texts.str_text, bind,
    Except.bind]

/-- A task is written when its start and its end, or now, both have offsets or neither. -/
theorem asDict_ok_iff :
    (∃ data, task.asDict texts now = .ok data) ↔
      ∀ startedAt, task.startedAt = some startedAt →
        (task.finishedAt.getD now).aware = startedAt.aware := by
  constructor
  · rintro ⟨data, written⟩ startedAt started
    obtain ⟨duration, computed, -⟩ := bind_eq_ok.mp written
    unfold durationSeconds at computed
    rw [started] at computed
    obtain ⟨elapsed, subtracted, -⟩ := bind_eq_ok.mp computed
    exact DateTime.sub_ok_iff.mp ⟨elapsed, subtracted⟩
  · intro alike
    unfold asDict durationSeconds
    cases started : task.startedAt with
    | none => exact ⟨_, rfl⟩
    | some startedAt =>
      obtain ⟨elapsed, subtracted⟩ := DateTime.sub_ok_iff.mpr (alike startedAt started)
      simp only [subtracted]
      exact ⟨_, rfl⟩

end Task

end ProxSync.Agent
