import ProxSync.Agent.Task
import ProxSync.Lib.OrderedDict
/-!
# The task journal

When the agent starts it lists the files of its journal and reads one after the other. It ignores
the files it cannot read, and turns the tasks that were not finished into interrupted ones, which it
writes to the file named after their id: this may be a file that is still to be read. Then it drops
the old finished tasks. Reading expects the errors of the file system, of a value and of a missing
key. A record of another shape raises others, a date without an offset cannot be compared with the
clock, and an error while a failed write is cleaned up is not expected, so each of them stops the
start.
-/
open ProxSync.Lib

namespace ProxSync.Agent

/-- A file of the journal: its name, what reading and decoding it gives, and the instant it is read
at. -/
structure JournalFile where
  name : String
  content : Except PyError Value
  instant : ℤ

/-- What the file system answers to the operations on the file of a task. -/
structure Disk where
  writeText : String → Except PyError Unit
  mkdir : Except PyError Unit
  /-- The second write, after the directory was made. -/
  rewriteText : String → Except PyError Unit
  replace : String → Except PyError Unit
  /-- The removal of the temporary file. -/
  unlinkTemporary : String → Except PyError Unit
  unlink : String → Except PyError Unit
  /-- Whether a path that is not the name of a file leads to it, by its slashes or by a link. -/
  leadsTo : String → String → Bool
  /-- What reading and decoding a file gives that a value was written to. -/
  reread : Value → Except PyError Value

/-- The loaded tasks by their ids. -/
abbrev Tasks := OrderedDict String Task

namespace TaskRegistry

/-- The errors that make a file unreadable. -/
def expected (error : PyError) : Bool :=
  error.isOSError || error = .valueError || error = .keyError

/-- Write the text of a task in place of its file. -/
def replaceFile (disk : Disk) (id : String) : Except PyError Unit := do
  match disk.writeText id with
  | .error .fileNotFoundError => do
    disk.mkdir
    disk.rewriteText id
  | written => written
  disk.replace id

/-- Write the file of a task, and say what it holds then; a failure of the file system is logged. -/
def persist (texts : Texts) (disk : Disk) (now : DateTime) (task : Task) :
    Except PyError (Option Value) := do
  let payload ← task.asDict texts now
  match replaceFile disk task.id with
  | .ok () => .ok (some payload)
  | .error raised =>
    if raised.isOSError then do
      disk.unlinkTemporary task.id
      .ok none
    else .error raised

/-- What is recorded of a task whose outcome is unknown. -/
def restartError : String :=
  "The agent restarted while this task was running; its outcome is unknown. Inspect the task " ++
    "log and the backup storage before retrying."

/-- A task as it is kept, interrupted unless it is finished. -/
def reconcile (now : DateTime) (task : Task) : Task :=
  if task.state.isTerminal then task
  else { task with
    state := .interrupted
    finishedAt := some now
    error := .str restartError }

/-- The task of a file. -/
def decode (texts : Texts) (file : JournalFile) : Except PyError Task :=
  file.content >>= Task.fromDict texts (.utc file.instant)

/-- The path of the file of a task, from the directory of the journal. -/
def journalPath (id : String) : String := id ++ ".json"

/-- A file as it is after values were written to paths, the newest first. -/
def current (disk : Disk) (written : List (String × Value)) (file : JournalFile) : JournalFile :=
  match written.find? fun entry => entry.1 == file.name || disk.leadsTo entry.1 file.name with
  | some (_, payload) => { file with content := disk.reread payload }
  | none => file

/-- What loading did so far: the tasks it keeps, and the values it wrote to paths, newest first. -/
structure Loading where
  tasks : Tasks
  written : List (String × Value)

/-- Load the task of one of the listed files, unless it cannot be read. -/
def loadFile (texts : Texts) (disk : Disk) (loading : Loading) (listed : JournalFile) :
    Except PyError Loading :=
  let file := current disk loading.written listed
  match decode texts file with
  | .error raised => if expected raised then .ok loading else .error raised
  | .ok task => do
    let kept := reconcile (.utc file.instant) task
    let payload ←
      if task.state.isTerminal then .ok none
      else persist texts disk (.utc file.instant) kept
    .ok
      { tasks := OrderedDict.assign loading.tasks kept.id kept
        written := (payload.map (Prod.mk (journalPath kept.id))).toList ++ loading.written }

/-- Load the journal. -/
def load (texts : Texts) (disk : Disk) (files : List JournalFile) : Except PyError Tasks := do
  let loading ← files.foldlM (loadFile texts disk) ⟨∅, []⟩
  .ok loading.tasks

/-- The date a finished task is kept from. -/
def reference (task : Task) : DateTime := task.finishedAt.getD task.createdAt

/-- Drop one task if it is finished and old. -/
def pruneTask (disk : Disk) (cutoff : DateTime) (tasks : Tasks)
    (entry : Sigma fun _ : String => Task) :
    Except PyError Tasks :=
  if entry.2.state.isTerminal then do
    let old ← (reference entry.2).lt cutoff
    if old then do
      disk.unlink entry.1
      .ok (tasks.erase entry.1)
    else .ok tasks
  else .ok tasks

/-- Drop the finished tasks older than the retention window, in microseconds. -/
def prune (disk : Disk) (retention : Nat) (now : ℤ) (tasks : Tasks) : Except PyError Tasks :=
  tasks.entries.reverse.foldlM (pruneTask disk (.utc (now - retention))) tasks

end TaskRegistry

/-! ## Shapes of records -/

/-- Whether a value is read as a date or counts as none. -/
def dated (texts : Texts) (value : Value) : Bool :=
  !value.truthy || (texts.fromisoformat (texts.str value)).isSome

/-- Whether a value is there that is the text of a member of an enumeration. -/
def names {α : Type} (members : List α) (written : α → String) : Option Value → Bool
  | some (.str text) => members.any fun member => written member == text
  | _ => false

/-- Whether a value counts as true without being a dictionary. -/
def notProgress (value : Value) : Bool :=
  value.truthy && match value with
    | .dict _ => false
    | _ => true

/-- Whether making a dictionary of a value that counts as true raises a type error. -/
def unpairable (value : Value) : Bool :=
  value.truthy && match value.toDict with
    | .error raised => raised = .typeError
    | .ok _ => false

/-- Whether a dictionary can be made of a value, or it counts as false. -/
def pairable (value : Value) : Bool :=
  !value.truthy || match value.toDict with
    | .error _ => false
    | .ok _ => true

/-- Whether the entries of a record have a shape whose error is not expected: the fields before are
well formed, and the path is no text, the progress no dictionary, or the result or the metadata not
made of pairs. -/
def misshapenEntries (texts : Texts) (entries : List (Value × Value)) : Bool :=
  dated texts (Value.get entries "created_at") && (Value.find entries "id").isSome &&
    names TaskKind.members TaskKind.value (Value.find entries "kind") &&
    names TaskState.members TaskState.value (Value.find entries "state") &&
    match Value.find entries "log_path" with
    | none => false
    | some (.str _) =>
      dated texts (Value.get entries "started_at") &&
        dated texts (Value.get entries "finished_at") &&
        (notProgress (Value.get entries "progress") || unpairable (Value.get entries "result") ||
          (pairable (Value.get entries "result") && unpairable (Value.get entries "meta")))
    | some _ => true

/-- Whether a file cannot be read with an error that is not expected: the file nests too deeply, the
record is no dictionary, or its entries are misshapen. -/
def misshapen (texts : Texts) (file : JournalFile) : Bool :=
  match file.content with
  | .error raised => !TaskRegistry.expected raised
  | .ok (.dict entries) => misshapenEntries texts entries
  | .ok _ => true

/-- Whether an error is raised that is not expected. -/
def escapes {α : Type} : Except PyError α → Bool
  | .error raised => !TaskRegistry.expected raised
  | .ok _ => false

section Shapes

variable {texts : Texts} {entries : List (Value × Value)} {value : Value}

/-- A sequence escapes with its first part, or with the part that follows. -/
theorem escapes_bind {α β : Type} (first : Except PyError α) (next : α → Except PyError β) :
    escapes (first >>= next) =
      match first with
      | .error raised => !TaskRegistry.expected raised
      | .ok value => escapes (next value) := by
  cases first <;> rfl

/-- A date is read, or the value is not one. -/
theorem parseDt_cases :
    (dated texts value = true ∧ ∃ date, parseDt texts value = .ok date) ∨
      (dated texts value = false ∧ parseDt texts value = .error .valueError) := by
  unfold dated parseDt
  cases value.truthy with
  | false => exact .inl ⟨rfl, none, rfl⟩
  | true =>
    cases texts.fromisoformat (texts.str value) with
    | none => exact .inr ⟨rfl, rfl⟩
    | some date => exact .inl ⟨rfl, some date, rfl⟩

/-- A member of an enumeration is read from its text, and anything else is an expected error. -/
theorem memberOf_cases {α : Type} {members : List α} {written : α → String}
    {ofValue : Value → Except PyError α} (reads : ofValue = memberOf members written)
    (key : String) :
    (names members written (Value.find entries key) = true ∧
      ∃ member, Value.item entries key >>= ofValue = .ok member) ∨
    (names members written (Value.find entries key) = false ∧
      ∃ raised, Value.item entries key >>= ofValue = .error raised ∧
        TaskRegistry.expected raised = true) := by
  subst reads
  unfold Value.item
  cases Value.find entries key with
  | none => exact .inr ⟨rfl, .keyError, rfl, rfl⟩
  | some value =>
    cases value with
    | str text =>
      show (members.any _ = true ∧ ∃ member, memberOf members written (.str text) = .ok member) ∨
        (members.any _ = false ∧ ∃ raised, memberOf members written (.str text) = .error raised ∧
          TaskRegistry.expected raised = true)
      simp only [memberOf]
      cases found : members.find? fun member => written member == text with
      | none =>
        refine .inr ⟨?_, .valueError, rfl, rfl⟩
        exact List.any_eq_false.mpr fun member inside =>
          List.find?_eq_none.mp found member inside
      | some member =>
        refine .inl ⟨?_, member, rfl⟩
        have named : (written member == text) = true :=
          @List.find?_some _ (fun member => written member == text) _ _ found
        exact List.any_eq_true.mpr ⟨member, List.mem_of_find?_eq_some found, named⟩
    | _ => exact .inr ⟨rfl, .valueError, rfl, rfl⟩

/-- Progress is read unless the value is no dictionary. -/
theorem progress_cases :
    (notProgress value = false ∧ ∃ progress, TaskProgress.fromDict value = .ok progress) ∨
      (notProgress value = true ∧ TaskProgress.fromDict value = .error .attributeError) := by
  unfold notProgress TaskProgress.fromDict
  cases value.truthy with
  | false => exact .inl ⟨rfl, _, rfl⟩
  | true =>
    cases value with
    | dict entries => exact .inl ⟨rfl, _, rfl⟩
    | _ => exact .inr ⟨rfl, rfl⟩

/-- A dictionary is made of a value, or an error is raised, an expected one unless the value is
unpairable. -/
theorem toDictOrEmpty_cases :
    (pairable value = true ∧ unpairable value = false ∧
      ∃ made, toDictOrEmpty value = .ok made) ∨
    (pairable value = false ∧
      ∃ raised, toDictOrEmpty value = .error raised ∧
        unpairable value = !TaskRegistry.expected raised) := by
  unfold pairable unpairable toDictOrEmpty
  cases value.truthy with
  | false => exact .inl ⟨rfl, rfl, [], rfl⟩
  | true =>
    cases made : value.toDict with
    | ok entries => exact .inl ⟨rfl, rfl, entries, rfl⟩
    | error raised =>
      refine .inr ⟨rfl, raised, rfl, ?_⟩
      rcases Value.toDict_error made with rfl | rfl
      · rfl
      · rfl

/-- The fields after the path. -/
theorem escapes_rest {build : Option DateTime → Option DateTime → TaskProgress →
      List (Value × Value) → List (Value × Value) → Task} :
    escapes (do
      let startedAt ← parseDt texts (Value.get entries "started_at")
      let finishedAt ← parseDt texts (Value.get entries "finished_at")
      let progress ← TaskProgress.fromDict (Value.get entries "progress")
      let result ← toDictOrEmpty (Value.get entries "result")
      let metadata ← toDictOrEmpty (Value.get entries "meta")
      .ok (build startedAt finishedAt progress result metadata)) =
    (dated texts (Value.get entries "started_at") &&
      dated texts (Value.get entries "finished_at") &&
      (notProgress (Value.get entries "progress") || unpairable (Value.get entries "result") ||
        (pairable (Value.get entries "result") && unpairable (Value.get entries "meta")))) := by
  simp only [escapes_bind]
  rcases @parseDt_cases texts (Value.get entries "started_at") with
    ⟨dated, started, read⟩ | ⟨dated, read⟩
  · simp only [read, dated, Bool.true_and]
    rcases @parseDt_cases texts (Value.get entries "finished_at") with
      ⟨dated, finished, read⟩ | ⟨dated, read⟩
    · simp only [read, dated, Bool.true_and]
      rcases @progress_cases (Value.get entries "progress") with
        ⟨shaped, progress, read⟩ | ⟨shaped, read⟩
      · simp only [read, shaped, Bool.false_or]
        rcases @toDictOrEmpty_cases (Value.get entries "result") with
          ⟨paired, typed, made, read⟩ | ⟨paired, raised, read, typed⟩
        · simp only [read, paired, typed, Bool.false_or, Bool.true_and]
          rcases @toDictOrEmpty_cases (Value.get entries "meta") with
            ⟨-, typed, made, read⟩ | ⟨-, raised, read, typed⟩
          · simp only [read, typed]
            rfl
          · simp only [read, typed]
        · simp only [read, paired, typed, Bool.false_and, Bool.or_false]
      · simp only [read, shaped, Bool.true_or]
        rfl
    · simp only [read, dated, Bool.false_and]
      rfl
  · simp only [read, dated, Bool.false_and]
    rfl

/-- What a record raises is not expected exactly when its entries are misshapen. -/
theorem escapes_fromDict (now : DateTime) :
    escapes (Task.fromDict texts now (.dict entries)) = misshapenEntries texts entries := by
  unfold misshapenEntries Task.fromDict
  rw [show Task.entriesOf (.dict entries) = .ok entries from rfl, escapes_bind]
  simp only
  rw [escapes_bind]
  rcases @parseDt_cases texts (Value.get entries "created_at") with
    ⟨dated, created, read⟩ | ⟨dated, read⟩
  · simp only [read, dated, Bool.true_and]
    rw [escapes_bind]
    cases identified : Value.find entries "id" with
    | none =>
      rw [Value.item_none identified]
      rfl
    | some id =>
      rw [Value.item_some identified]
      simp only [Option.isSome_some, Bool.true_and]
      rw [escapes_bind]
      rcases @memberOf_cases entries _ _ _ TaskKind.ofValue rfl "kind" with
        ⟨named, kind, read⟩ | ⟨named, raised, read, known⟩
      · simp only [read, named, Bool.true_and]
        rw [escapes_bind]
        rcases @memberOf_cases entries _ _ _ TaskState.ofValue rfl "state" with
          ⟨named, state, read⟩ | ⟨named, raised, read, known⟩
        · simp only [read, named, Bool.true_and]
          rw [escapes_bind]
          cases located : Value.find entries "log_path" with
          | none =>
            rw [Value.item_none located]
            rfl
          | some path =>
            rw [Value.item_some located]
            cases path with
            | str text => exact escapes_rest
            | _ => rfl
        · simp only [read, named, known, Bool.false_and, Bool.not_true]
      · simp only [read, named, known, Bool.false_and, Bool.not_true]
  · simp only [read, dated, Bool.false_and]
    rfl

end Shapes

variable {texts : Texts} {disk : Disk} {file : JournalFile} {files : List JournalFile}
variable {tasks after : Tasks} {task : Task} {retention : Nat} {now : ℤ}
variable {loading loaded : TaskRegistry.Loading} {written : List (String × Value)}

/-- What reading a file raises is not expected exactly when the file is misshapen. -/
theorem escapes_decode : escapes (TaskRegistry.decode texts file) = misshapen texts file := by
  unfold TaskRegistry.decode misshapen
  rw [escapes_bind]
  cases file.content with
  | error raised => rfl
  | ok value =>
    cases value with
    | dict entries => exact escapes_fromDict _
    | _ => rfl

namespace TaskRegistry

/-! ## What loading and pruning need -/

/-- Whether the file of a task can be replaced, or fails with an error of the file system and leaves
nothing that cannot be removed. -/
def rewritable (disk : Disk) (id : String) : Bool :=
  match replaceFile disk id with
  | .ok _ => true
  | .error raised => raised.isOSError && (disk.unlinkTemporary id).toBool

/-- The record of a file, if it is not finished, started at a date with an offset and has a file
that can be replaced. -/
def Resumes (texts : Texts) (disk : Disk) (file : JournalFile) : Prop :=
  ∀ task, decode texts file = .ok task → task.state.isTerminal = false →
    (∀ startedAt, task.startedAt = some startedAt → startedAt.aware = true) ∧
      rewritable disk task.id = true

/-- The tasks with the one of a file. -/
def keep (texts : Texts) (tasks : Tasks) (file : JournalFile) : Tasks :=
  match decode texts file with
  | .ok task => OrderedDict.assign tasks task.id (reconcile (.utc file.instant) task)
  | .error _ => tasks

/-- What loading a file writes, if its task is not finished and its file is replaced. -/
def rewrites (texts : Texts) (disk : Disk) (file : JournalFile) : List (String × Value) :=
  match decode texts file with
  | .error _ => []
  | .ok task =>
    if task.state.isTerminal then []
    else
      match persist texts disk (.utc file.instant) (reconcile (.utc file.instant) task) with
      | .ok (some payload) => [(journalPath task.id, payload)]
      | .ok none | .error _ => []

/-- The listed files as each of them is when its turn comes, after some values were written. -/
def asRead (texts : Texts) (disk : Disk) :
    List (String × Value) → List JournalFile → List JournalFile
  | _, [] => []
  | written, listed :: rest =>
    let file := current disk written listed
    file :: asRead texts disk (rewrites texts disk file ++ written) rest

/-- A kept task has the id of its record. -/
@[simp] theorem reconcile_id (date : DateTime) : (reconcile date task).id = task.id := by
  unfold reconcile
  split <;> rfl

/-- An answer without a value is true when nothing is raised. -/
theorem toBool_unit {answer : Except PyError Unit} : answer.toBool = true ↔ answer = .ok () := by
  cases answer with
  | error raised => exact ⟨fun said => (by cases said), fun same => (by cases same)⟩
  | ok done => exact ⟨fun _ => rfl, fun _ => rfl⟩

/-- A task is written, or its failed write cleaned up, when it is a dictionary and its file is
rewritable. -/
theorem persist_ok_iff (date : DateTime) :
    (∃ payload, persist texts disk date task = .ok payload) ↔
      (∃ data, task.asDict texts date = .ok data) ∧ rewritable disk task.id = true := by
  unfold persist rewritable
  cases task.asDict texts date with
  | error raised =>
    constructor
    · rintro ⟨payload, written⟩
      cases written
    · rintro ⟨⟨data, written⟩, -⟩
      cases written
  | ok data =>
    have there : ∃ other, Except.ok data = (.ok other : Except PyError Value) := ⟨data, rfl⟩
    cases replaced : replaceFile disk task.id with
    | ok done => exact ⟨fun _ => ⟨there, rfl⟩, fun _ => ⟨some data, rfl⟩⟩
    | error raised =>
      cases system : raised.isOSError with
      | false =>
        constructor
        · rintro ⟨payload, written⟩
          simp [bind, Except.bind, system] at written
        · rintro ⟨-, cleaned⟩
          simp [system] at cleaned
      | true =>
        simp only [bind, Except.bind, system, if_true, Bool.true_and, toBool_unit]
        constructor
        · rintro ⟨payload, cleaned⟩
          obtain ⟨⟨⟩, removed, -⟩ := bind_eq_ok.mp cleaned
          exact ⟨there, removed⟩
        · rintro ⟨-, removed⟩
          rw [removed]
          exact ⟨none, rfl⟩

/-- A task that was not finished is written as an interrupted one when it started at a date with an
offset and its file is rewritable. -/
theorem persist_reconcile_ok_iff (open' : task.state.isTerminal = false) (instant : ℤ) :
    (∃ payload, persist texts disk (.utc instant) (reconcile (.utc instant) task) = .ok payload) ↔
      (∀ startedAt, task.startedAt = some startedAt → startedAt.aware = true) ∧
        rewritable disk task.id = true := by
  rw [persist_ok_iff, reconcile_id, Task.asDict_ok_iff]
  unfold reconcile
  rw [open']
  simp only [Bool.false_eq_true, if_false, Option.getD_some]
  constructor
  · rintro ⟨alike, written⟩
    exact ⟨fun startedAt started => (alike startedAt started).symm, written⟩
  · rintro ⟨aware, written⟩
    exact ⟨fun startedAt started => (aware startedAt started).symm, written⟩

/-- A file is loaded when, as it is when its turn comes, it is not misshapen and its task
resumes. -/
theorem loadFile_ok_iff {listed : JournalFile} (now : current disk loading.written listed = file) :
    loadFile texts disk loading listed = .ok loaded ↔
      (misshapen texts file = false ∧ Resumes texts disk file) ∧
        loaded = ⟨keep texts loading.tasks file, rewrites texts disk file ++ loading.written⟩ := by
  rw [← escapes_decode]
  unfold loadFile keep Resumes rewrites
  rw [now]
  simp only
  cases decoded : decode texts file with
  | error raised =>
    simp only [escapes, Bool.not_eq_false', List.nil_append]
    cases known : expected raised with
    | true =>
      simp only [if_true, Except.ok.injEq, true_and]
      constructor
      · intro same
        exact ⟨fun _ absent => (by cases absent), same.symm⟩
      · rintro ⟨-, same⟩
        exact same.symm
    | false => simp
  | ok task =>
    simp only [escapes, Except.ok.injEq, forall_eq', true_and, reconcile_id]
    cases finished : task.state.isTerminal with
    | true =>
      simp only [if_true]
      constructor
      · intro same
        exact ⟨fun open' => (by cases open'), (Except.ok.inj same).symm⟩
      · rintro ⟨-, rfl⟩
        rfl
    | false =>
      simp only [Bool.false_eq_true, if_false, forall_const]
      rw [← persist_reconcile_ok_iff finished]
      cases written : persist texts disk (.utc file.instant)
          (reconcile (.utc file.instant) task) with
      | error raised => simp [bind, Except.bind]
      | ok payload =>
        cases payload with
        | none => simp [bind, Except.bind, eq_comm]
        | some payload => simp [bind, Except.bind, eq_comm]

/-- The files of a journal are loaded when each of them is. -/
theorem foldlM_ok_iff :
    (∃ later, files.foldlM (loadFile texts disk) loading = .ok ⟨tasks, later⟩) ↔
      (∀ file ∈ asRead texts disk loading.written files,
        misshapen texts file = false ∧ Resumes texts disk file) ∧
      tasks = (asRead texts disk loading.written files).foldl (keep texts) loading.tasks := by
  induction files generalizing loading with
  | nil =>
    obtain ⟨before, written⟩ := loading
    constructor
    · rintro ⟨later, same⟩
      cases Except.ok.inj same
      exact ⟨fun _ inside => absurd inside List.not_mem_nil, rfl⟩
    · rintro ⟨-, rfl⟩
      exact ⟨written, rfl⟩
  | cons first rest ih =>
    simp only [asRead, List.foldlM_cons, List.foldl_cons, List.forall_mem_cons, and_assoc]
    constructor
    · rintro ⟨later, folded⟩
      obtain ⟨middle, read, remaining⟩ := bind_eq_ok.mp folded
      obtain ⟨⟨shaped, resumes⟩, rfl⟩ := (loadFile_ok_iff rfl).mp read
      obtain ⟨each, last⟩ := ih.mp ⟨later, remaining⟩
      exact ⟨shaped, resumes, each, last⟩
    · rintro ⟨shaped, resumes, each, last⟩
      obtain ⟨later, remaining⟩ := (@ih ⟨_, _⟩).mpr ⟨each, last⟩
      exact ⟨later, bind_eq_ok.mpr
        ⟨_, (loadFile_ok_iff rfl).mpr ⟨⟨shaped, resumes⟩, rfl⟩, remaining⟩⟩

/-- The journal is loaded when each of its files is. -/
theorem load_ok_iff :
    load texts disk files = .ok tasks ↔
      (∀ file ∈ asRead texts disk [] files,
        misshapen texts file = false ∧ Resumes texts disk file) ∧
      tasks = (asRead texts disk [] files).foldl (keep texts) ∅ := by
  rw [← @foldlM_ok_iff texts disk files tasks ⟨∅, []⟩]
  constructor
  · intro complete
    obtain ⟨⟨kept, later⟩, folded, same⟩ := bind_eq_ok.mp complete
    obtain rfl := Except.ok.inj same
    exact ⟨later, folded⟩
  · rintro ⟨later, folded⟩
    exact bind_eq_ok.mpr ⟨_, folded, rfl⟩

/-- Whether a task can be compared with the clock and dropped if it is old. -/
def Prunes (disk : Disk) (cutoff : DateTime) (id : String) (task : Task) : Prop :=
  task.state.isTerminal = true → (reference task).aware = true ∧
    ((reference task).lt cutoff = .ok true → disk.unlink id = .ok ())

/-- The tasks without one that is finished and old. -/
def dropOld (cutoff : DateTime) (tasks : Tasks) (entry : Sigma fun _ : String => Task) : Tasks :=
  if entry.2.state.isTerminal && ((reference entry.2).lt cutoff).toOption == some true then
    tasks.erase entry.1
  else tasks

/-- A date is compared with an instant exactly when it has an offset. -/
theorem lt_utc_ok_iff {date : DateTime} {instant : ℤ} :
    (∃ earlier, date.lt (.utc instant) = .ok earlier) ↔ date.aware = true := by
  have subtracts := @DateTime.sub_ok_iff (.utc instant) date
  rw [show (DateTime.utc instant).aware = true from rfl] at subtracts
  rw [eq_comm, ← subtracts]
  unfold DateTime.lt
  constructor
  · rintro ⟨earlier, compared⟩
    obtain ⟨distance, subtracted, -⟩ := bind_eq_ok.mp compared
    exact ⟨distance, subtracted⟩
  · rintro ⟨distance, subtracted⟩
    exact ⟨_, bind_eq_ok.mpr ⟨distance, subtracted, rfl⟩⟩

/-- A task is passed over or dropped. -/
theorem pruneTask_ok_iff {entry : Sigma fun _ : String => Task} {instant : ℤ} :
    pruneTask disk (.utc instant) tasks entry = .ok after ↔
      Prunes disk (.utc instant) entry.1 entry.2 ∧ after = dropOld (.utc instant) tasks entry := by
  unfold pruneTask Prunes dropOld
  cases finished : entry.2.state.isTerminal with
  | false =>
    constructor
    · intro same
      exact ⟨fun there => (by cases there), (Except.ok.inj same).symm⟩
    · rintro ⟨-, rfl⟩
      rfl
  | true =>
    rw [← @lt_utc_ok_iff _ instant]
    cases compared : (reference entry.2).lt (.utc instant) with
    | error raised => simp [bind, Except.bind]
    | ok old =>
      have compares : ∃ earlier, (Except.ok old : Except PyError Bool) = .ok earlier := ⟨old, rfl⟩
      cases old with
      | false =>
        constructor
        · intro same
          exact ⟨fun _ => ⟨compares, fun earlier => (by cases earlier)⟩,
            (Except.ok.inj same).symm⟩
        · rintro ⟨-, rfl⟩
          rfl
      | true =>
        cases disk.unlink entry.1 with
        | error raised => simp [bind, Except.bind]
        | ok done =>
          constructor
          · intro same
            exact ⟨fun _ => ⟨compares, fun _ => rfl⟩, (Except.ok.inj same).symm⟩
          · rintro ⟨-, rfl⟩
            rfl

/-- The tasks are pruned when each of them can be. -/
theorem prune_ok_iff :
    (∃ left, prune disk retention now tasks = .ok left) ↔
      ∀ entry ∈ tasks.entries, Prunes disk (.utc (now - retention)) entry.1 entry.2 := by
  have answers := fun result => @foldlM_eq_ok _ _ _ (pruneTask disk (.utc (now - retention)))
    (fun entry => Prunes disk (.utc (now - retention)) entry.1 entry.2)
    (dropOld (.utc (now - retention))) (fun _ _ _ => pruneTask_ok_iff) tasks.entries.reverse tasks
    result
  constructor
  · rintro ⟨left, pruned⟩ entry inside
    exact ((answers left).mp pruned).1 entry (List.mem_reverse.mpr inside)
  · intro all
    exact ⟨_, (answers _).mpr ⟨fun entry inside => all entry (List.mem_reverse.mp inside), rfl⟩⟩

/-! ## Which tasks are loaded -/

/-- The tasks of the readable files, as they are kept. -/
def records (texts : Texts) (files : List JournalFile) : List Task :=
  files.filterMap fun file =>
    (decode texts file).toOption.map (reconcile (.utc file.instant))

/-- The last task with an id. -/
def lastOf (id : String) (tasks : List Task) : Option Task :=
  tasks.reverse.find? fun task => task.id == id

/-- The tasks of the readable files are those that are decoded from one. -/
theorem mem_records : task ∈ records texts files ↔
    ∃ file ∈ files, ∃ read, decode texts file = .ok read ∧
      task = reconcile (.utc file.instant) read := by
  unfold records
  rw [List.mem_filterMap]
  constructor
  · rintro ⟨file, inside, kept⟩
    cases decoded : decode texts file with
    | error raised =>
      rw [decoded] at kept
      cases kept
    | ok read =>
      rw [decoded] at kept
      exact ⟨file, inside, read, decoded, (Option.some.inj kept).symm⟩
  · rintro ⟨file, inside, read, decoded, rfl⟩
    refine ⟨file, inside, ?_⟩
    rw [decoded]
    rfl

/-- The last task with an id has it. -/
theorem lastOf_id {id : String} {tasks : List Task} (found : lastOf id tasks = some task) :
    task.id = id := by
  unfold lastOf at found
  have same := List.find?_some found
  exact beq_iff_eq.mp same

/-- A task that is the only one with its id is the last one with it. -/
theorem lastOf_of_unique {tasks : List Task} (inside : task ∈ tasks)
    (unique : ∀ other ∈ tasks, other.id = task.id → other = task) :
    lastOf task.id tasks = some task := by
  cases found : lastOf task.id tasks with
  | none =>
    have differs := List.find?_eq_none.mp found task (List.mem_reverse.mpr inside)
    exact absurd (beq_self_eq_true _) differs
  | some other =>
    have there : other ∈ tasks := List.mem_reverse.mp (List.mem_of_find?_eq_some found)
    rw [unique other there (lastOf_id found)]

/-- The loaded task of an id is the one of the last file with it, or was there before. -/
theorem lookup_foldl_keep {id : String} :
    (files.foldl (keep texts) tasks).lookup id =
      (lastOf id (records texts files)).or (tasks.lookup id) := by
  induction files generalizing tasks with
  | nil => rfl
  | cons first rest ih =>
    rw [List.foldl_cons, ih]
    unfold records lastOf keep
    rw [List.filterMap_cons]
    cases decoded : decode texts first with
    | error raised => rfl
    | ok read =>
      simp only [Except.toOption, Option.map_some, List.reverse_cons, List.find?_append,
        Option.or_assoc]
      congr 1
      by_cases same : read.id = id
      · subst same
        rw [OrderedDict.lookup_assign]
        simp
      · rw [OrderedDict.lookup_assign_ne (Ne.symm same)]
        simp [same]

/-- What loading a file writes goes to the path of its record. -/
theorem path_of_mem_rewrites {entry : String × Value} (wrote : entry ∈ rewrites texts disk file) :
    ∃ task, decode texts file = .ok task ∧ entry.1 = journalPath task.id := by
  unfold rewrites at wrote
  split at wrote
  · cases wrote
  · rename_i task decoded
    split at wrote
    · cases wrote
    · split at wrote
      · rw [List.mem_singleton.mp wrote]
        exact ⟨task, decoded, rfl⟩
      · cases wrote
      · cases wrote

/-- A file that no written path leads to is as it was listed. -/
theorem current_eq_self
    (apart : ∀ entry ∈ written, entry.1 ≠ file.name ∧ disk.leadsTo entry.1 file.name = false) :
    current disk written file = file := by
  unfold current
  rw [List.find?_eq_none.mpr]
  intro entry inside
  obtain ⟨differs, elsewhere⟩ := apart entry inside
  simp [differs, elsewhere]

/-- Where no unfinished task is written over a file that is still to be read, the files are read as
they were listed. -/
theorem asRead_eq_self
    (apart : files.Pairwise fun file later => ∀ entry ∈ rewrites texts disk file,
      entry.1 ≠ later.name ∧ disk.leadsTo entry.1 later.name = false)
    (before : ∀ file ∈ files, ∀ entry ∈ written,
      entry.1 ≠ file.name ∧ disk.leadsTo entry.1 file.name = false) :
    asRead texts disk written files = files := by
  induction files generalizing written with
  | nil => rfl
  | cons first rest ih =>
    obtain ⟨here, later⟩ := List.pairwise_cons.mp apart
    obtain ⟨unwritten, others⟩ := List.forall_mem_cons.mp before
    simp only [asRead, current_eq_self unwritten]
    congr 1
    apply ih later
    intro file inside entry wrote
    rcases List.mem_append.mp wrote with now | earlier
    · exact here file inside entry now
    · exact others file inside entry earlier

/-! ## A start from the journal -/

/-- Loading and pruning complete, and the loaded tasks are those of the readable files, interrupted
unless they are finished. -/
def Restored (texts : Texts) (disk : Disk) (retention : Nat) (now : ℤ) (files : List JournalFile) :
    Prop :=
  ∃ tasks, load texts disk files = .ok tasks ∧
    (∃ left, prune disk retention now tasks = .ok left) ∧
    (∀ file ∈ files, ∀ task, decode texts file = .ok task →
      tasks.lookup task.id = some (reconcile (.utc file.instant) task)) ∧
    ∀ id task, tasks.lookup id = some task → ∃ file ∈ files, ∃ read,
      decode texts file = .ok read ∧ read.id = id ∧ task = reconcile (.utc file.instant) read

/-- A journal of which no file is misshapen when its turn comes and every unfinished task can be
written again. The last file read with an id holds the task of every listed record of that id, and a
listed record. Every record can be compared with the clock and dropped if it is old. -/
structure Startable (texts : Texts) (disk : Disk) (retention : Nat) (now : ℤ)
    (files : List JournalFile) : Prop where
  shaped : ∀ file ∈ asRead texts disk [] files, misshapen texts file = false
  resumes : ∀ file ∈ asRead texts disk [] files, Resumes texts disk file
  kept : ∀ task ∈ records texts files,
    lastOf task.id (records texts (asRead texts disk [] files)) = some task
  listed : ∀ id task, lastOf id (records texts (asRead texts disk [] files)) = some task →
    task ∈ records texts files
  prunes : ∀ task ∈ records texts files, Prunes disk (.utc (now - retention)) task.id task

/-- The loaded task of an id is the one of the last file read with it. -/
theorem lookup_of_load (loads : load texts disk files = .ok tasks) (id : String) :
    tasks.lookup id = lastOf id (records texts (asRead texts disk [] files)) := by
  obtain ⟨-, rfl⟩ := load_ok_iff.mp loads
  rw [lookup_foldl_keep, AList.lookup_empty, Option.or_none]

/-- A journal whose start completes with its tasks is startable. -/
theorem startable_of_restored (restored : Restored texts disk retention now files) :
    Startable texts disk retention now files := by
  obtain ⟨tasks, loads, pruned, kept, sourced⟩ := restored
  obtain ⟨each, -⟩ := load_ok_iff.mp loads
  have found : ∀ task ∈ records texts files, tasks.lookup task.id = some task := by
    intro task inside
    obtain ⟨file, there, read, decoded, rfl⟩ := mem_records.mp inside
    rw [reconcile_id]
    exact kept file there read decoded
  constructor
  · exact fun file inside => (each file inside).1
  · exact fun file inside => (each file inside).2
  · intro task inside
    rw [← lookup_of_load loads]
    exact found task inside
  · intro id task last
    rw [← lookup_of_load loads] at last
    obtain ⟨file, there, read, decoded, -, same⟩ := sourced id task last
    exact mem_records.mpr ⟨file, there, read, decoded, same⟩
  · intro task inside
    have entry := List.of_mem_dlookup (Option.mem_def.mpr (found task inside))
    exact prune_ok_iff.mp pruned _ entry

/-- A startable journal is restored. -/
theorem restored_of_startable (startable : Startable texts disk retention now files) :
    Restored texts disk retention now files := by
  have loads := load_ok_iff.mpr
    ⟨fun file inside => ⟨startable.shaped file inside, startable.resumes file inside⟩, rfl⟩
  refine ⟨_, loads, ?_, ?_, ?_⟩
  · apply prune_ok_iff.mpr
    intro entry inside
    have found := List.mem_dlookup (AList.nodupKeys _) inside
    have last := (lookup_of_load loads entry.1).symm.trans found
    rw [← lastOf_id last]
    exact startable.prunes entry.2 (startable.listed _ _ last)
  · intro file inside task decoded
    have last := startable.kept _ (mem_records.mpr ⟨file, inside, task, decoded, rfl⟩)
    rw [reconcile_id] at last
    exact (lookup_of_load loads task.id).trans last
  · intro id task found
    rw [lookup_of_load loads] at found
    obtain ⟨file, inside, read, decoded, rfl⟩ := mem_records.mp (startable.listed id task found)
    exact ⟨file, inside, read, decoded, (reconcile_id _).symm.trans (lastOf_id found), rfl⟩

/-- A start completes with the tasks of the readable files exactly from a startable journal, and a
record is read back exactly when its start and its end both have offsets or neither. -/
theorem restored_iff_startable (texts : Texts) :
    (∀ disk retention now files,
      Restored texts disk retention now files ↔ Startable texts disk retention now files) ∧
    ∀ (task : Task) (date later : DateTime),
      task.asDict texts date >>= Task.fromDict texts later = .ok task ↔
        ∀ startedAt, task.startedAt = some startedAt →
          (task.finishedAt.getD date).aware = startedAt.aware := by
  refine ⟨fun _ _ _ _ => ⟨startable_of_restored, restored_of_startable⟩, fun task date later => ?_⟩
  rw [← @Task.asDict_ok_iff texts]
  constructor
  · intro back
    obtain ⟨data, written, -⟩ := bind_eq_ok.mp back
    exact ⟨data, written⟩
  · rintro ⟨data, written⟩
    exact bind_eq_ok.mpr ⟨data, written, Task.fromDict_asDict written⟩

/-- A journal as the agent writes it, in which every record stands in the one file that is named
after its id, is restored when no file is misshapen, every unfinished task can be written again and
every task can be pruned. -/
theorem restored_of_named (named : ∀ file ∈ files, ∀ task, decode texts file = .ok task →
      file.name = journalPath task.id)
    (distinct : (files.map JournalFile.name).Nodup)
    (unlinked : ∀ path name, disk.leadsTo path name = true → path = name)
    (shaped : ∀ file ∈ files, misshapen texts file = false)
    (resumes : ∀ file ∈ files, Resumes texts disk file)
    (prunes : ∀ task ∈ records texts files, Prunes disk (.utc (now - retention)) task.id task) :
    Restored texts disk retention now files := by
  have unique : ∀ task ∈ records texts files, ∀ other ∈ records texts files,
      other.id = task.id → other = task := by
    intro task inside other there same
    obtain ⟨file, listed, read, decoded, rfl⟩ := mem_records.mp inside
    obtain ⟨second, listed', another, decoded', rfl⟩ := mem_records.mp there
    rw [reconcile_id, reconcile_id] at same
    have alike : second.name = file.name := by
      rw [named second listed' another decoded', named file listed read decoded, same]
    obtain rfl := List.inj_on_of_nodup_map distinct listed' listed alike
    rw [Except.ok.inj (decoded'.symm.trans decoded)]
  have untouched : asRead texts disk [] files = files := by
    apply asRead_eq_self
    · apply (List.pairwise_map.mp distinct).imp_of_mem
      intro file later inside _ differs entry wrote
      obtain ⟨task, decoded, path⟩ := path_of_mem_rewrites wrote
      have own : entry.1 = file.name := path.trans (named file inside task decoded).symm
      refine ⟨fun same => differs (own.symm.trans same), ?_⟩
      apply Bool.eq_false_iff.mpr
      intro leads
      exact differs (own.symm.trans (unlinked _ _ leads))
    · intro file inside entry wrote
      exact absurd wrote List.not_mem_nil
  apply restored_of_startable
  constructor
  · rw [untouched]
    exact shaped
  · rw [untouched]
    exact resumes
  · intro task inside
    rw [untouched]
    exact lastOf_of_unique inside (unique task inside)
  · intro id task last
    rw [untouched] at last
    unfold lastOf at last
    exact List.mem_reverse.mp (List.mem_of_find?_eq_some last)
  · exact prunes

/-- A file system on which every operation succeeds. -/
def workingDisk : Disk where
  writeText _ := .ok ()
  mkdir := .ok ()
  rewriteText _ := .ok ()
  replace _ := .ok ()
  unlinkTemporary _ := .ok ()
  unlink _ := .ok ()
  leadsTo path name := path == name
  reread := .ok

/-- A backup as it is recorded. -/
def backupRecord (id : String) (state : TaskState) : Value :=
  .dict [(.str "id", .str id), (.str "kind", .str TaskKind.backup.value),
    (.str "state", .str state.value), (.str "log_path", .str "/var/log/task.log")]

-- An unfinished task that stands in another file is written over the record that is read next.
example : (load dottedTexts workingDisk
    [⟨"a.json", .ok (backupRecord "b" .running), 0⟩,
      ⟨"b.json", .ok (backupRecord "c" .success), 0⟩]).toOption.map (fun tasks => tasks.keys) =
    some ["b"] := by
  rfl

/-- A journal file that holds an empty list stops the start. -/
theorem not_restored_of_list :
    ¬ ∀ (texts : Texts) (disk : Disk) (retention : Nat) (now : ℤ) (files : List JournalFile),
      Restored texts disk retention now files := by
  intro always
  obtain ⟨tasks, loaded, -⟩ := always dottedTexts workingDisk 1209600000000 0
    [⟨"a.json", .ok (.list []), 0⟩]
  cases loaded

end TaskRegistry

end ProxSync.Agent
