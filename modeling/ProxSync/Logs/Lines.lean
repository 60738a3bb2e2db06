import ProxSync.Logs.Context
/-!
# The rows of log lines

A log call becomes a row with its message, its context, its correlation id and the numbers of the
rows it names. A batch of rows is inserted in one or more statements, each of which converts the
values of its rows before the rows they name are looked for. Where one of these is missing the batch
is inserted without the numbers; where a value cannot be converted the batch fails. One line can
make no batch fail exactly when its context can be stored, its texts hold no code point that a
database refuses, and its numbers fit their columns.
-/
open ProxSync.Lib ProxSync.Lib.JsonText ProxSync.Lib.Dumps

namespace ProxSync.Logs

/-- The columns of a log line that its call decides; the columns of its time, its level and its
category take whatever these are. -/
structure LogRow where
  message : PyText
  context : Option Context
  correlationId : Option PyText
  userId : Option ℤ
  backupId : Option ℤ
  restoreId : Option ℤ
  syncTaskId : Option ℤ

section Build

variable {Ref : Type} (heap : Heap Ref)

/-- The value of a key of a log call. -/
def EventDict.get (event : EventDict Ref) (key : String) : Option Ref :=
  (event.items.find? fun entry => entry.1 = PyText.of key).map Prod.snd

/-- The message of a log call, cut off. -/
def eventMessage (event : EventDict Ref) : Except PyError PyText := do
  let text ← match event.get "event" with
    | some value => keyText heap value
    | none => .ok []
  .ok (text.take maxMessageLength)

/-- The number a value is, if it is an integer. -/
def asInt (value : Option Ref) : Option ℤ :=
  match value.map heap.node with
  | some (.int number) => some number
  | _ => none

/-- The text a value is, cut off, if it is one that is not empty. -/
def asStr (value : Option Ref) : Option PyText :=
  match value.map heap.node with
  | some (.str text) => if text.isEmpty then none else some (text.take 64)
  | _ => none

/-- The row of a log call that is severe enough. -/
def build (stack : ℕ) (event : EventDict Ref) : Except PyError LogRow := do
  let message ← eventMessage heap event
  let context ← context heap stack event
  .ok {
    message
    context
    correlationId := asStr heap (event.get "correlation_id")
    userId := asInt heap (event.get "user_id")
    backupId := asInt heap (event.get "backup_id")
    restoreId := asInt heap (event.get "restore_id")
    syncTaskId := asInt heap (event.get "sync_task_id") }

end Build

/-! ## Inserting rows -/

/-- The databases a dashboard runs on. -/
inductive Database
  | postgres
  | sqlite
  deriving DecidableEq, Repr

/-- Whether a column of texts takes a text: half of a code point is in no encoding, and PostgreSQL
refuses null. -/
def Database.takesText (database : Database) (text : PyText) : Bool :=
  text.all fun point => !(0xd800 ≤ point.val && point.val < 0xe000) &&
    (database == .sqlite || point.val != 0)

/-- Whether a column of JSON takes a text; that of SQLite is a column of texts. -/
def Database.takesJson : Database → List Char → Bool
  | .postgres, text => accepts .codePoints text
  | .sqlite, _ => true

/-- Whether a number has no more than 64 bits. -/
def takesId (number : ℤ) : Bool := -2 ^ 63 ≤ number && number < 2 ^ 63

/-- Whether the values of a row can be converted for a database. -/
def Database.binds (database : Database) (row : LogRow) : Bool :=
  database.takesText row.message &&
    (row.context.all fun entries => (dumps (.dict entries)).toOption.any database.takesJson) &&
    row.correlationId.all database.takesText && row.userId.all takesId &&
    row.backupId.all takesId && row.restoreId.all takesId && row.syncTaskId.all takesId

/-- The rows that are there to be named. -/
structure Present where
  user : ℤ → Bool
  backup : ℤ → Bool
  restore : ℤ → Bool
  syncTask : ℤ → Bool

/-- Whether the rows that a row names are there. -/
def LogRow.linked (present : Present) (row : LogRow) : Bool :=
  row.userId.all present.user && row.backupId.all present.backup &&
    row.restoreId.all present.restore && row.syncTaskId.all present.syncTask

/-- The row without the rows it names. -/
def LogRow.unlinked (row : LogRow) : LogRow :=
  { row with userId := none, backupId := none, restoreId := none, syncTaskId := none }

/-- What an insert raises. -/
inductive InsertError
  | integrity
  | other
  deriving DecidableEq, Repr

/-- How rows are divided over statements. -/
structure Paging where
  pages : List LogRow → List (List LogRow)
  flatten_pages : ∀ rows, (pages rows).flatten = rows

section Insert

variable (database : Database) (present : Present) (paging : Paging)

/-- Run one statement. -/
def insertPage (page : List LogRow) : Except InsertError Unit :=
  if !page.all database.binds then .error .other
  else if page.all (LogRow.linked present) then .ok ()
  else .error .integrity

/-- Insert rows. -/
def addMany (rows : List LogRow) : Except InsertError Unit :=
  (paging.pages rows).forM (insertPage database present)

/-- Store a batch, without the rows it names if one of them is missing. -/
def flushOnce (rows : List LogRow) : Except InsertError Unit :=
  match addMany database present paging rows with
  | .error .integrity => addMany database present paging (rows.map LogRow.unlinked)
  | result => result

end Insert

/-- The values of a row can be converted for every database. -/
def Bindable (row : LogRow) : Prop := ∀ database : Database, database.binds row = true

/-- Whether a log call leaves a row for every database: what is copied into its context can be
stored, its message and its correlation id are code points other than null, and the numbers it names
rows by have no more than 64 bits. -/
def soundLine {Ref : Type} (heap : Heap Ref) (stack : ℕ) (event : EventDict Ref) : Bool :=
  soundEvent heap stack event &&
    (eventMessage heap event).toOption.all Database.postgres.takesText &&
    (asStr heap (event.get "correlation_id")).all Database.postgres.takesText &&
    (["user_id", "backup_id", "restore_id", "sync_task_id"].all fun key =>
      (asInt heap (event.get key)).all takesId)

/-! ## What a batch comes to -/

variable {database : Database} {present : Present} {paging : Paging} {rows : List LogRow}
variable {row : LogRow}

/-- A row without links can be converted if the row can. -/
theorem binds_unlinked (bound : database.binds row = true) :
    database.binds row.unlinked = true := by
  unfold Database.binds at bound ⊢
  simp only [Bool.and_eq_true] at bound
  obtain ⟨⟨⟨⟨⟨⟨message, context⟩, correlation⟩, -⟩, -⟩, -⟩, -⟩ := bound
  simp only [LogRow.unlinked, message, context, correlation, Option.all_none, Bool.and_self]

/-- A row without links names no row that is missing. -/
theorem linked_unlinked : row.unlinked.linked present = true := rfl

/-- A statement succeeds when its rows can be converted and name rows that are there. -/
theorem insertPage_ok : insertPage database present rows = .ok () ↔
    ∀ row ∈ rows, database.binds row = true ∧ row.linked present = true := by
  unfold insertPage
  rw [forall₂_and, ← List.all_eq_true, ← List.all_eq_true]
  split
  · rename_i refused
    rw [Bool.not_eq_true'] at refused
    simp [refused]
  · rename_i bound
    rw [Bool.not_eq_true', Bool.not_eq_false] at bound
    split
    · rename_i linked
      simp [bound, linked]
    · rename_i missing
      simp [missing]

/-- A statement whose rows can be converted raises at most for a missing row. -/
theorem insertPage_error {raised : InsertError}
    (bound : ∀ row ∈ rows, database.binds row = true)
    (failed : insertPage database present rows = .error raised) : raised = .integrity := by
  unfold insertPage at failed
  rw [List.all_eq_true.mpr bound] at failed
  split at failed
  · contradiction
  · split at failed
    · cases failed
    · exact (Except.error.inj failed).symm

/-- The statements of an insert succeed exactly when each of them does. -/
theorem forM_insertPage {pages : List (List LogRow)} :
    pages.forM (insertPage database present) = .ok () ↔
      ∀ page ∈ pages, insertPage database present page = .ok () := by
  induction pages with
  | nil => exact ⟨fun _ _ inside => absurd inside List.not_mem_nil, fun _ => rfl⟩
  | cons page rest ih =>
    rw [List.forall_mem_cons, ← ih]
    constructor
    · intro done
      obtain ⟨⟨⟩, here, later⟩ := bind_eq_ok.mp done
      exact ⟨here, later⟩
    · rintro ⟨here, later⟩
      exact bind_eq_ok.mpr ⟨(), here, later⟩

/-- An insert succeeds when its rows can be converted and name rows that are there. -/
theorem addMany_ok : addMany database present paging rows = .ok () ↔
    ∀ row ∈ rows, database.binds row = true ∧ row.linked present = true := by
  have flat := paging.flatten_pages rows
  unfold addMany
  rw [forM_insertPage]
  constructor
  · intro each row inside
    rw [← flat] at inside
    obtain ⟨page, listed, held⟩ := List.mem_flatten.mp inside
    exact insertPage_ok.mp (each page listed) row held
  · intro every page listed
    apply insertPage_ok.mpr
    intro row held
    apply every
    rw [← flat]
    exact List.mem_flatten_of_mem listed held

/-- An insert of rows that can be converted raises at most for a missing row. -/
theorem addMany_error {raised : InsertError}
    (bound : ∀ row ∈ rows, database.binds row = true)
    (failed : addMany database present paging rows = .error raised) : raised = .integrity := by
  have pages : ∀ pages : List (List LogRow), (∀ row ∈ pages.flatten, database.binds row = true) →
      pages.forM (insertPage database present) = .error raised → raised = .integrity := by
    intro pages
    induction pages with
    | nil => exact fun _ failed => (by cases failed)
    | cons page rest ih =>
      intro bound failed
      rw [List.flatten_cons, List.forall_mem_append] at bound
      rcases bind_eq_error.mp failed with here | ⟨⟨⟩, -, later⟩
      · exact insertPage_error bound.1 here
      · exact ih bound.2 later
  exact pages _ (by rw [paging.flatten_pages]; exact bound) failed

/-- A batch of rows that can be converted is stored, whatever rows are there. -/
theorem flushOnce_ok (bound : ∀ row ∈ rows, database.binds row = true) :
    flushOnce database present paging rows = .ok () := by
  unfold flushOnce
  split
  · apply addMany_ok.mpr
    intro row inside
    obtain ⟨original, held, rfl⟩ := List.mem_map.mp inside
    exact ⟨binds_unlinked (bound original held), linked_unlinked⟩
  · rename_i other
    cases result : addMany database present paging rows with
    | ok done => rfl
    | error raised => exact absurd result (addMany_error bound result ▸ other)

/-- A statement that raises for a missing row has a row that can be converted. -/
theorem exists_binds_of_integrity
    (failed : insertPage database present rows = .error .integrity) :
    ∃ row ∈ rows, database.binds row = true := by
  unfold insertPage at failed
  split at failed
  · cases failed
  · rename_i bound
    rw [Bool.not_eq_true', Bool.not_eq_false, List.all_eq_true] at bound
    split at failed
    · cases failed
    · rename_i missing
      rw [List.all_eq_true, not_forall] at missing
      obtain ⟨row, missing⟩ := missing
      rw [Classical.not_imp] at missing
      exact ⟨row, missing.1, bound row missing.1⟩

/-- Statements that raise for a missing row have a row that can be converted. -/
theorem exists_binds_of_forM {pages : List (List LogRow)}
    (failed : pages.forM (insertPage database present) = .error .integrity) :
    ∃ row ∈ pages.flatten, database.binds row = true := by
  induction pages with
  | nil => cases failed
  | cons page rest ih =>
    rcases bind_eq_error.mp failed with here | ⟨⟨⟩, -, later⟩
    · obtain ⟨row, inside, bound⟩ := exists_binds_of_integrity here
      exact ⟨row, List.mem_append_left _ inside, bound⟩
    · obtain ⟨row, inside, bound⟩ := ih later
      exact ⟨row, List.mem_append_right _ inside, bound⟩

/-- A row that cannot be converted makes a batch of its own fail. -/
theorem flushOnce_refused (refused : database.binds row = false) :
    flushOnce database present paging [row] = .error .other := by
  have failed : addMany database present paging [row] = .error .other := by
    cases result : addMany database present paging [row] with
    | ok done =>
      have bound := (addMany_ok.mp result row List.mem_cons_self).1
      rw [refused] at bound
      cases bound
    | error raised =>
      cases raised with
      | other => rfl
      | integrity =>
        obtain ⟨other, inside, bound⟩ := exists_binds_of_forM result
        rw [paging.flatten_pages, List.mem_singleton] at inside
        rw [inside, refused] at bound
        cases bound
  unfold flushOnce
  rw [failed]

/-! ## What a log call leaves -/

/-- What PostgreSQL takes as a text, SQLite takes. -/
theorem takesText_of_postgres {text : PyText} (taken : Database.postgres.takesText text = true)
    (database : Database) : database.takesText text = true := by
  unfold Database.takesText at taken ⊢
  rw [List.all_eq_true] at taken ⊢
  intro point inside
  have whole := taken point inside
  rw [Bool.and_eq_true] at whole ⊢
  refine ⟨whole.1, ?_⟩
  cases database with
  | postgres => exact whole.2
  | sqlite => rfl

/-- What PostgreSQL takes as a row, every database takes. -/
theorem bindable_iff : Bindable row ↔ Database.postgres.binds row = true := by
  refine ⟨fun every => every .postgres, fun bound database => ?_⟩
  cases database with
  | postgres => exact bound
  | sqlite =>
    unfold Database.binds at bound ⊢
    simp only [Bool.and_eq_true, Option.all_eq_true] at bound ⊢
    obtain ⟨⟨⟨⟨⟨⟨message, context⟩, correlation⟩, user⟩, backup⟩, restore⟩, task⟩ := bound
    refine ⟨⟨⟨⟨⟨⟨takesText_of_postgres message _, ?_⟩, ?_⟩, user⟩, backup⟩, restore⟩, task⟩
    · intro entries there
      have taken := context entries there
      rw [Option.any_eq_true] at taken ⊢
      exact taken.imp fun _ written => ⟨written.1, rfl⟩
    · exact fun text there => takesText_of_postgres (correlation text there) _

/-- A context is JSON for every store exactly when PostgreSQL takes it. -/
theorem validContext_iff_takes {stored : Option Context} : ValidContext stored ↔
    (stored.all fun entries => (dumps (.dict entries)).toOption.any
      Database.postgres.takesJson) = true := by
  unfold ValidContext
  rw [Option.all_eq_true]
  refine forall₂_congr fun entries _ => ?_
  cases written : dumps (.dict entries) with
  | error raised => simp [Except.toOption]
  | ok text =>
    show _ ↔ accepts .codePoints text = true
    constructor
    · rintro ⟨_, same, -, accepted⟩
      obtain rfl := Except.ok.inj same
      exact accepted
    · exact fun accepted => ⟨text, rfl, accepts_anyUnits accepted, accepted⟩

variable {Ref : Type} {heap : Heap Ref} {stack : ℕ} {event : EventDict Ref}

/-- The columns of a row that is built. -/
theorem build_ok (built : build heap stack event = .ok row) :
    eventMessage heap event = .ok row.message ∧ context heap stack event = .ok row.context ∧
      row.correlationId = asStr heap (event.get "correlation_id") ∧
      row.userId = asInt heap (event.get "user_id") ∧
      row.backupId = asInt heap (event.get "backup_id") ∧
      row.restoreId = asInt heap (event.get "restore_id") ∧
      row.syncTaskId = asInt heap (event.get "sync_task_id") := by
  obtain ⟨message, shown, built⟩ := bind_eq_ok.mp built
  obtain ⟨context, copied, built⟩ := bind_eq_ok.mp built
  obtain rfl := Except.ok.inj built
  exact ⟨shown, copied, rfl, rfl, rfl, rfl, rfl⟩

/-- A row can be converted for every database exactly when its call is sound. -/
theorem bindable_iff_sound (built : build heap stack event = .ok row) :
    Bindable row ↔ soundLine heap stack event = true := by
  obtain ⟨message, context, correlation, user, backup, restore, task⟩ := build_ok built
  have valid := validContext_iff_takes.symm.trans (validContext_iff context)
  rw [bindable_iff]
  unfold Database.binds soundLine
  simp only [Bool.and_eq_true, message, ← correlation, List.all_cons, List.all_nil, ← user,
    ← backup, ← restore, ← task, Except.toOption, Option.all_some, and_true]
  tauto

/-- A log call leaves a context that is JSON for every store and a row that can make no batch fail,
however its rows are divided over statements and whatever rows they name are there, exactly when it
is sound. -/
theorem line_storable_iff (built : build heap stack event = .ok row) :
    (ValidContext row.context ∧ ∀ before after, (∀ other ∈ before ++ after, Bindable other) →
      ∀ database present paging,
        flushOnce database present paging (before ++ row :: after) = .ok ()) ↔
      soundLine heap stack event = true := by
  rw [← bindable_iff_sound built]
  constructor
  · rintro ⟨-, flushed⟩ database
    by_contra refused
    obtain ⟨present⟩ : Nonempty Present :=
      ⟨⟨fun _ => true, fun _ => true, fun _ => true, fun _ => true⟩⟩
    obtain ⟨paging⟩ : Nonempty Paging := ⟨⟨fun rows => [rows], fun _ => List.flatten_singleton⟩⟩
    have stored :=
      flushed [] [] (fun _ none => absurd none List.not_mem_nil) database present paging
    rw [List.nil_append, flushOnce_refused (Bool.eq_false_iff.mpr refused)] at stored
    cases stored
  · intro bindable
    have bound := bindable_iff.mp bindable
    unfold Database.binds at bound
    simp only [Bool.and_eq_true] at bound
    refine ⟨validContext_iff_takes.mpr bound.1.1.1.1.1.2, ?_⟩
    intro before after others database present paging
    apply flushOnce_ok
    intro member inside
    rw [List.mem_append, List.mem_cons] at inside
    rcases inside with early | rfl | late
    · exact others member (List.mem_append_left _ early) database
    · exact bindable database
    · exact others member (List.mem_append_right _ late) database

/-- A log call about a backup, with a number. -/
def copiedEvent : EventDict (Fin 4) where
  items := [(PyText.of "event", 0), (PyText.of "backup_id", 1), (PyText.of "ratio", 2),
    (PyText.of "correlation_id", 3)]
  distinct := by decide

/-- The values of a log call about a backup. -/
def copiedHeap (backup : ℤ) (ratio : PyFloat) : Heap (Fin 4) where
  node
    | 0 => .str (PyText.of "backup_copied")
    | 1 => .int backup
    | 2 => .float ratio
    | 3 => .str (PyText.of "7f")
  str _ := .ok []
  repr _ := .ok []
  isoformat _ := .ok []

/-- The row of a log call about a backup. -/
def copiedRow (backup : ℤ) (ratio : PyFloat) : LogRow where
  message := PyText.of "backup_copied"
  context := some [(PyText.of "backup_id", .int backup), (PyText.of "ratio", .float ratio)]
  correlationId := some (PyText.of "7f")
  userId := none
  backupId := some backup
  restoreId := none
  syncTaskId := none

/-- What a log call about a backup leaves. -/
theorem build_copied (backup : ℤ) (ratio : PyFloat) :
    build (copiedHeap backup ratio) 1 copiedEvent = .ok (copiedRow backup ratio) := rfl

/-- A log call about a backup, with a finite number, can make no batch fail. -/
theorem line_storable_copied :
    ∃ row, build (copiedHeap 7 (.finite (1 / 2))) 1 copiedEvent = .ok row ∧
      ValidContext row.context ∧ ∀ before after, (∀ other ∈ before ++ after, Bindable other) →
        ∀ database present paging,
          flushOnce database present paging (before ++ row :: after) = .ok () := by
  have sound : soundLine (copiedHeap 7 (.finite (1 / 2))) 1 copiedEvent = true := by decide +kernel
  exact ⟨_, build_copied 7 _, (line_storable_iff (build_copied 7 _)).mpr sound⟩

/-- A number that is not one is copied into the context, which is then no JSON, and a number with
more than 64 bits is taken for the number of a row; the first makes the batch of its line fail with
PostgreSQL, the second with every database. -/
theorem line_fails :
    (∃ row, build (copiedHeap 7 .nan) 1 copiedEvent = .ok row ∧ ¬ ValidContext row.context ∧
      ∀ present paging, flushOnce .postgres present paging [row] = .error .other) ∧
    ∃ row, build (copiedHeap (2 ^ 70) (.finite (1 / 2))) 1 copiedEvent = .ok row ∧
      ∀ database present paging, flushOnce database present paging [row] = .error .other := by
  have refused : Database.postgres.binds (copiedRow 7 .nan) = false := by decide +kernel
  have long : ∀ database : Database,
      database.binds (copiedRow (2 ^ 70) (.finite (1 / 2))) = false := by
    intro database
    cases database <;> decide +kernel
  refine ⟨⟨_, build_copied 7 _, fun valid => ?_, fun _ _ => flushOnce_refused refused⟩,
    ⟨_, build_copied _ _, fun database _ _ => flushOnce_refused (long database)⟩⟩
  have taken := validContext_iff_takes.mp valid
  revert taken
  decide +kernel

end ProxSync.Logs
