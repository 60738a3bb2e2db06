import ProxSync.Lib.Compact
import ProxSync.Lib.Csv
import ProxSync.Lib.Lines
import ProxSync.Logs.Context
import ProxSync.Logs.Export
/-!
# The formats of the log export

An export is written chunk by chunk, as lines of JSON or as a table of comma-separated values that
has its header in front of the first chunk, or alone where nothing is exported. Messages hold
anything, line feeds and quotes included. However the lines of the log fall into chunks, what is
sent is read back as one record for each of them, in their order. The response model puts null in
the place of numbers that are not finite, so that every line of JSON is accepted by its grammar.
-/
open ProxSync.Lib ProxSync.Lib.JsonText ProxSync.Lib.Dumps

namespace ProxSync.Logs

/-! ## Encoding -/

/-- The columns of a log line that no filter reads. -/
structure Details where
  context : Option Context
  userId : Option ℕ
  syncTaskId : Option ℕ

/-- A log line with all of its columns. -/
structure Record where
  entry : LogEntry
  details : Details

/-- The level as it is written. -/
def LogLevel.value : LogLevel → String
  | .debug => "debug"
  | .info => "info"
  | .warning => "warning"
  | .error => "error"
  | .critical => "critical"

/-- The category as it is written. -/
def LogCategory.value : LogCategory → String
  | .api => "api"
  | .backup => "backup"
  | .restore => "restore"
  | .upload => "upload"
  | .retention => "retention"
  | .scheduler => "scheduler"
  | .auth => "auth"
  | .agent => "agent"
  | .notify => "notify"
  | .system => "system"

/-- The columns of a table. -/
def csvColumns : List String :=
  ["id", "ts", "level", "category", "message", "correlation_id", "user_id", "backup_id",
    "restore_id", "sync_task_id", "context"]

/-- The formats of an export. -/
inductive ExportFormat
  | ndjson
  | csv
  deriving DecidableEq, Repr

/-- What a response model makes of its fields: it raises, or puts null in the place of every number
that is not finite. -/
structure ResponseModel where
  modelDump : Context → Except PyError Context
  modelDump_ok : ∀ fields dumped, modelDump fields = .ok dumped → dumped = nulledEntries fields

section Encode

-- How a time is written, and the response model of a log line.
variable (isoformat : ℤ → String) (model : ResponseModel)

/-- A text in a payload. -/
def textValue (text : String) : PyJson := .str (PyText.of text)

/-- A number in a payload, if there is one. -/
def numberValue : Option ℕ → PyJson
  | none => .none
  | some number => .int number

/-- A log line as it is answered. -/
def logToResponse (record : Record) : Context :=
  [("id", .int record.entry.id), ("ts", textValue (isoformat record.entry.ts)),
    ("level", textValue record.entry.level.value),
    ("category", textValue record.entry.category.value),
    ("message", textValue record.entry.message),
    ("context", (record.details.context.map PyJson.dict).getD .none),
    ("correlation_id", (record.entry.correlationId.map textValue).getD .none),
    ("user_id", numberValue record.details.userId),
    ("backup_id", numberValue record.entry.backupId),
    ("restore_id", numberValue record.entry.restoreId),
    ("sync_task_id", numberValue record.details.syncTaskId)].map
      fun field : String × PyJson => (PyText.of field.1, field.2)

/-- A log line on a line of its own. -/
def ndjsonLine (record : Record) : Except PyError (List Char) := do
  let payload ← model.modelDump (logToResponse isoformat record)
  compact (.dict payload)

/-- Log lines as lines of JSON. -/
def encodeNdjson (records : List Record) : Except PyError (List Char) := do
  let lines ← records.mapM (ndjsonLine isoformat model)
  .ok (lines.flatMap fun line => line ++ ['\n'])

/-- A number in a table, if there is one. -/
def numberCell : Option ℕ → Except PyError (List Char)
  | none => .ok []
  | some number => intText number

/-- The context of a payload in a table, in JSON. -/
def contextCell (payload : Context) : Except PyError (List Char) :=
  match payload.lookup (PyText.of "context") with
  | some (.dict (entry :: rest)) => compact (.dict (entry :: rest))
  | _ => .ok []

/-- The fields of a log line in a table; but for the context they are what the line holds. -/
def csvFields (record : Record) : Except PyError (List (List Char)) := do
  let payload ← model.modelDump (logToResponse isoformat record)
  let context ← contextCell payload
  let id ← intText record.entry.id
  let userId ← numberCell record.details.userId
  let backupId ← numberCell record.entry.backupId
  let restoreId ← numberCell record.entry.restoreId
  let syncTaskId ← numberCell record.details.syncTaskId
  .ok [id, (isoformat record.entry.ts).toList, record.entry.level.value.toList,
    record.entry.category.value.toList, record.entry.message.toList,
    (record.entry.correlationId.getD "").toList, userId, backupId, restoreId, syncTaskId, context]

/-- Log lines as rows of a table, with or without its header. -/
def encodeCsv (records : List Record) (header : Bool) : Except PyError (List Char) := do
  let rows ← records.mapM (csvFields isoformat model)
  .ok (((if header then [csvColumns.map String.toList] else []) ++ rows).flatMap Csv.writeRow)

/-- What an export sends, chunk by chunk. -/
def body (format : ExportFormat) : Bool → List (List Record) → Except PyError (List (List Char))
  | first, [] =>
    match first, format with
    | true, .csv => do
      let table ← encodeCsv isoformat model [] true
      .ok [table]
    | _, _ => .ok []
  | first, chunk :: rest => do
    let part ← match format with
      | .csv => encodeCsv isoformat model chunk first
      | .ndjson => encodeNdjson isoformat model chunk
    let others ← body format false rest
    .ok (part :: others)

/-- What is sent for the lines that pass the filters. -/
def exportLogs (format : ExportFormat) (details : LogEntry → Details)
    (ilike : String → String → Bool) (filters : Filters) (chunkSize : ℕ) (tables : ℕ → LogTable) :
    Except PyError (List (List Char)) :=
  body isoformat model format true
    ((iterate ilike filters chunkSize tables 0 none).map fun chunk =>
      chunk.map fun entry => ⟨entry, details entry⟩)

end Encode

/-! ## Reading -/

variable {isoformat : ℤ → String} {model : ResponseModel} {first : Bool}
  {chunks : List (List Record)} {parts : List (List Char)} {record : Record}

/-- The parts of a table, one after the other, are one table. -/
theorem body_csv (sent : body isoformat model .csv first chunks = .ok parts) : ∃ rows,
    List.Forall₂ (fun record fields => csvFields isoformat model record = .ok fields)
      chunks.flatten rows ∧
    parts.flatten = ((if first then [csvColumns.map String.toList] else []) ++ rows).flatMap
      Csv.writeRow := by
  induction chunks generalizing first parts with
  | nil =>
    cases first with
    | true =>
      obtain ⟨table, written, same⟩ := bind_eq_ok.mp sent
      obtain ⟨rows, none_, written⟩ := bind_eq_ok.mp written
      obtain rfl := Except.ok.inj same
      obtain rfl := Except.ok.inj written
      refine ⟨rows, mapM_eq_ok.mp none_, ?_⟩
      rw [List.flatten_cons, List.flatten_nil, List.append_nil]
    | false =>
      obtain rfl := Except.ok.inj sent
      exact ⟨[], .nil, rfl⟩
  | cons chunk rest ih =>
    obtain ⟨part, written, later⟩ := bind_eq_ok.mp sent
    obtain ⟨others, remaining, same⟩ := bind_eq_ok.mp later
    obtain ⟨rows, each, written⟩ := bind_eq_ok.mp written
    obtain ⟨lower, below, joined⟩ := ih remaining
    obtain rfl := Except.ok.inj same
    obtain rfl := Except.ok.inj written
    refine ⟨rows ++ lower, List.rel_append (mapM_eq_ok.mp each) below, ?_⟩
    have bare : (if false = true then [csvColumns.map String.toList] else []) ++ lower = lower :=
      rfl
    rw [List.flatten_cons, joined, bare, ← List.append_assoc, ← List.flatMap_append]

/-- The body of an export has one line for each record. -/
theorem body_ndjson (sent : body isoformat model .ndjson first chunks = .ok parts) : ∃ lines,
    List.Forall₂ (fun record line => ndjsonLine isoformat model record = .ok line)
      chunks.flatten lines ∧
    parts.flatten = lines.flatMap fun line => line ++ ['\n'] := by
  induction chunks generalizing first parts with
  | nil =>
    have empty : body isoformat model .ndjson first [] = .ok [] := by
      cases first <;> rfl
    rw [empty] at sent
    obtain rfl := Except.ok.inj sent
    exact ⟨[], .nil, rfl⟩
  | cons chunk rest ih =>
    obtain ⟨part, written, later⟩ := bind_eq_ok.mp sent
    obtain ⟨others, remaining, same⟩ := bind_eq_ok.mp later
    obtain ⟨lines, each, written⟩ := bind_eq_ok.mp written
    obtain ⟨lower, below, joined⟩ := ih remaining
    obtain rfl := Except.ok.inj same
    obtain rfl := Except.ok.inj written
    refine ⟨lines ++ lower, List.rel_append (mapM_eq_ok.mp each) below, ?_⟩
    rw [List.flatten_cons, joined, List.flatMap_append]

/-- What is related to the items of a list comes from one of them. -/
theorem exists_left {α β : Type} {relates : α → β → Prop} {items : List α} {results : List β}
    {result : β} (related : List.Forall₂ relates items results) (inside : result ∈ results) :
    ∃ item ∈ items, relates item result := by
  obtain ⟨index, below, rfl⟩ := List.getElem_of_mem inside
  have length := related.length_eq
  exact ⟨items[index], List.getElem_mem _, related.get (by omega) below⟩

/-- A printable character does not end a line. -/
theorem endsLine_of_shown {char : Char} (printed : shown char = true) : endsLine char = false := by
  unfold shown at printed
  rw [Bool.and_eq_true, decide_eq_true_eq, decide_eq_true_eq] at printed
  unfold endsLine
  dsimp only
  simp only [Bool.or_eq_false_iff, Bool.and_eq_false_iff, decide_eq_false_iff_not,
    beq_eq_false_iff_ne]
  omega

/-- An export whose lines can all be written is sent to its end. -/
theorem exists_body (format : ExportFormat)
    (fields : ∀ record ∈ chunks.flatten, ∃ fields, csvFields isoformat model record = .ok fields)
    (lines : ∀ record ∈ chunks.flatten, ∃ line, ndjsonLine isoformat model record = .ok line) :
    ∃ parts, body isoformat model format first chunks = .ok parts := by
  have written {α : Type} {answer : Record → Except PyError α} {chunk : List Record}
      (each : ∀ record ∈ chunk, ∃ result, answer record = .ok result) :
      ∃ results, chunk.mapM answer = .ok results := by
    induction chunk with
    | nil => exact ⟨[], rfl⟩
    | cons record rest ih =>
      obtain ⟨here, others⟩ := List.forall_mem_cons.mp each
      obtain ⟨result, answered⟩ := here
      obtain ⟨results, remaining⟩ := ih others
      exact ⟨result :: results, mapM_eq_ok.mpr (.cons answered (mapM_eq_ok.mp remaining))⟩
  induction chunks generalizing first with
  | nil =>
    cases first with
    | false => exact ⟨[], rfl⟩
    | true =>
      cases format with
      | ndjson => exact ⟨[], rfl⟩
      | csv => exact ⟨_, rfl⟩
  | cons chunk rest ih =>
    rw [List.flatten_cons] at fields lines
    obtain ⟨fieldsHere, fieldsLater⟩ := List.forall_mem_append.mp fields
    obtain ⟨linesHere, linesLater⟩ := List.forall_mem_append.mp lines
    obtain ⟨others, remaining⟩ := @ih false fieldsLater linesLater
    cases format with
    | ndjson =>
      obtain ⟨results, answered⟩ := written linesHere
      have part : encodeNdjson isoformat model chunk = .ok _ :=
        bind_eq_ok.mpr ⟨results, answered, rfl⟩
      exact ⟨_, bind_eq_ok.mpr ⟨_, part, bind_eq_ok.mpr ⟨others, remaining, rfl⟩⟩⟩
    | csv =>
      obtain ⟨results, answered⟩ := written fieldsHere
      have part : encodeCsv isoformat model chunk first = .ok _ :=
        bind_eq_ok.mpr ⟨results, answered, rfl⟩
      exact ⟨_, bind_eq_ok.mpr ⟨_, part, bind_eq_ok.mpr ⟨others, remaining, rfl⟩⟩⟩

section Export

variable {details : LogEntry → Details} {ilike : String → String → Bool} {filters : Filters}
  {chunkSize : ℕ} {tables : ℕ → LogTable}

/-- The records of all chunks are those of all entries. -/
theorem flatten_records (chunks : List (List LogEntry)) :
    (chunks.map fun chunk => chunk.map fun entry => (⟨entry, details entry⟩ : Record)).flatten =
      chunks.flatten.map fun entry => ⟨entry, details entry⟩ :=
  List.map_flatten.symm

/-- However the log changes while it is exported, a table that is sent is read back as its header
and one row for each line that is exported, in their order, whatever their messages hold. -/
theorem csv_export_reads
    (sent : exportLogs isoformat model .csv details ilike filters chunkSize tables = .ok parts) :
    ∃ rows, Csv.read parts.flatten = some (csvColumns.map String.toList :: rows) ∧
      List.Forall₂
        (fun entry fields => csvFields isoformat model ⟨entry, details entry⟩ = .ok fields)
        (iterate ilike filters chunkSize tables 0 none).flatten rows := by
  obtain ⟨rows, each, joined⟩ := body_csv sent
  rw [flatten_records, List.forall₂_map_left_iff] at each
  refine ⟨rows, ?_, each⟩
  rw [joined]
  exact Csv.read_written (csvColumns.map String.toList :: rows)

/-- A line of JSON is accepted by the grammar, and by a store that asks for code points exactly when
no text of its record holds a null or half of a code point. -/
theorem accepts_ndjsonLine {line : List Char}
    (written : ndjsonLine isoformat model record = .ok line) (dialect : Dialect) :
    accepts dialect line = legible dialect (.dict (logToResponse isoformat record)) := by
  obtain ⟨payload, dumped, written⟩ := bind_eq_ok.mp written
  rw [model.modelDump_ok _ _ dumped] at written
  exact accepts_nulled written

/-- However the log changes while it is exported, what is sent as lines of JSON has one line for
each line that is exported, in their order, whatever their messages hold, and each is accepted by
the grammar of JSON whatever its numbers are, and by a store that asks for code points exactly when
no text of its record holds a null or half of a code point. -/
theorem ndjson_export_reads
    (sent : exportLogs isoformat model .ndjson details ilike filters chunkSize tables =
      .ok parts) :
    List.Forall₂ (fun entry line => ndjsonLine isoformat model ⟨entry, details entry⟩ = .ok line ∧
        accepts .anyUnits line = true ∧ accepts .codePoints line =
          legible .codePoints (.dict (logToResponse isoformat ⟨entry, details entry⟩)))
      (iterate ilike filters chunkSize tables 0 none).flatten (splitlines parts.flatten) := by
  obtain ⟨lines, each, joined⟩ := body_ndjson sent
  rw [flatten_records, List.forall₂_map_left_iff] at each
  have single : ∀ line ∈ lines, ∀ char ∈ line, endsLine char = false := by
    intro line inside char held
    obtain ⟨entry, -, written⟩ := exists_left each inside
    obtain ⟨payload, -, written⟩ := bind_eq_ok.mp written
    exact endsLine_of_shown (shown_compact _ written char held)
  rw [joined, splitlines_flatMap single]
  apply each.imp
  intro entry line written
  refine ⟨written, ?_, accepts_ndjsonLine written .codePoints⟩
  rw [accepts_ndjsonLine written]
  exact legible_anyUnits _

end Export

/-- Two lines, of which one holds everything that a table has to quote. -/
def twoLines : LogTable :=
  (LogTable.empty.add 0 ⟨3, .info, .api, "first", some "7f", none, none⟩).add 1
    ⟨5, .error, .backup, "qmp \"freeze\", exit 1\nstopped", none, some 2, none⟩

/-- What is known of both lines besides, among it a number that is none. -/
def someDetails (_ : LogEntry) : Details :=
  ⟨some [(PyText.of "vmid", .int 101), (PyText.of "ratio", .float .nan)], some 1, none⟩

/-- A response model that never raises. -/
def someModel : ResponseModel where
  modelDump fields := .ok (nulledEntries fields)
  modelDump_ok _ _ dumped := (Except.ok.inj dumped).symm

/-- A clock that writes every time alike. -/
def anyTime (_ : ℤ) : String := "2026-07-23T12:00:00Z"

/-- The lines while nothing is written. -/
def twoLinesAt : ℕ → LogTable := tableAt twoLines fun _ => []

/-- Two entries are exported in every format. -/
theorem exists_twoLines (format : ExportFormat) : ∃ parts,
    exportLogs anyTime someModel format someDetails (fun _ _ => true) {} 1 twoLinesAt =
      .ok parts := by
  have stored : ∀ record ∈ ((iterate (fun _ _ => true) {} 1 twoLinesAt 0 none).map
      fun chunk => chunk.map fun entry => (⟨entry, someDetails entry⟩ : Record)).flatten,
        ∃ entry ∈ twoLines.rows, record = ⟨entry, someDetails entry⟩ := by
    rw [flatten_records]
    intro record inside
    obtain ⟨entry, listed, rfl⟩ := List.mem_map.mp inside
    exact ⟨entry, ((mem_iterate (by decide)).mp listed).1, rfl⟩
  have each : ∀ entry ∈ twoLines.rows,
      (∃ fields, csvFields anyTime someModel ⟨entry, someDetails entry⟩ = .ok fields) ∧
        ∃ line, ndjsonLine anyTime someModel ⟨entry, someDetails entry⟩ = .ok line := by
    intro entry listed
    rcases List.mem_cons.mp listed with rfl | listed
    · exact ⟨⟨_, rfl⟩, ⟨_, rfl⟩⟩
    · obtain rfl := List.mem_singleton.mp listed
      exact ⟨⟨_, rfl⟩, ⟨_, rfl⟩⟩
  apply exists_body
  · intro record inside
    obtain ⟨entry, listed, rfl⟩ := stored record inside
    exact (each entry listed).1
  · intro record inside
    obtain ⟨entry, listed, rfl⟩ := stored record inside
    exact (each entry listed).2

/-- Two entries are read back from their table. -/
theorem csv_export_reads_two : ∃ parts rows,
    Csv.read (List.flatten parts) = some (csvColumns.map String.toList :: rows) ∧
      List.Forall₂
        (fun entry fields => csvFields anyTime someModel ⟨entry, someDetails entry⟩ = .ok fields)
        (iterate (fun _ _ => true) {} 1 twoLinesAt 0 none).flatten rows := by
  obtain ⟨parts, sent⟩ := exists_twoLines .csv
  exact ⟨parts, csv_export_reads sent⟩

/-- Two entries are read back from their lines, one of which holds no number. -/
theorem ndjson_export_reads_two : ∃ parts : List (List Char),
    List.Forall₂ (fun entry line =>
        ndjsonLine anyTime someModel ⟨entry, someDetails entry⟩ = .ok line ∧
        accepts .anyUnits line = true ∧ accepts .codePoints line =
          legible .codePoints (.dict (logToResponse anyTime ⟨entry, someDetails entry⟩)))
      (iterate (fun _ _ => true) {} 1 twoLinesAt 0 none).flatten (splitlines parts.flatten) := by
  obtain ⟨parts, sent⟩ := exists_twoLines .ndjson
  exact ⟨parts, ndjson_export_reads sent⟩

end ProxSync.Logs
