import ProxSync.Lib.Keyset
import ProxSync.Lib.Table
import ProxSync.Logs.Sink
/-!
# The log export

An export reads the log lines that pass its filters, newest first, in chunks that each start below
the last line of the chunk before. Lines are written and pruned between the chunks. A line is
exported exactly when it passes the filters and was there at every query that started above it, and
no line is exported twice.
-/
open ProxSync.Lib

namespace ProxSync.Logs

/-- What a log line is about. -/
inductive LogCategory
  | api
  | backup
  | restore
  | upload
  | retention
  | scheduler
  | auth
  | agent
  | notify
  | system
  deriving DecidableEq, Repr

/-- A log line to be stored; times are in microseconds. -/
structure NewLogEntry where
  ts : ℤ
  level : LogLevel
  category : LogCategory
  message : String
  correlationId : Option String
  backupId : Option ℕ
  restoreId : Option ℕ
  deriving DecidableEq

/-- A stored log line. -/
structure LogEntry extends NewLogEntry where
  id : ℕ
  deriving DecidableEq

/-- The stored lines, with the last number that was assigned. -/
structure LogTable where
  rows : Table LogEntry.id
  issued : ℕ
  /-- Every stored line has a number that was assigned. -/
  assigned : ∀ entry ∈ rows, entry.id ≤ issued

/-- What a writer commits: a line, whose number may skip some, or a prune. -/
inductive Write
  | add (skipped : ℕ) (entry : NewLogEntry)
  | prune (before : ℤ)

namespace LogTable

/-- The table before the first line. -/
def empty : LogTable := ⟨.empty, 0, by simp⟩

/-- Every stored line has a number below the next ones. -/
theorem add_fresh (table : LogTable) (skipped : ℕ) (entry : NewLogEntry) :
    ∀ other ∈ table.rows, other.id < (⟨entry, table.issued + 1 + skipped⟩ : LogEntry).id := by
  intro other stored
  have low := table.assigned other stored
  show other.id < table.issued + 1 + skipped
  omega

/-- Store a line under a number above every assigned one. -/
def add (table : LogTable) (skipped : ℕ) (entry : NewLogEntry) : LogTable where
  rows := table.rows.insert ⟨entry, table.issued + 1 + skipped⟩ (table.add_fresh skipped entry)
  issued := table.issued + 1 + skipped
  assigned := by
    intro other stored
    rcases (Table.mem_insert (table.add_fresh skipped entry)).mp stored with old | rfl
    · have low := table.assigned other old
      omega
    · exact le_rfl

/-- Delete the lines before a time. -/
def prune (table : LogTable) (before : ℤ) : LogTable where
  rows := ⟨table.rows.rows.filter fun entry => !decide (entry.ts < before),
    table.rows.ascending.sublist List.filter_sublist⟩
  issued := table.issued
  assigned entry kept := table.assigned entry (List.mem_of_mem_filter kept)

/-- Commit a write. -/
def commit (table : LogTable) : Write → LogTable
  | .add skipped entry => table.add skipped entry
  | .prune before => table.prune before

end LogTable

/-- The filters of an export. -/
structure Filters where
  category : Option LogCategory := none
  level : Option LogLevel := none
  since : Option ℤ := none
  till : Option ℤ := none
  query : Option String := none
  correlationId : Option String := none
  backupId : Option ℕ := none
  restoreId : Option ℕ := none

section Export

variable (ilike : String → String → Bool) (filters : Filters) (chunkSize : ℕ)

/-- Whether a line passes the filters. -/
def filtered (entry : LogEntry) : Bool :=
  filters.category.all (entry.category == ·) &&
  filters.level.all (entry.level == ·) &&
  filters.since.all (fun since => decide (since ≤ entry.ts)) &&
  filters.till.all (fun limit => decide (entry.ts ≤ limit)) &&
  (match filters.correlationId with
    | none | some "" => true
    | some wanted => entry.correlationId == some wanted) &&
  filters.backupId.all (fun wanted => entry.backupId == some wanted) &&
  filters.restoreId.all (fun wanted => entry.restoreId == some wanted) &&
  (match filters.query with
    | none | some "" => true
    | some query => ilike entry.message ("%" ++ query ++ "%"))

/-- The lines of a chunk. -/
def chunk (cursor : Option ℕ) (table : LogTable) : List LogEntry :=
  let statement := table.rows.rows.filter (filtered ilike filters)
  let statement := match cursor with
    | none => statement
    | some last => statement.filter fun entry => decide (entry.id < last)
  statement.reverse.take chunkSize

/-- The lines that pass the filters, newest first. -/
def matching (table : LogTable) : List LogEntry :=
  (table.rows.rows.filter (filtered ilike filters)).reverse

variable {ilike filters chunkSize}

/-- A chunk is a page of the lines that pass the filters. -/
theorem chunk_eq_page (cursor : Option ℕ) (table : LogTable) :
    chunk ilike filters chunkSize cursor table =
      page LogEntry.id chunkSize cursor (matching ilike filters table) := by
  unfold chunk page matching
  cases cursor with
  | none =>
    have everything : ahead LogEntry.id none = fun _ => true := rfl
    rw [everything, List.filter_true]
  | some last =>
    rw [List.filter_reverse]
    rfl

/-- The cursor falls from chunk to chunk. -/
theorem chunk_lt {cursor : Option ℕ} {table : LogTable} {last : LogEntry}
    (found : (chunk ilike filters chunkSize cursor table).getLast? = some last) :
    bound (some last.id) < bound cursor := by
  have inside := List.mem_of_getLast? found
  rw [chunk_eq_page] at inside
  exact bound_lt (mem_page inside).2

variable (ilike filters chunkSize)

/-- The chunks of an export, given the table each query reads. -/
def iterate (tables : ℕ → LogTable) (query : ℕ) (cursor : Option ℕ) : List (List LogEntry) :=
  let rows := chunk ilike filters chunkSize cursor (tables query)
  match _found : rows.getLast? with
  | none => []
  | some last =>
    if rows.length < chunkSize then [rows] else rows :: iterate tables (query + 1) (some last.id)
termination_by wellFounded_lt.wrap (bound cursor)
decreasing_by exact chunk_lt _found

variable {ilike filters chunkSize}

/-- An export is a walk through the lines that pass the filters. -/
theorem iterate_eq_walk (tables : ℕ → LogTable) (query : ℕ) (cursor : Option ℕ) :
    iterate ilike filters chunkSize tables query cursor =
      walk LogEntry.id chunkSize (fun n => matching ilike filters (tables n)) query cursor := by
  induction query, cursor using iterate.induct ilike filters chunkSize tables with
  | case1 query cursor rows found =>
    have empty := List.getLast?_eq_none_iff.mp found
    rw [walk_of_empty ((chunk_eq_page _ _).symm.trans empty), iterate]
    split
    · rfl
    · rename_i last other
      exact absurd (found.symm.trans other) (by simp)
  | case2 query cursor rows last found short =>
    have filled : rows ≠ [] := List.ne_nil_of_mem (List.mem_of_getLast? found)
    have ends : follow LogEntry.id chunkSize cursor (matching ilike filters (tables query)) =
        none := by
      unfold follow
      rw [← chunk_eq_page, if_pos short]
    rw [walk_of_none ((chunk_eq_page _ _).symm ▸ filled) ends, ← chunk_eq_page, iterate]
    split
    · rename_i other
      exact absurd (found.symm.trans other) (by simp)
    · exact if_pos short
  | case3 query cursor rows last found long ih =>
    have filled : rows ≠ [] := List.ne_nil_of_mem (List.mem_of_getLast? found)
    have follows : follow LogEntry.id chunkSize cursor (matching ilike filters (tables query)) =
        some last.id := by
      unfold follow
      rw [← chunk_eq_page, if_neg long, found, Option.map_some]
    rw [walk_of_some ((chunk_eq_page _ _).symm ▸ filled) follows, ← chunk_eq_page, ← ih, iterate]
    split
    · rename_i other
      exact absurd (found.symm.trans other) (by simp)
    · rename_i final other
      obtain rfl := Option.some.inj (found.symm.trans other)
      exact if_neg long

end Export

/-! ## What is exported -/

/-- The table at each query, where the writes of a list are committed after each. -/
def tableAt (table : LogTable) (writes : ℕ → List Write) : ℕ → LogTable
  | 0 => table
  | n + 1 => (writes n).foldl LogTable.commit (tableAt table writes n)

section Writes

variable {table : LogTable} {writes : ℕ → List Write} {entry : LogEntry}

/-- A write brings no line under a number that was assigned. -/
theorem commit_old (write : Write) (old : entry.id ≤ table.issued)
    (stored : entry ∈ (table.commit write).rows) : entry ∈ table.rows := by
  cases write with
  | add skipped new =>
    have cases := (Table.mem_insert (table.add_fresh skipped new)).mp stored
    rcases cases with before | rfl
    · exact before
    · simp only at old
      omega
  | prune before => exact List.mem_of_mem_filter stored

/-- A commit issues no id again. -/
theorem issued_le_commit (write : Write) : table.issued ≤ (table.commit write).issued := by
  cases write with
  | add skipped new =>
    show table.issued ≤ table.issued + 1 + skipped
    omega
  | prune before => exact le_rfl

/-- Nor do any number of writes. -/
theorem commits_old {batch : List Write} (old : entry.id ≤ table.issued) :
    table.issued ≤ (batch.foldl LogTable.commit table).issued ∧
      (entry ∈ (batch.foldl LogTable.commit table).rows → entry ∈ table.rows) := by
  induction batch generalizing table with
  | nil => exact ⟨le_rfl, id⟩
  | cons write rest ih =>
    have grows : table.issued ≤ (table.commit write).issued := issued_le_commit write
    have onward := ih (old.trans grows)
    exact ⟨grows.trans onward.1, fun stored => commit_old write old (onward.2 stored)⟩

/-- A line under a number that was assigned at the start is there before if it is there after. -/
theorem tableAt_old (old : entry.id ≤ table.issued) (n : ℕ) :
    entry.id ≤ (tableAt table writes n).issued ∧
      (entry ∈ (tableAt table writes (n + 1)).rows → entry ∈ (tableAt table writes n).rows) := by
  induction n with
  | zero => exact ⟨old, (commits_old old).2⟩
  | succ n ih =>
    have grows : (tableAt table writes n).issued ≤ (tableAt table writes (n + 1)).issued :=
      (commits_old ih.1).1
    have further := ih.1.trans grows
    exact ⟨further, (commits_old further).2⟩

end Writes

section Exported

variable (ilike : String → String → Bool) (filters : Filters) (chunkSize : ℕ)

/-- The cursor of a query of an export, if the export gets that far. -/
def queryCursor (tables : ℕ → LogTable) (query : ℕ) : Option (Option ℕ) :=
  cursorAt LogEntry.id chunkSize (fun n => matching ilike filters (tables n)) 0 none query

/-- A line is pruned before an export comes to it: a query above the line does not find it. -/
def PrunedAhead (tables : ℕ → LogTable) (entry : LogEntry) : Prop :=
  ∃ query cursor, queryCursor ilike filters chunkSize tables query = some cursor ∧
    ahead LogEntry.id cursor entry = true ∧ entry ∉ (tables query).rows

variable {ilike filters chunkSize} {table : LogTable} {writes : ℕ → List Write} {entry : LogEntry}

/-- The matching entries are the rows that pass the filters. -/
theorem mem_matching :
    entry ∈ matching ilike filters table ↔ entry ∈ table.rows ∧ filtered ilike filters entry := by
  unfold matching
  rw [List.mem_reverse, List.mem_filter]
  rfl

/-- The matching entries come latest first. -/
theorem matching_descending :
    (matching ilike filters table).Pairwise fun first second => second.id < first.id :=
  List.pairwise_reverse.mpr (table.rows.ascending.sublist List.filter_sublist)

/-- An export holds the lines that were there at the start, pass the filters and were not pruned
before it came to them. -/
theorem mem_iterate (positive : 0 < chunkSize) :
    entry ∈ (iterate ilike filters chunkSize (tableAt table writes) 0 none).flatten ↔
      entry ∈ table.rows ∧ filtered ilike filters entry ∧
        ¬ PrunedAhead ilike filters chunkSize (tableAt table writes) entry := by
  have settled : ∀ last, follow LogEntry.id chunkSize none (matching ilike filters table) =
      some last → ∀ n (row : LogEntry), row.id < last →
      row ∈ matching ilike filters (tableAt table writes (0 + n + 1)) →
      row ∈ matching ilike filters (tableAt table writes (0 + n)) := by
    intro last follows n row below later
    obtain ⟨first, inside, rfl⟩ := exists_of_follow follows
    have stored := (mem_matching.mp (mem_page inside).1).1
    have old := below.le.trans (table.assigned first stored)
    obtain ⟨there, passes⟩ := mem_matching.mp later
    exact mem_matching.mpr ⟨(tableAt_old old _).2 there, passes⟩
  rw [iterate_eq_walk, mem_walk (fun _ => matching_descending) positive 0 none settled]
  constructor
  · rintro ⟨-, stays⟩
    have first := mem_matching.mp (stays 0 none rfl rfl)
    refine ⟨first.1, first.2, ?_⟩
    rintro ⟨query, cursor, reached, unmet, missing⟩
    have there := mem_matching.mp (stays query cursor reached unmet)
    rw [Nat.zero_add] at there
    exact missing there.1
  · rintro ⟨-, passes, kept⟩
    refine ⟨rfl, fun n cursor reached unmet => mem_matching.mpr ⟨?_, passes⟩⟩
    by_contra missing
    rw [Nat.zero_add] at missing
    exact kept ⟨n, cursor, reached, unmet, missing⟩

/-- Whatever is written and pruned between its chunks, an export makes finitely many queries, its
lines descend, and a line that is there at the start, passes the filters and is not pruned before
the export comes to it is exported once. -/
theorem iterate_exact (ilike : String → String → Bool) (filters : Filters) (chunkSize : ℕ)
    (positive : 0 < chunkSize) (table : LogTable) (writes : ℕ → List Write) :
    let tables := tableAt table writes
    let chunks := iterate ilike filters chunkSize tables 0 none
    queryCursor ilike filters chunkSize tables (chunks.length + 1) = none ∧
      chunks.flatten.Pairwise (fun first second => second.id < first.id) ∧
      ∀ entry ∈ table.rows, filtered ilike filters entry →
        ¬ PrunedAhead ilike filters chunkSize tables entry → chunks.flatten.count entry = 1 := by
  intro tables chunks
  have descends : chunks.flatten.Pairwise fun first second => second.id < first.id := by
    show (iterate ilike filters chunkSize tables 0 none).flatten.Pairwise _
    rw [iterate_eq_walk]
    exact (walk_descending (fun _ => matching_descending) 0 none).2
  refine ⟨?_, descends, fun entry stored passes kept => ?_⟩
  · show queryCursor _ _ _ tables ((iterate ilike filters chunkSize tables 0 none).length + 1) = _
    rw [iterate_eq_walk]
    exact cursorAt_length 0 none
  · have distinct : chunks.flatten.Nodup := descends.imp fun below same => by
      rw [same] at below
      exact lt_irrefl _ below
    exact List.count_eq_one_of_mem distinct ((mem_iterate positive).mpr ⟨stored, passes, kept⟩)

/-- Two entries are exported while one is added and one is removed. -/
theorem iterate_exact_two :
    let ilike : String → String → Bool := fun _ _ => true
    let filters : Filters := { since := some 4 }
    let table := (LogTable.empty.add 0 ⟨3, .info, .api, "first", none, none, none⟩).add 1
      ⟨5, .error, .backup, "second", none, some 2, none⟩
    let tables := tableAt table fun _ =>
      [.add 0 ⟨7, .info, .system, "later", none, none, none⟩, .prune 4]
    let chunks := iterate ilike filters 1 tables 0 none
    queryCursor ilike filters 1 tables (chunks.length + 1) = none ∧
      chunks.flatten.Pairwise (fun first second => second.id < first.id) ∧
      ∀ entry ∈ table.rows, filtered ilike filters entry →
        ¬ PrunedAhead ilike filters 1 tables entry → chunks.flatten.count entry = 1 :=
  iterate_exact _ _ 1 (by decide) _ _

end Exported

end ProxSync.Logs
