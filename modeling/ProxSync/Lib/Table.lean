import Mathlib
/-!
# Tables keyed in ascending order

A table is a list of rows whose keys strictly ascend, so a key names at most one row and the
list is the rows in key order. Inserting takes a key above every stored one, the way an
autoincrement primary key is assigned; modifying takes a function that keeps the key. Lookups,
membership and counts of a table after either operation are given by equations.
-/
namespace ProxSync.Lib

universe u v

/-- Rows in strictly ascending order of their keys. -/
structure Table {Row : Type u} {κ : Type v} [LinearOrder κ] (key : Row → κ) where
  /-- The stored rows, in key order. -/
  rows : List Row
  /-- No key occurs twice and the rows are in key order. -/
  ascending : rows.Pairwise (fun first second => key first < key second)

namespace Table

variable {Row : Type u} {κ : Type v} [LinearOrder κ] {key : Row → κ}

instance : Membership Row (Table key) := ⟨fun table row => row ∈ table.rows⟩

/-- Membership is membership in the row list. -/
theorem mem_iff {table : Table key} {row : Row} : row ∈ table ↔ row ∈ table.rows := Iff.rfl

instance [DecidableEq Row] (table : Table key) (row : Row) : Decidable (row ∈ table) :=
  inferInstanceAs (Decidable (row ∈ table.rows))

instance (table : Table key) (holds : Row → Prop) [DecidablePred holds] :
    Decidable (∀ row ∈ table, holds row) :=
  inferInstanceAs (Decidable (∀ row ∈ table.rows, holds row))

instance (table : Table key) (holds : Row → Prop) [DecidablePred holds] :
    Decidable (∃ row ∈ table, holds row) :=
  inferInstanceAs (Decidable (∃ row ∈ table.rows, holds row))

/-- The table without rows. -/
def empty : Table key := ⟨[], .nil⟩

/-- The empty table holds no row. -/
@[simp] theorem not_mem_empty (row : Row) : row ∉ (empty : Table key) := by
  simp [mem_iff, empty]

/-- The table of one row. -/
def singleton (row : Row) : Table key := ⟨[row], List.pairwise_singleton _ _⟩

/-- Two stored rows with one key are the same row. -/
theorem eq_of_key {table : Table key} {first second : Row} (left : first ∈ table)
    (right : second ∈ table) (same : key first = key second) : first = second := by
  have forward : table.rows.Pairwise fun first second => key first = key second → first = second :=
    table.ascending.imp fun below equal => absurd equal below.ne
  have backward : table.rows.Pairwise fun first second => key second = key first → second = first :=
    table.ascending.imp fun below equal => absurd equal below.ne'
  exact forward.forall_of_forall_of_flip (fun _ _ _ => rfl) backward left right same

/-- A stored row splits the row list into the rows before it and the rows after it. -/
theorem exists_split {table : Table key} {row : Row} (stored : row ∈ table) :
    ∃ before after, table.rows = before ++ row :: after ∧
      (∀ other ∈ before, key other ≠ key row) ∧ (∀ other ∈ after, key other ≠ key row) := by
  obtain ⟨before, after, split⟩ := List.append_of_mem stored
  have ordered := table.ascending
  rw [split, List.pairwise_append, List.pairwise_cons] at ordered
  obtain ⟨_, ⟨above, _⟩, below⟩ := ordered
  exact ⟨before, after, split, fun other found => (below other found row (by simp)).ne,
    fun other found => (above other found).ne'⟩

/-- The row with a key, if one is stored. -/
def get (table : Table key) (k : κ) : Option Row := table.rows.find? fun row => key row == k

/-- A lookup returns exactly the stored row with the key. -/
theorem get_eq_some {table : Table key} {k : κ} {row : Row} :
    table.get k = some row ↔ row ∈ table ∧ key row = k := by
  constructor
  · intro found
    have named := List.find?_some found
    exact ⟨List.mem_of_find?_eq_some found, by simpa using named⟩
  · rintro ⟨stored, named⟩
    cases found : table.get k with
    | none =>
      have absent := List.find?_eq_none.mp found row stored
      simp [named] at absent
    | some other =>
      have named' : key other = k := by simpa using List.find?_some found
      rw [eq_of_key (List.mem_of_find?_eq_some found) stored (named'.trans named.symm)]

/-- A stored row is found under its own key. -/
theorem get_of_mem {table : Table key} {row : Row} (stored : row ∈ table) :
    table.get (key row) = some row :=
  get_eq_some.mpr ⟨stored, rfl⟩

/-- A lookup fails exactly when no stored row has the key. -/
theorem get_eq_none {table : Table key} {k : κ} :
    table.get k = none ↔ ∀ row ∈ table, key row ≠ k := by
  simp [get, mem_iff]

/-- Replace the row with a key by its image; every other row stays. -/
def modify (table : Table key) (k : κ) (update : Row → Row)
    (keeps : ∀ row, key (update row) = key row) : Table key where
  rows := table.rows.map fun row => if key row = k then update row else row
  ascending := by
    have same : ∀ row, key (if key row = k then update row else row) = key row := by
      intro row
      by_cases named : key row = k <;> simp [named, keeps]
    simpa [List.pairwise_map, same] using table.ascending

section Modify

variable {table : Table key} {k : κ} {update : Row → Row}
  (keeps : ∀ row, key (update row) = key row)

/-- The rows of a modified table: the image of the named row, and every other row. -/
theorem mem_modify {row : Row} : row ∈ table.modify k update keeps ↔
    (∃ old ∈ table, key old = k ∧ row = update old) ∨ (row ∈ table ∧ key row ≠ k) := by
  simp only [mem_iff, modify, List.mem_map]
  constructor
  · rintro ⟨old, stored, rfl⟩
    by_cases named : key old = k
    · exact .inl ⟨old, stored, named, by simp [named]⟩
    · exact .inr ⟨by simpa [named] using stored, by simp [named]⟩
  · rintro (⟨old, stored, named, rfl⟩ | ⟨stored, other⟩)
    · exact ⟨old, stored, by simp [named]⟩
    · exact ⟨row, stored, by simp [other]⟩

/-- Modifying a stored row replaces that row and no other. -/
theorem mem_modify_of_mem {record row : Row} (stored : record ∈ table) :
    row ∈ table.modify (key record) update keeps ↔
      row = update record ∨ (row ∈ table ∧ key row ≠ key record) := by
  rw [mem_modify keeps]
  constructor
  · rintro (⟨old, before, same, rfl⟩ | other)
    · exact .inl (eq_of_key before stored same ▸ rfl)
    · exact .inr other
  · rintro (rfl | other)
    · exact .inl ⟨record, stored, rfl, rfl⟩
    · exact .inr other

/-- What holds of a stored row, and of its image if it is the modified one, holds of a row of the
modified table. -/
theorem exists_mem_modify {holds : Row → Prop} {row : Row} (stored : row ∈ table)
    (kept : holds row) (image : key row = k → holds (update row)) :
    ∃ later ∈ table.modify k update keeps, holds later := by
  by_cases same : key row = k
  · exact ⟨update row, (mem_modify keeps).mpr (.inl ⟨row, stored, same, rfl⟩), image same⟩
  · exact ⟨row, (mem_modify keeps).mpr (.inr ⟨stored, same⟩), kept⟩

/-- A lookup in a modified table is the image of the old lookup at the modified key. -/
theorem get_modify {j : κ} : (table.modify k update keeps).get j =
    if j = k then (table.get j).map update else table.get j := by
  by_cases same : j = k
  · subst same
    cases found : table.get j with
    | none =>
      rw [get_eq_none] at found
      rw [if_pos rfl, Option.map_none, get_eq_none]
      intro row stored
      rcases (mem_modify keeps).mp stored with ⟨old, before, named, -⟩ | ⟨-, other⟩
      · exact absurd named (found old before)
      · exact other
    | some old =>
      obtain ⟨stored, named⟩ := get_eq_some.mp found
      rw [if_pos rfl, Option.map_some, get_eq_some]
      exact ⟨(mem_modify keeps).mpr (.inl ⟨old, stored, named, rfl⟩), (keeps old).trans named⟩
  · rw [if_neg same]
    cases found : table.get j with
    | none =>
      rw [get_eq_none] at found ⊢
      intro row stored
      rcases (mem_modify keeps).mp stored with ⟨old, before, named, rfl⟩ | ⟨before, -⟩
      · rw [keeps]
        exact found old before
      · exact found row before
    | some row =>
      obtain ⟨stored, named⟩ := get_eq_some.mp found
      rw [get_eq_some]
      exact ⟨(mem_modify keeps).mpr (.inr ⟨stored, named ▸ same⟩), named⟩

/-- Modifying a stored row replaces it in place. -/
theorem modify_rows {row : Row} {before after : List Row}
    (split : table.rows = before ++ row :: after) (named : key row = k)
    (ahead : ∀ other ∈ before, key other ≠ key row)
    (behind : ∀ other ∈ after, key other ≠ key row) :
    (table.modify k update keeps).rows = before ++ update row :: after := by
  have unchanged : ∀ rows : List Row, (∀ other ∈ rows, key other ≠ key row) →
      rows.map (fun row => if key row = k then update row else row) = rows := by
    intro rows apart
    refine (List.map_congr_left fun other stored => ?_).trans (List.map_id rows)
    exact if_neg (named ▸ apart other stored)
  simp only [modify, split, List.map_append, List.map_cons, unchanged before ahead,
    unchanged after behind, if_pos named]

end Modify

/-- Rewrite every row by a function that keeps its key. -/
def map (table : Table key) (update : Row → Row) (keeps : ∀ row, key (update row) = key row) :
    Table key where
  rows := table.rows.map update
  ascending := by simpa [List.pairwise_map, keeps] using table.ascending

/-- The rows of a rewritten table are the images of the old ones. -/
theorem mem_map {table : Table key} {update : Row → Row}
    (keeps : ∀ row, key (update row) = key row) {row : Row} :
    row ∈ table.map update keeps ↔ ∃ old ∈ table, update old = row := by
  simp [mem_iff, map]

/-- A lookup in a rewritten table is the image of the old lookup. -/
theorem get_map {table : Table key} {update : Row → Row}
    (keeps : ∀ row, key (update row) = key row) {k : κ} :
    (table.map update keeps).get k = (table.get k).map update := by
  cases found : table.get k with
  | none =>
    rw [get_eq_none] at found
    rw [Option.map_none, get_eq_none]
    intro row stored
    obtain ⟨old, before, rfl⟩ := (mem_map keeps).mp stored
    rw [keeps]
    exact found old before
  | some row =>
    obtain ⟨stored, named⟩ := get_eq_some.mp found
    rw [Option.map_some, get_eq_some]
    exact ⟨(mem_map keeps).mpr ⟨row, stored, rfl⟩, (keeps row).trans named⟩

/-- Number of rows that satisfy a test. -/
def count (table : Table key) (test : Row → Bool) : Nat := table.rows.countP test

/-- A modified row contributes to a count what its image contributes. -/
theorem count_modify {table : Table key} {row : Row} {update : Row → Row}
    (keeps : ∀ row, key (update row) = key row) (stored : row ∈ table) (test : Row → Bool) :
    (table.modify (key row) update keeps).count test + (if test row then 1 else 0) =
      table.count test + (if test (update row) then 1 else 0) := by
  obtain ⟨before, after, split, ahead, behind⟩ := exists_split stored
  simp only [count, modify_rows keeps split rfl ahead behind, split, List.countP_append,
    List.countP_cons]
  omega

/-- A rewrite that makes no row satisfy a test does not raise its count. -/
theorem count_map_le {table : Table key} {update : Row → Row}
    (keeps : ∀ row, key (update row) = key row) {test : Row → Bool}
    (calm : ∀ row ∈ table, test (update row) = true → test row = true) :
    (table.map update keeps).count test ≤ table.count test := by
  simp only [count, map, List.countP_map]
  exact List.countP_mono_left calm

/-- A row whose image satisfies a test only if it did before does not raise the count. -/
theorem count_modify_le {table : Table key} {k : κ} {update : Row → Row}
    (keeps : ∀ row, key (update row) = key row) {test : Row → Bool}
    (calm : ∀ row ∈ table, key row = k → test (update row) = true → test row = true) :
    (table.modify k update keeps).count test ≤ table.count test := by
  simp only [count, modify, List.countP_map]
  apply List.countP_mono_left
  intro row stored held
  by_cases named : key row = k
  · exact calm row stored named (by simpa [named] using held)
  · simpa [named] using held

/-- Append a row whose key is above every stored key. -/
def insert (table : Table key) (row : Row) (fresh : ∀ other ∈ table, key other < key row) :
    Table key where
  rows := table.rows ++ [row]
  ascending := by
    rw [List.pairwise_append]
    exact ⟨table.ascending, by simp, fun other stored new isNew => by
      rw [List.mem_singleton.mp isNew]
      exact fresh other stored⟩

section Insert

variable {table : Table key} {row : Row} (fresh : ∀ other ∈ table, key other < key row)

/-- The rows after an insertion: the new row and every old one. -/
theorem mem_insert {other : Row} :
    other ∈ table.insert row fresh ↔ other ∈ table ∨ other = row := by
  simp [mem_iff, insert]

/-- An insertion adds the new row's contribution to a count. -/
theorem count_insert (test : Row → Bool) :
    (table.insert row fresh).count test = table.count test + (if test row then 1 else 0) := by
  simp [count, insert, List.countP_append, List.countP_singleton]

/-- Every lookup of a key other than the inserted one is unchanged. -/
theorem get_insert_of_ne {k : κ} (other : k ≠ key row) :
    (table.insert row fresh).get k = table.get k := by
  cases found : table.get k with
  | none =>
    rw [get_eq_none] at found ⊢
    intro stored member
    rcases (mem_insert fresh).mp member with old | rfl
    · exact found stored old
    · exact other.symm
  | some stored =>
    obtain ⟨old, named⟩ := get_eq_some.mp found
    rw [get_eq_some]
    exact ⟨(mem_insert fresh).mpr (.inl old), named⟩

end Insert

section Append

variable {stamp : Row → Nat} {table : Table stamp} {row : Nat → Row}

/-- The key the next row is assigned: one above the last stored key. -/
def nextKey (table : Table stamp) : Nat := (table.rows.getLast?.map stamp).getD 0 + 1

/-- Every stored key is below the next one. -/
theorem lt_nextKey {other : Row} (stored : other ∈ table) : stamp other < table.nextKey := by
  obtain ⟨initial, last, split⟩ : ∃ initial last, table.rows = initial ++ [last] := by
    have nonempty : table.rows ≠ [] := List.ne_nil_of_mem stored
    exact ⟨_, _, (List.dropLast_append_getLast nonempty).symm⟩
  have greatest : table.nextKey = stamp last + 1 := by simp [nextKey, split]
  have ordered := table.ascending
  rw [split, List.pairwise_append] at ordered
  rw [greatest]
  rcases List.mem_append.mp (split ▸ stored : other ∈ initial ++ [last]) with earlier | final
  · have below := ordered.2.2 other earlier last (by simp)
    omega
  · rw [List.mem_singleton.mp final]
    omega

/-- Append a row under the next key. -/
def append (table : Table stamp) (row : Nat → Row) (named : ∀ key, stamp (row key) = key) :
    Table stamp :=
  table.insert (row table.nextKey) fun _ stored => (named _).symm ▸ lt_nextKey stored

/-- The rows after an append: the new row and every old one. -/
theorem mem_append (named : ∀ key, stamp (row key) = key) {other : Row} :
    other ∈ table.append row named ↔ other ∈ table ∨ other = row table.nextKey :=
  mem_insert _

end Append

end Table

end ProxSync.Lib
