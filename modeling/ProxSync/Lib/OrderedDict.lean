import Mathlib.Data.List.AList
import Mathlib.Data.List.DropRight
/-!
# Dictionaries in order of insertion

Mathlib's association lists, read as dictionaries that remember the order of their keys: the first
entry is the newest. Assigning to a key that is there keeps its place, and the oldest keys can be
dropped.
-/
namespace ProxSync.Lib

universe u v

/-- A dictionary, newest key first. -/
abbrev OrderedDict (κ : Type u) (ν : Type v) := AList fun _ : κ => ν

namespace OrderedDict

variable {κ : Type u} {ν : Type v} [DecidableEq κ] {key other : κ} {value : ν}
variable {dict : OrderedDict κ ν}

/-- Assign a value to a key, which is new or keeps its place. -/
def assign (dict : OrderedDict κ ν) (key : κ) (value : ν) : OrderedDict κ ν :=
  if (dict.lookup key).isSome then dict.replace key value else dict.insert key value

/-- The newest keys, as many as a limit allows. -/
def newest (dict : OrderedDict κ ν) (limit : Nat) : OrderedDict κ ν :=
  ⟨dict.entries.take limit, dict.nodupKeys.sublist (List.take_sublist _ _)⟩

/-- Drop the oldest keys as long as their values pass a test. -/
def dropOldest (dict : OrderedDict κ ν) (test : ν → Bool) : OrderedDict κ ν :=
  ⟨dict.entries.rdropWhile fun entry => test entry.2,
    dict.nodupKeys.sublist (List.rdropWhile_prefix _ _).sublist⟩

/-- The first entry of a key is replaced. -/
theorem kreplace_cons (first : κ) (stored : ν) (rest : List (Sigma fun _ : κ => ν)) :
    List.kreplace key value (⟨first, stored⟩ :: rest) =
      if key = first then ⟨key, value⟩ :: rest else ⟨first, stored⟩ :: rest.kreplace key value := by
  unfold List.kreplace
  split
  · rename_i same
    exact List.lookmap_cons_some _ rest (if_pos same)
  · rename_i differ
    exact List.lookmap_cons_none _ rest (if_neg differ)

/-- A value that replaces another is found under its key. -/
theorem dlookup_kreplace {entries : List (Sigma fun _ : κ => ν)}
    (tracked : (entries.dlookup key).isSome = true) :
    (entries.kreplace key value).dlookup key = some value := by
  induction entries with
  | nil => cases tracked
  | cons entry rest ih =>
    obtain ⟨first, stored⟩ := entry
    by_cases same : key = first
    · rw [kreplace_cons, if_pos same, List.dlookup_cons_eq]
    · rw [List.dlookup_cons_ne _ _ same] at tracked
      rw [kreplace_cons, if_neg same, List.dlookup_cons_ne _ _ same]
      exact ih tracked

/-- A value that replaces another leaves the other keys alone. -/
theorem dlookup_kreplace_ne (entries : List (Sigma fun _ : κ => ν)) (differ : other ≠ key) :
    (entries.kreplace key value).dlookup other = entries.dlookup other := by
  induction entries with
  | nil => rfl
  | cons entry rest ih =>
    obtain ⟨first, stored⟩ := entry
    by_cases same : key = first
    · subst same
      rw [kreplace_cons, if_pos rfl, List.dlookup_cons_ne _ _ differ,
        List.dlookup_cons_ne _ _ differ]
    · rw [kreplace_cons, if_neg same]
      by_cases found : other = first
      · subst found
        rw [List.dlookup_cons_eq, List.dlookup_cons_eq]
      · rw [List.dlookup_cons_ne _ _ found, List.dlookup_cons_ne _ _ found]
        exact ih

/-- An assigned value is found under its key. -/
theorem lookup_assign : (assign dict key value).lookup key = some value := by
  unfold assign
  split
  · rename_i tracked
    exact dlookup_kreplace tracked
  · exact AList.lookup_insert dict

/-- Assigning leaves the other keys alone. -/
theorem lookup_assign_ne (differ : other ≠ key) :
    (assign dict key value).lookup other = dict.lookup other := by
  unfold assign
  split
  · exact dlookup_kreplace_ne dict.entries differ
  · exact AList.lookup_insert_ne differ

/-- An assigned key is there; a new one is the newest. -/
theorem keys_assign : (assign dict key value).keys =
    if key ∈ dict then dict.keys else key :: dict.keys := by
  unfold assign
  by_cases tracked : key ∈ dict
  · rw [if_pos (AList.lookup_isSome.mpr tracked), if_pos tracked, AList.keys_replace]
  · rw [if_neg (fun found => tracked (AList.lookup_isSome.mp found)), if_neg tracked,
      AList.keys_insert, List.erase_of_not_mem tracked]

omit [DecidableEq κ] in
/-- The keys that remain are the newest ones. -/
theorem keys_newest (dict : OrderedDict κ ν) (limit : Nat) :
    (newest dict limit).keys = dict.keys.take limit :=
  List.map_take

/-- Keys that remain keep their values. -/
theorem lookup_newest {limit : Nat} (tracked : (newest dict limit).lookup key = some value) :
    dict.lookup key = some value := by
  have kept := List.of_mem_dlookup (Option.mem_def.mpr tracked)
  exact List.mem_dlookup dict.nodupKeys (List.mem_of_mem_take kept)

omit [DecidableEq κ] in
/-- Nothing is dropped from a dictionary within the limit. -/
theorem newest_of_length {limit : Nat} (within : dict.entries.length ≤ limit) :
    newest dict limit = dict :=
  AList.ext (List.take_of_length_le within)

/-- Keys that are not dropped keep their values. -/
theorem lookup_of_dropOldest {test : ν → Bool}
    (kept : (dropOldest dict test).lookup key = some value) : dict.lookup key = some value := by
  have entry := List.of_mem_dlookup (Option.mem_def.mpr kept)
  exact List.mem_dlookup dict.nodupKeys ((List.rdropWhile_prefix _ _).subset entry)

/-- A list without the last elements that pass a test still has those that do not. -/
theorem mem_rdropWhile {α : Type*} {test : α → Bool} {item : α} {items : List α}
    (inside : item ∈ items) (fails : test item = false) : item ∈ items.rdropWhile test := by
  induction items using List.reverseRecOn with
  | nil => cases inside
  | append_singleton front last ih =>
    by_cases passes : test last = true
    · rw [List.rdropWhile_concat_pos _ _ _ passes]
      apply ih
      rcases List.mem_append.mp inside with before | final
      · exact before
      · rw [List.mem_singleton.mp final] at fails
        exact absurd (passes.symm.trans fails) Bool.false_ne_true.symm
    · rw [List.rdropWhile_concat_neg _ _ _ passes]
      exact inside

/-- A value that fails the test is not dropped. -/
theorem lookup_dropOldest {test : ν → Bool} (tracked : dict.lookup key = some value)
    (fails : test value = false) : (dropOldest dict test).lookup key = some value := by
  have entry := List.of_mem_dlookup (Option.mem_def.mpr tracked)
  exact List.mem_dlookup (dropOldest dict test).nodupKeys (mem_rdropWhile entry fails)

end OrderedDict

end ProxSync.Lib
